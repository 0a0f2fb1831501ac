import NowPlaying.Proofs.Template.Faults

/-!
# Faults point at the first violation

The position of a fault is a place between two characters of the format. What the message names stands behind it, and nothing is wrong in front of it: the format up to there is accepted, or only ends inside the directive that is broken.

All of this is read off what breaks a directive, so nothing here looks at the readers again. A text behind a call has no mark of its own, and its fault is at its first character that is not blank.
-/

namespace NowPlaying

open Template Text

/-! ### What stands at the position of a fault -/

/-- The mark that the message names: the one that is unexpected, the one in front of which a name is missing, or the one that is not matched. -/
def Fault.mark? : Fault → Option Mark
  | .nestedOpener => some .opener
  | .emptyExpression => some .closer
  | .closerInCall => some .closer
  | .strayParen => some .paren
  | .missingHelper => some .paren
  | .strayEndParen => some .endParen
  | .missingArgument => some .endParen
  | .textAfterCall => none
  | .unclosedDirective => some .opener
  | .unclosedCall => some .paren

namespace Template.Begun

variable {begun : Begun} {mark : Mark} {rest : List Char} {fault : Fault}

/-- Whatever refuses a mark names it. -/
theorem mark?_of_refusal? (h : begun.refusal? mark = some fault) : fault.mark? = some mark := by
  cases begun <;> cases mark <;> simp [refusal?] at h <;> grind [Fault.mark?]

theorem Breaks.mark_isPrefix (h : begun.Breaks rest fault) (hmark : fault.mark? = some mark) : mark.chars <+: rest := by
  cases h with
  | mark rest wellFormed last refused =>
    rw [mark?_of_refusal? refused] at hmark
    obtain rfl := Option.some.inj hmark
    exact List.prefix_append _ _
  | textAfterCall => contradiction
  | unclosedDirective wellFormed lacksCloser =>
    obtain rfl := Option.some.inj hmark
    exact lacksCloser.opener_isPrefix
  | unclosedCall =>
    obtain rfl := Option.some.inj hmark
    exact List.prefix_append _ _

theorem Breaks.exists_visible (h : begun.Breaks rest fault) : ∃ c, rest.head? = some c ∧ isBlank c = false := by
  cases hmark : fault.mark? with
  | some mark =>
    obtain ⟨more, rfl⟩ := h.mark_isPrefix hmark
    obtain ⟨c, hc⟩ := Option.isSome_iff_exists.mp (List.isSome_head?.mpr mark.chars_ne_nil)
    exact ⟨c, (mark.head?_chars_append more).trans hc, isBlank_of_mem_chars (List.mem_of_head? hc)⟩
  | none =>
    cases h with
    | mark rest wellFormed last refused =>
      rw [mark?_of_refusal? refused] at hmark
      contradiction
    | textAfterCall rest wellFormed blank visible last => exact ⟨_, rfl, visible⟩
    | unclosedDirective => contradiction
    | unclosedCall => contradiction

end Template.Begun

end NowPlaying
