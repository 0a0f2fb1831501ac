import NowPlaying.Proofs.Template.Begun
import NowPlaying.Proofs.Template.Concatenation

/-!
# Where formats are malformed

A malformed format is an accepted format, a directive that has begun, as far as nothing is wrong with it, and a rest with the fault at its front. The main statement, `tokenize_eq_error_iff_breaks`, says that there are no other malformed formats and that the fault is reported in front of the rest.
-/

namespace NowPlaying

open Template Text

namespace Template

/-! ### What the scan refuses -/

theorem scan_append_opener {reading : Reading} (hreading : reading.WellFormed) (hlast : reading.last.getLast? ≠ some '{')
    (position : Nat) (body : List Char) :
    scan position (reading.chars ++ (Mark.opener.chars ++ body)) =
      (readDirective (position + byteSize reading.chars) body >>= fun d =>
        (scan d.next d.rest).map (d.token :: ·)).map (joinTokens reading.tokens) := by
  have hseam : ¬ Mark.opener.Straddles reading.last (Mark.opener.chars ++ body) := by
    rw [opener_straddles_iff]
    exact hlast
  have hopener : scan (position + byteSize reading.chars) ([] ++ (Mark.opener.chars ++ body)) = _ :=
    scan_of_opener unmarked_nil.unopened (by simp)
  rw [hreading.scan_append hseam]
  exact congrArg _ hopener

/-- A scan fails at the first directive that cannot be read. -/
theorem scan_eq_error_iff {position : Nat} {s : List Char} {what : Malformed} :
    scan position s = .error what ↔
      ∃ (reading : Reading) (body : List Char), reading.WellFormed ∧ reading.last.getLast? ≠ some '{' ∧
        s = reading.chars ++ (Mark.opener.chars ++ body) ∧
        readDirective (position + byteSize reading.chars) body = .error what := by
  constructor
  · intro h
    fun_induction scan position s with
    | case1 => contradiction
    | case2 position s text body hopening other hdirective =>
      obtain ⟨rfl, htext, hlast⟩ := upTo_openerAt?_eq_some_iff.mp hopening
      obtain rfl := Except.error.inj h
      exact ⟨.nil text, body, Reading.wellFormed_nil.mpr htext, hlast, rfl, hdirective⟩
    | case3 position s text body hopening d hdirective other hrest ih =>
      obtain ⟨rfl, htext⟩ := upTo_openerAt?_eq_some_iff.mp hopening
      obtain ⟨directive, hwritten, hbody, -, hnext⟩ := opener_append_of_readDirective hdirective
      obtain rfl := Except.error.inj h
      obtain ⟨reading, more, hreading, hlast, hchars, hfails⟩ := ih hrest
      refine ⟨reading.cons text directive, more, Reading.wellFormed_cons.mpr ⟨htext, hwritten, hreading⟩, hlast, ?_, ?_⟩
      · rw [hbody, hchars, Reading.chars_cons, List.append_assoc, List.append_assoc]
      · rw [Reading.chars_cons, byteSize_append, byteSize_append, ← Nat.add_assoc, ← Nat.add_assoc, ← hnext]
        exact hfails
    | case4 => contradiction
  · intro h
    obtain ⟨reading, body, hreading, hlast, rfl, hfails⟩ := h
    rw [scan_append_opener hreading hlast, hfails]
    rfl

end Template

/-! ### Formats that end in a directive -/

/-- The format ends before the directive that it ends in. -/
def Fault.IsUnclosed (fault : Fault) : Prop := fault = .unclosedDirective ∨ fault = .unclosedCall

/-- A format made of an accepted one and a directive that has begun. -/
structure EndsIn (format accepted : String) (begun : Begun) : Prop where
  tokens : ∃ tokens, tokenize accepted = .ok tokens
  last : accepted.toList.getLast? ≠ some '{'
  wellFormed : begun.WellFormed
  chars : format.toList = accepted.toList ++ begun.chars

theorem EndsIn.utf8ByteSize_eq {format accepted : String} {begun : Begun} (h : EndsIn format accepted begun) :
    format.utf8ByteSize = accepted.utf8ByteSize + byteSize begun.chars := by
  rw [← byteSize_toList, h.chars, byteSize_append, byteSize_toList]

theorem EndsIn.exists_reading {format accepted : String} {begun : Begun} (h : EndsIn format accepted begun) :
    ∃ reading : Reading, reading.WellFormed ∧ reading.last.getLast? ≠ some '{' ∧ reading.chars = accepted.toList := by
  obtain ⟨tokens, htokens⟩ := h.tokens
  obtain ⟨reading, ⟨hreading, hchars⟩, -⟩ := tokenize_eq_ok_iff.mp htokens
  exact ⟨reading, hreading, fun hbrace => h.last (hchars ▸ reading.getLast?_chars hbrace), hchars⟩

theorem Template.Reading.getLast?_chars_ne {reading : Reading} (h : reading.last.getLast? ≠ some '{') :
    reading.chars.getLast? ≠ some '{' := by
  induction reading with
  | nil last => exact h
  | cons text directive reading ih =>
    rw [chars_cons, List.getLast?_append, List.getLast?_append]
    cases hlast : reading.chars.getLast? with
    | some c =>
      rw [Option.some_or, Option.some_or, ← hlast]
      exact ih h
    | none =>
      have hchars : directive.chars = ('{' :: '{' :: (directive.inner ++ ['}'])) ++ ['}'] := by simp [Written.chars]
      rw [hchars, List.getLast?_concat, Option.none_or, Option.some_or]
      decide

theorem Template.Reading.WellFormed.endsIn {reading : Reading} (h : reading.WellFormed) (hlast : reading.last.getLast? ≠ some '{')
    {begun : Begun} (hbegun : begun.WellFormed) :
    EndsIn (String.ofList (reading.chars ++ begun.chars)) (String.ofList reading.chars) begun := by
  refine ⟨⟨reading.tokens, tokenize_eq_ok_iff.mpr ⟨reading, ⟨h, ?_⟩, rfl⟩⟩, ?_, hbegun, ?_⟩
  · rw [String.toList_ofList]
  · rw [String.toList_ofList]
    exact Reading.getLast?_chars_ne hlast
  · rw [String.toList_ofList, String.toList_ofList]

/-- A format is malformed exactly when it ends in a directive at the position of the fault, and the fault comes next. -/
theorem tokenize_eq_error_iff_breaks {format : String} {what : Malformed} :
    tokenize format = .error what ↔
      ∃ front rest accepted begun, format = front ++ rest ∧ front.utf8ByteSize = what.position ∧
        EndsIn front accepted begun ∧ begun.Breaks rest.toList what.fault := by
  constructor
  · intro h
    obtain ⟨reading, body, hreading, hlast, hchars, hfails⟩ := scan_eq_error_iff.mp h
    obtain ⟨begun, rest, hbegun, hbreaks, hposition⟩ := readDirective_eq_error_iff.mp hfails
    have hends := hreading.endsIn hlast hbreaks.wellFormed
    refine ⟨_, String.ofList rest, _, begun, ?_, ?_, hends, ?_⟩
    · apply String.toList_injective
      rw [← String.ofList_append, String.toList_ofList, hchars, List.append_assoc, ← hbegun]
    · rw [utf8ByteSize_ofList, byteSize_append, hposition, Nat.zero_add]
    · rwa [String.toList_ofList]
  · rintro ⟨front, rest, accepted, begun, rfl, hposition, hends, hbreaks⟩
    obtain ⟨reading, hreading, hlast, hchars⟩ := hends.exists_reading
    obtain ⟨body, hbody⟩ := hbreaks.opener_isPrefix
    have hfails := hbreaks.readDirective_eq hbody (0 + byteSize reading.chars)
    have hsize : 0 + byteSize reading.chars + byteSize begun.chars = what.position := by
      rw [← hposition, hends.utf8ByteSize_eq, hchars, byteSize_toList, Nat.zero_add]
    rw [hsize] at hfails
    refine scan_eq_error_iff.mpr ⟨reading, body, hreading, hlast, ?_, hfails⟩
    rw [String.toList_append, hends.chars, hchars, List.append_assoc, ← hbody]

end NowPlaying
