import Mathlib.Data.List.Infix
import NowPlaying.Template.Token

/-!
# Where marks stand

A reader takes the text up to the first mark and looks no further, so what it finds is settled by the text alone: the text in front holds no mark, and no brace at its end makes a double brace with what follows.

The main statements say this of `upTo`, once for the marks of a directive and once for the opener in literal text.
-/

namespace NowPlaying.Template

/-- How a mark is written. -/
def Mark.chars : Mark → List Char
  | .opener => ['{', '{']
  | .closer => ['}', '}']
  | .paren => ['(']
  | .endParen => [')']

/-- No mark stands anywhere in a text. -/
def Unmarked (s : List Char) : Prop := ∀ mark : Mark, ¬ mark.chars <:+: s

/-- No opener stands anywhere in a text. -/
def Unopened (s : List Char) : Prop := ¬ Mark.opener.chars <:+: s

theorem Unmarked.unopened {s : List Char} (h : Unmarked s) : Unopened s := h .opener

theorem Unmarked.of_infix {s t : List Char} (h : Unmarked s) (hinside : t <:+: s) : Unmarked t :=
  fun mark hmark => h mark (hmark.trans hinside)

theorem unmarked_nil : Unmarked [] := by
  intro mark h
  have hlen := h.length_le
  cases mark <;> simp [Mark.chars] at hlen

theorem markAt?_eq_some_iff {s rest : List Char} {mark : Mark} :
    markAt? s = some (mark, rest) ↔ s = mark.chars ++ rest := by
  constructor
  · intro h
    unfold markAt? at h
    split at h <;> simp only [Option.some.injEq, Prod.mk.injEq, reduceCtorEq] at h <;>
      (obtain ⟨rfl, rfl⟩ := h; rfl)
  · intro h
    subst h
    cases mark <;> rfl

theorem openerAt?_eq_some_iff {s rest : List Char} : openerAt? s = some rest ↔ s = Mark.opener.chars ++ rest := by
  constructor
  · intro h
    unfold openerAt? at h
    split at h
    · simp only [Option.some.injEq] at h
      rw [h]
      rfl
    · simp at h
  · intro h
    subst h
    rfl

theorem markAt?_eq_none_iff {s : List Char} : markAt? s = none ↔ ∀ mark : Mark, ¬ mark.chars <+: s := by
  rw [Option.eq_none_iff_forall_ne_some]
  constructor
  · intro h mark hmark
    obtain ⟨rest, rfl⟩ := hmark
    exact h (mark, rest) (markAt?_eq_some_iff.mpr rfl)
  · intro h found hfound
    obtain ⟨mark, rest⟩ := found
    exact h mark ⟨rest, (markAt?_eq_some_iff.mp hfound).symm⟩

theorem openerAt?_eq_none_iff {s : List Char} : openerAt? s = none ↔ ¬ Mark.opener.chars <+: s := by
  rw [Option.eq_none_iff_forall_ne_some]
  constructor
  · intro h hopener
    obtain ⟨rest, rfl⟩ := hopener
    exact h rest (openerAt?_eq_some_iff.mpr rfl)
  · intro h rest hfound
    exact h ⟨rest, (openerAt?_eq_some_iff.mp hfound).symm⟩

/-! ### Up to the first find -/

section UpTo

variable {α : Type} {here : List Char → Option α}

/-- Nothing is found at any place of `text` where `tail` follows it. -/
def Clear (here : List Char → Option α) : List Char → List Char → Prop
  | [], _ => True
  | c :: text, tail => here (c :: (text ++ tail)) = none ∧ Clear here text tail

theorem upTo_append {text tail : List Char} (h : Clear here text tail) :
    upTo here (text ++ tail) = (text ++ (upTo here tail).1, (upTo here tail).2) := by
  induction text with
  | nil => rfl
  | cons c text ih =>
    obtain ⟨hnone, hclear⟩ := h
    simp only [List.cons_append, upTo, hnone, ih hclear]

theorem upTo_eq_some_iff {s text : List Char} {found : α} (hnil : here [] = none) :
    upTo here s = (text, some found) ↔ ∃ tail, s = text ++ tail ∧ here tail = some found ∧ Clear here text tail := by
  constructor
  · intro h
    induction s generalizing text with
    | nil => simp [upTo] at h
    | cons c rest ih =>
      rw [upTo] at h
      cases hfound : here (c :: rest) with
      | some value =>
        simp only [hfound, Prod.mk.injEq, Option.some.injEq] at h
        obtain ⟨rfl, rfl⟩ := h
        exact ⟨c :: rest, rfl, hfound, trivial⟩
      | none =>
        simp only [hfound, Prod.mk.injEq] at h
        obtain ⟨rfl, hlater⟩ := h
        obtain ⟨tail, hrest, htail, hclear⟩ := ih (Prod.ext rfl hlater)
        refine ⟨tail, ?_, htail, ?_, hclear⟩
        · rw [List.cons_append, ← hrest]
        · rw [← hrest]
          exact hfound
  · intro h
    obtain ⟨tail, rfl, htail, hclear⟩ := h
    rw [upTo_append hclear]
    cases tail with
    | nil => simp [hnil] at htail
    | cons c rest => simp only [upTo, htail, List.append_nil]

theorem upTo_eq_none_iff {s text : List Char} : upTo here s = (text, none) ↔ text = s ∧ Clear here s [] := by
  constructor
  · intro h
    induction s generalizing text with
    | nil =>
      simp only [upTo, Prod.mk.injEq, and_true] at h
      exact ⟨h.symm, trivial⟩
    | cons c rest ih =>
      rw [upTo] at h
      cases hfound : here (c :: rest) with
      | some value => simp [hfound] at h
      | none =>
        simp only [hfound, Prod.mk.injEq] at h
        obtain ⟨rfl, hlater⟩ := h
        obtain ⟨htext, hclear⟩ := ih (Prod.ext rfl hlater)
        exact ⟨congrArg _ htext, by rw [List.append_nil]; exact hfound, hclear⟩
  · intro h
    obtain ⟨rfl, hclear⟩ := h
    have h := upTo_append hclear
    simpa only [List.append_nil, upTo] using h

end UpTo

/-! ### Marks across a seam

A mark of one character stands on one side of a seam or on the other. A double brace may also stand on both. -/

/-- The mark begins with the end of `text` and ends with the front of `tail`. -/
def Mark.Straddles (mark : Mark) (text tail : List Char) : Prop :=
  ∃ c, mark.chars = [c, c] ∧ text.getLast? = some c ∧ tail.head? = some c

theorem Mark.chars_ne_nil (mark : Mark) : mark.chars ≠ [] := by cases mark <;> simp [Mark.chars]

theorem Mark.prefix_cons_append_iff {mark : Mark} {c : Char} {text tail : List Char} :
    mark.chars <+: c :: (text ++ tail) ↔ mark.chars <+: c :: text ∨ text = [] ∧ mark.Straddles [c] tail := by
  cases text with
  | nil => cases tail <;> cases mark <;> simp [Mark.chars, Mark.Straddles] <;> grind
  | cons d text => cases mark <;> simp [Mark.chars]

theorem Mark.straddles_cons_iff {mark : Mark} {c : Char} {text tail : List Char} :
    mark.Straddles (c :: text) tail ↔ text = [] ∧ mark.Straddles [c] tail ∨ mark.Straddles text tail := by
  cases text with
  | nil => simp [Mark.Straddles]
  | cons d text => simp [Mark.Straddles, List.getLast?_cons_cons]

/-- A reader of some marks passes over a text exactly when none of them stands in it or across its end. -/
theorem clear_iff {α : Type} {here : List Char → Option α} (marks : Mark → Prop)
    (hhere : ∀ s, here s = none ↔ ∀ mark, marks mark → ¬ mark.chars <+: s) {text tail : List Char} :
    Clear here text tail ↔ ∀ mark, marks mark → ¬ mark.chars <:+: text ∧ ¬ mark.Straddles text tail := by
  induction text with
  | nil =>
    have hnone (mark : Mark) : ¬ mark.chars <:+: [] := by
      rw [List.infix_nil]
      exact mark.chars_ne_nil
    simp [Clear, hnone, Mark.Straddles]
  | cons c text ih =>
    rw [Clear, hhere, ih, ← forall₂_and]
    refine forall₂_congr fun mark _ => ?_
    have hseam : mark.Straddles (c :: text) tail ↔ _ := Mark.straddles_cons_iff
    rw [Mark.prefix_cons_append_iff, List.infix_cons_iff, hseam]
    tauto

theorem clear_markAt?_iff {text tail : List Char} :
    Clear markAt? text tail ↔ Unmarked text ∧ ∀ mark : Mark, ¬ mark.Straddles text tail := by
  rw [clear_iff (fun _ => True) (by simp [markAt?_eq_none_iff]), Unmarked, ← forall_and]
  simp only [true_imp_iff]

theorem clear_openerAt?_iff {text tail : List Char} :
    Clear openerAt? text tail ↔ Unopened text ∧ ¬ Mark.opener.Straddles text tail := by
  rw [clear_iff (· = .opener) (by simp [openerAt?_eq_none_iff])]
  simp only [forall_eq, Unopened]

theorem not_straddles_nil (mark : Mark) (text : List Char) : ¬ mark.Straddles text [] := by
  simp [Mark.Straddles]

theorem Mark.head?_chars_append (mark : Mark) (rest : List Char) : (mark.chars ++ rest).head? = mark.chars.head? := by
  cases mark <;> rfl

theorem opener_straddles_iff {text rest : List Char} :
    Mark.opener.Straddles text (Mark.opener.chars ++ rest) ↔ text.getLast? = some '{' := by
  simp [Mark.Straddles, Mark.chars]

/-- In a text without marks, only a brace at the end can go together with the mark behind it. -/
theorem straddles_iff {text rest : List Char} {mark : Mark} (htext : Unmarked text) :
    (∀ other : Mark, ¬ other.Straddles text (mark.chars ++ rest)) ↔ text.getLast? ≠ mark.chars.head? := by
  constructor
  · intro h hlast
    obtain ⟨c, hc⟩ : ∃ c, mark.chars.head? = some c := by cases mark <;> simp [Mark.chars]
    have hmem : c ∈ text := List.mem_of_getLast? (hlast.trans hc)
    by_cases hdouble : mark.chars = [c, c]
    · refine h mark ⟨c, hdouble, hlast.trans hc, ?_⟩
      rw [Mark.head?_chars_append, hc]
    · have hsingle : mark.chars = [c] := by
        cases mark <;> simp [Mark.chars] at hc hdouble ⊢ <;> grind
      exact htext mark (hsingle ▸ (List.singleton_infix_iff c text).mpr hmem)
  · intro h other hstraddles
    obtain ⟨c, -, hlast, hhead⟩ := hstraddles
    rw [Mark.head?_chars_append] at hhead
    exact h (hlast.trans hhead.symm)

/-! ### What the readers find -/

theorem upTo_markAt?_eq_some_iff {s text rest : List Char} {mark : Mark} :
    upTo markAt? s = (text, some (mark, rest)) ↔
      s = text ++ (mark.chars ++ rest) ∧ Unmarked text ∧ text.getLast? ≠ mark.chars.head? := by
  rw [upTo_eq_some_iff rfl]
  constructor
  · intro h
    obtain ⟨tail, rfl, hfound, hclear⟩ := h
    rw [markAt?_eq_some_iff] at hfound
    obtain ⟨htext, hseam⟩ := clear_markAt?_iff.mp hclear
    rw [hfound] at hseam
    exact ⟨congrArg _ hfound, htext, (straddles_iff htext).mp hseam⟩
  · intro h
    obtain ⟨rfl, htext, hlast⟩ := h
    refine ⟨_, rfl, markAt?_eq_some_iff.mpr rfl, clear_markAt?_iff.mpr ⟨htext, ?_⟩⟩
    exact (straddles_iff htext).mpr hlast

theorem upTo_markAt?_append (mark : Mark) {text rest : List Char} (htext : Unmarked text)
    (hlast : text.getLast? ≠ mark.chars.head?) :
    upTo markAt? (text ++ (mark.chars ++ rest)) = (text, some (mark, rest)) :=
  upTo_markAt?_eq_some_iff.mpr ⟨rfl, htext, hlast⟩

theorem upTo_markAt?_eq_none_iff {s text : List Char} :
    upTo markAt? s = (text, none) ↔ text = s ∧ Unmarked s := by
  rw [upTo_eq_none_iff, clear_markAt?_iff]
  simp only [not_straddles_nil, not_false_eq_true, implies_true, and_true]

theorem upTo_openerAt?_eq_some_iff {s text rest : List Char} :
    upTo openerAt? s = (text, some rest) ↔
      s = text ++ (Mark.opener.chars ++ rest) ∧ Unopened text ∧ text.getLast? ≠ some '{' := by
  rw [upTo_eq_some_iff rfl]
  constructor
  · intro h
    obtain ⟨tail, rfl, hfound, hclear⟩ := h
    rw [openerAt?_eq_some_iff] at hfound
    rw [clear_openerAt?_iff, hfound, opener_straddles_iff] at hclear
    exact ⟨congrArg _ hfound, hclear⟩
  · intro h
    obtain ⟨rfl, htext⟩ := h
    refine ⟨_, rfl, openerAt?_eq_some_iff.mpr rfl, ?_⟩
    rw [clear_openerAt?_iff, opener_straddles_iff]
    exact htext

theorem upTo_openerAt?_append {text : List Char} (rest : List Char) (htext : Unopened text)
    (hlast : text.getLast? ≠ some '{') :
    upTo openerAt? (text ++ (Mark.opener.chars ++ rest)) = (text, some rest) :=
  upTo_openerAt?_eq_some_iff.mpr ⟨rfl, htext, hlast⟩

theorem upTo_openerAt?_eq_none_iff {s text : List Char} :
    upTo openerAt? s = (text, none) ↔ text = s ∧ Unopened s := by
  rw [upTo_eq_none_iff, clear_openerAt?_iff]
  simp only [not_straddles_nil, not_false_eq_true, and_true]

end NowPlaying.Template
