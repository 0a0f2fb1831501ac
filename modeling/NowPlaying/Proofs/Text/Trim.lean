import Mathlib.Data.List.DropRight
import NowPlaying.Text.Blank

/-!
# Trimming

What the tokenizer needs of trimming: the result stands inside the text, nothing is left exactly when everything was blank, a second trimming finds nothing to do, and blanks put around a text make no difference.
-/

namespace NowPlaying.Text

theorem trimEnd_eq_rdropWhile (s : List Char) : trimEnd s = s.rdropWhile isBlank := rfl

theorem trimEnd_isPrefix (s : List Char) : trimEnd s <+: s := by
  rw [trimEnd_eq_rdropWhile]
  exact List.rdropWhile_prefix _ _

theorem trimStart_isSuffix (s : List Char) : trimStart s <:+ s := List.dropWhile_suffix _

theorem trim_isInfix (s : List Char) : trim s <:+: s :=
  (trimEnd_isPrefix _).isInfix.trans (trimStart_isSuffix s).isInfix

theorem isBlank_head_trimStart {s rest : List Char} {c : Char} (h : trimStart s = c :: rest) : isBlank c = false := by
  have hhead := List.head?_dropWhile_not isBlank s
  rw [show s.dropWhile isBlank = c :: rest from h, List.head?_cons] at hhead
  exact hhead

/-- Cutting the end off a text that begins with no blank leaves a text that begins with none. -/
theorem trimStart_trimEnd_trimStart (s : List Char) : trimStart (trimEnd (trimStart s)) = trimEnd (trimStart s) := by
  cases htext : trimEnd (trimStart s) with
  | nil => rfl
  | cons c rest =>
    obtain ⟨tail, htail⟩ := trimEnd_isPrefix (trimStart s)
    rw [htext, List.cons_append] at htail
    have hhead := isBlank_head_trimStart htail.symm
    simp only [trimStart, List.dropWhile_cons, hhead, Bool.false_eq_true, if_false]

theorem trimEnd_trimEnd (s : List Char) : trimEnd (trimEnd s) = trimEnd s := by
  simp only [trimEnd_eq_rdropWhile]
  exact List.rdropWhile_idempotent _ _

theorem trimEnd_append_cons {c : Char} (h : isBlank c = false) (s t : List Char) :
    trimEnd (s ++ c :: t) = s ++ c :: trimEnd t := by
  have hstop : (c :: s.reverse).dropWhile isBlank = c :: s.reverse := List.dropWhile_cons_of_neg (by simp [h])
  rw [trimEnd, trimEnd, List.reverse_append, List.reverse_cons, List.append_assoc, List.singleton_append, List.dropWhile_append]
  split
  · next hnil =>
    rw [hstop, List.isEmpty_iff.mp hnil, List.reverse_cons, List.reverse_reverse]
    rfl
  · rw [List.reverse_append, List.reverse_cons, List.reverse_reverse, List.append_assoc]
    rfl

theorem trim_trim (s : List Char) : trim (trim s) = trim s := by
  rw [trim, trim, trimStart_trimEnd_trimStart, trimEnd_trimEnd]

theorem trimStart_eq_nil_of_trim_eq_nil {s : List Char} (h : trim s = []) : trimStart s = [] := by
  have hblank : ∀ c ∈ trimStart s, isBlank c := List.rdropWhile_eq_nil_iff.mp h
  cases htext : trimStart s with
  | nil => rfl
  | cons c rest =>
    have hhead := isBlank_head_trimStart htext
    rw [hblank c (htext ▸ List.mem_cons_self)] at hhead
    contradiction

theorem trim_eq_nil_iff {s : List Char} : trim s = [] ↔ ∀ c ∈ s, isBlank c := by
  constructor
  · intro h
    exact List.dropWhile_eq_nil_iff.mp (trimStart_eq_nil_of_trim_eq_nil h)
  · intro h
    have hstart : trimStart s = [] := List.dropWhile_eq_nil_iff.mpr h
    rw [trim, hstart]
    rfl

theorem trim_cons_of_blank {c : Char} (hc : isBlank c) (s : List Char) : trim (c :: s) = trim s := by
  rw [trim, trim, trimStart, List.dropWhile_cons_of_pos hc]
  rfl

theorem trim_concat_of_blank {c : Char} (hc : isBlank c) (s : List Char) : trim (s ++ [c]) = trim s := by
  have hnil : trimStart [c] = [] := List.dropWhile_cons_of_pos hc
  rw [trim, trim, trimStart, List.dropWhile_append]
  split
  · next hblank =>
    rw [List.isEmpty_iff] at hblank
    rw [trimStart, hblank]
    exact congrArg trimEnd hnil
  · exact List.rdropWhile_concat_pos _ _ _ hc

theorem isBlank_getLast?_trim {s : List Char} {c : Char} (h : (trim s).getLast? = some c) : isBlank c = false := by
  have hne : (trimStart s).rdropWhile isBlank ≠ [] := fun hnil => by
    rw [trim, trimEnd_eq_rdropWhile, hnil] at h
    contradiction
  have hlast := List.rdropWhile_last_not isBlank (trimStart s) hne
  rw [trim, trimEnd_eq_rdropWhile, List.getLast?_eq_some_getLast hne] at h
  obtain rfl := Option.some.inj h
  exact Bool.eq_false_iff.mpr hlast

end NowPlaying.Text
