import Mathlib.Data.List.Basic
import NowPlaying.Report
import NowPlaying.Text.Size

/-!
# Places in a text

A line ends behind a character that ends lines, and behind the line feed where that character is a carriage return with a line feed next to it. The place of a character is told by the ends of lines in front of it: their number is the number of its line, and the characters behind the last of them are its column.

The main statement, `place?_append`, says that every character has a place, at the byte position where it begins.
-/

namespace NowPlaying.Report

open Text

/-! ### Ends of lines -/

/-- The character at an index is the last one of what ends a line. -/
def endsAt (s : List Char) (index : Nat) : Bool :=
  match s.drop index with
  | [] => false
  | c :: rest => endsLine c && !(c = '\r' && rest.head? = some '\n')

/-- The number of ends of lines that are over before an index. -/
def lineEnds (s : List Char) (index : Nat) : Nat := (List.range index).countP (endsAt s)

theorem endsAt_cons_succ (c : Char) (s : List Char) (index : Nat) : endsAt (c :: s) (index + 1) = endsAt s index := rfl

theorem endsAt_append_right (s t : List Char) (index : Nat) : endsAt (s ++ t) (s.length + index) = endsAt t index := by
  rw [endsAt, List.drop_length_add_append, endsAt]

theorem lineEnds_succ (s : List Char) (index : Nat) :
    lineEnds s (index + 1) = lineEnds s index + if endsAt s index then 1 else 0 := by
  rw [lineEnds, List.range_succ, List.countP_append, List.countP_singleton, lineEnds]

theorem lineEnds_eq_zero {s : List Char} {index : Nat} (h : ∀ i < index, endsAt s i = false) : lineEnds s index = 0 := by
  rw [lineEnds, List.countP_eq_zero]
  intro i hi
  rw [h i (List.mem_range.mp hi)]
  exact Bool.false_ne_true

theorem lineEnds_append (s t : List Char) (index : Nat) :
    lineEnds (s ++ t) (s.length + index) = lineEnds (s ++ t) s.length + lineEnds t index := by
  induction index with
  | zero => rfl
  | succ index ih => rw [← Nat.add_assoc, lineEnds_succ, ih, endsAt_append_right, lineEnds_succ, Nat.add_assoc]

/-! ### Lines -/

/-- A line of a text with what ends it, between the lines in front of it and those behind. -/
structure IsLine (s front line rest : List Char) : Prop where
  chars : s = front ++ (line ++ rest)
  nonempty : line ≠ []
  begins : front ≠ [] → endsAt s (front.length - 1) = true
  inside : ∀ i, i + 1 < line.length → endsAt s (front.length + i) = false
  ends : rest ≠ [] → endsAt s (front.length + (line.length - 1)) = true

variable {s front line rest : List Char}

/-- A character that ends no line can be put in front of the first line. -/
theorem IsLine.cons {c : Char} (h : IsLine s [] line rest) (hc : endsLine c = false) : IsLine (c :: s) [] (c :: line) rest := by
  have hpositive := List.length_pos_of_ne_nil h.nonempty
  refine ⟨congrArg (c :: ·) h.chars, List.cons_ne_nil c line, by simp, fun i hi => ?_, fun hrest => ?_⟩
  · rw [List.length_nil, Nat.zero_add]
    cases i with
    | zero => simp [endsAt, hc]
    | succ i =>
      rw [List.length_cons, Nat.add_lt_add_iff_right] at hi
      rw [endsAt_cons_succ, ← Nat.zero_add i]
      exact h.inside i hi
  · have hlast := h.ends hrest
    rw [List.length_nil, Nat.zero_add] at hlast ⊢
    rwa [List.length_cons, Nat.add_sub_cancel, ← Nat.sub_add_cancel hpositive, endsAt_cons_succ]

/-- A line of what is behind the first line. -/
theorem IsLine.behind {first : List Char} (hfirst : IsLine (first ++ s) [] first s) (h : IsLine s front line rest) :
    IsLine (first ++ s) (first ++ front) line rest := by
  refine ⟨by rw [h.chars, List.append_assoc], h.nonempty, fun _ => ?_, fun i hi => ?_, fun hrest => ?_⟩
  · by_cases hfront : front = []
    · have hlast := hfirst.ends (by simp [h.chars, h.nonempty])
      rw [List.length_nil, Nat.zero_add] at hlast
      rwa [hfront, List.append_nil]
    · have hpositive := List.length_pos_of_ne_nil hfront
      rw [List.length_append, Nat.add_sub_assoc hpositive, endsAt_append_right]
      exact h.begins hfront
  · rw [List.length_append, Nat.add_assoc, endsAt_append_right]
    exact h.inside i hi
  · rw [List.length_append, Nat.add_assoc, endsAt_append_right]
    exact h.ends hrest

theorem splitLines_eq_cons (h : s ≠ []) :
    ∃ line rest, IsLine s [] line rest ∧ splitLines s = line :: splitLines rest := by
  fun_induction splitLines s with
  | case1 => contradiction
  | case2 rest ih =>
    refine ⟨['\r', '\n'], rest, ⟨rfl, List.cons_ne_nil _ _, by simp, fun i hi => ?_, fun _ => rfl⟩, rfl⟩
    obtain rfl : i = 0 := by
      simp only [List.length_cons, List.length_nil] at hi
      omega
    rfl
  | case3 c rest hcrlf hends ih =>
    refine ⟨[c], rest, ⟨rfl, List.cons_ne_nil _ _, by simp, by simp, fun _ => ?_⟩, rfl⟩
    have hbehind : ¬ (c = '\r' ∧ rest.head? = some '\n') := by
      intro h
      obtain ⟨hreturn, hfeed⟩ := h
      obtain ⟨more, hmore⟩ := List.head?_eq_some_iff.mp hfeed
      exact hcrlf more hreturn hmore
    simpa [endsAt, hends] using not_and_or.mp hbehind
  | case4 c rest hcrlf hinside hnil ih =>
    have hrest : rest = [] := by
      by_contra hne
      obtain ⟨line, more, -, hline⟩ := ih hne
      rw [hnil] at hline
      contradiction
    subst hrest
    exact ⟨[c], [], ⟨rfl, List.cons_ne_nil _ _, by simp, by simp, by simp⟩, rfl⟩
  | case5 c rest hcrlf hinside line more hmore ih =>
    have hrest : rest ≠ [] := by
      intro hnil
      rw [hnil] at hmore
      contradiction
    obtain ⟨line', rest', hline, hsplit⟩ := ih hrest
    obtain ⟨rfl, rfl⟩ := List.cons.inj (hmore.symm.trans hsplit)
    exact ⟨c :: line, rest', hline.cons (Bool.eq_false_iff.mpr hinside), rfl⟩

/-! ### Places -/

/-- Behind a first line that is over, one more line has ended. -/
theorem lineEnds_length (h : IsLine s [] line rest) (hrest : rest ≠ []) : lineEnds s line.length = 1 := by
  have hpositive := List.length_pos_of_ne_nil h.nonempty
  have hlast := h.ends hrest
  have hnone : lineEnds s (line.length - 1) = 0 := by
    refine lineEnds_eq_zero fun i hi => ?_
    have hinside := h.inside i (by omega)
    rwa [List.length_nil, Nat.zero_add] at hinside
  rw [List.length_nil, Nat.zero_add] at hlast
  rw [← Nat.sub_add_cancel hpositive, lineEnds_succ, hnone, hlast]
  rfl

/-- The lines up to a character, by induction on how much is in front of it. -/
theorem locate_splitLines (before : List Char) (c : Char) (after : List Char) (number : Nat) :
    ∃ front near far rest, before = front ++ near ∧ IsLine (before ++ c :: after) front (near ++ c :: far) rest ∧
      locate number before.length (splitLines (before ++ c :: after)) =
        some ⟨number + lineEnds (before ++ c :: after) before.length, near.length, near ++ c :: far⟩ := by
  induction hlength : before.length using Nat.strongRecOn generalizing before number with
  | ind length ih =>
    obtain ⟨line, rest, hline, hsplit⟩ := splitLines_eq_cons (show before ++ c :: after ≠ [] by simp)
    have hcut : (∃ far, line = before ++ c :: far) ∨ ∃ behind, before = line ++ behind ∧ rest = behind ++ c :: after := by
      have hchars : before ++ c :: after = line ++ rest := hline.chars
      obtain ⟨tail, rfl, htail⟩ | ⟨behind, hbefore, hrest⟩ := List.append_eq_append_iff.mp hchars
      · cases tail with
        | nil => exact .inr ⟨[], by simp, htail.symm⟩
        | cons d far => exact .inl ⟨far, by rw [(List.cons.inj htail).1]⟩
      · exact .inr ⟨behind, hbefore, hrest⟩
    obtain ⟨far, rfl⟩ | ⟨behind, rfl, rfl⟩ := hcut
    · have hnone : lineEnds (before ++ c :: after) before.length = 0 := by
        refine lineEnds_eq_zero fun i hi => ?_
        rw [← Nat.zero_add i]
        exact hline.inside i (by simp; omega)
      refine ⟨[], before, far, rest, rfl, hline, ?_⟩
      rw [hsplit, locate, ← hlength, if_pos (by simp), hnone]
      rfl
    · rw [List.append_assoc] at hline hsplit ⊢
      have hpositive := List.length_pos_of_ne_nil hline.nonempty
      rw [List.length_append] at hlength
      obtain ⟨front, near, far, rest', rfl, hbehind, hplace⟩ := ih behind.length (by omega) behind (number + 1) rfl
      refine ⟨line ++ front, near, far, rest', (List.append_assoc _ _ _).symm, hline.behind hbehind, ?_⟩
      rw [hsplit, locate, ← hlength, if_neg (by omega), Nat.add_sub_cancel_left, hplace, lineEnds_append,
        lineEnds_length hline (by simp), Nat.add_assoc]

theorem charIndex?_append (before rest : List Char) :
    charIndex? (byteSize before) (before ++ rest) = some before.length := by
  induction before with
  | nil => cases rest <;> rfl
  | cons c before ih =>
    have hsize := c.utf8Size_pos
    rw [byteSize, List.cons_append, charIndex?, if_neg (by omega), if_pos (by omega), Nat.add_sub_cancel_left, ih]
    rfl

/-- A character has a place at the byte position where it begins. -/
theorem place?_append (before : List Char) (c : Char) (after : List Char) :
    ∃ front near far rest, before = front ++ near ∧ IsLine (before ++ c :: after) front (near ++ c :: far) rest ∧
      place? (before ++ c :: after) (byteSize before) =
        some ⟨lineEnds (before ++ c :: after) before.length, near.length, near ++ c :: far⟩ := by
  obtain ⟨front, near, far, rest, hbefore, hline, hplace⟩ := locate_splitLines before c after 0
  refine ⟨front, near, far, rest, hbefore, hline, ?_⟩
  rw [Nat.zero_add] at hplace
  rw [place?, charIndex?_append]
  exact hplace

end NowPlaying.Report
