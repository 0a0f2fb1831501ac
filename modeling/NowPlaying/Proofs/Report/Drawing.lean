import Mathlib.Data.List.Induction
import NowPlaying.Proofs.Report.Place
import NowPlaying.Proofs.Text.Trim

/-!
# What a report shows

The line of the fault is shown character by character. One that is not blank stands for itself, a tab takes what is left up to the next tab stop, and every other blank is a space. The row below marks the faulty character, behind as many columns as are taken by what is shown in front of it.
-/

namespace NowPlaying.Report

open Text

/-! ### The line -/

/-- What is shown for a character with some number of characters in front of it. -/
inductive CharShown (column : Nat) : Char → List Char → Prop where
  | visible {c : Char} (h : isBlank c = false) : CharShown column c [c]
  | blank {c : Char} (h : isBlank c = true) (hne : c ≠ '\t') : CharShown column c [' ']
  | tab {count : Nat} (positive : 0 < count) (le : count ≤ tabWidth) (stop : (column + count) % tabWidth = 0) :
    CharShown column '\t' (List.replicate count ' ')

/-- What is shown for a line. -/
inductive Shown : List Char → List Char → Prop where
  | nil : Shown [] []
  | concat {line shown piece : List Char} {c : Char} (h : Shown line shown) (hc : CharShown line.length c piece) :
    Shown (line ++ [c]) (shown ++ piece)

/-- The columns that a text takes. -/
def width (s : List Char) : Nat := columns (s.map Text.columns)

theorem columns_append (left right : List Nat) : columns (left ++ right) = columns left + columns right := List.sum_append

theorem width_append (s t : List Char) : width (s ++ t) = width s + width t := by
  rw [width, List.map_append, columns_append]
  rfl

theorem width_replicate (count : Nat) : width (List.replicate count ' ') = count := by
  induction count with
  | zero => rfl
  | succ count ih =>
    have hspace : width [' '] = 1 := rfl
    rw [List.replicate_succ', width_append, ih, hspace]

theorem isBlank_of_endsLine {c : Char} (h : endsLine c = true) : isBlank c = true := by
  simp only [endsLine, Bool.or_eq_true, decide_eq_true_eq] at h
  obtain (((((rfl | rfl) | rfl) | rfl) | rfl) | rfl) | rfl := h <;> decide

/-- Nothing that is shown ends the line. -/
theorem CharShown.endsLine_eq_false {column : Nat} {c d : Char} {piece : List Char} (h : CharShown column c piece)
    (hd : d ∈ piece) : endsLine d = false := by
  cases h with
  | visible hvisible =>
    rw [List.mem_singleton] at hd
    rw [hd]
    exact Bool.eq_false_iff.mpr fun hends => absurd (isBlank_of_endsLine hends) (by rw [hvisible]; decide)
  | blank =>
    rw [List.mem_singleton] at hd
    rw [hd]
    rfl
  | tab =>
    rw [List.eq_of_mem_replicate hd]
    rfl

theorem Shown.endsLine_eq_false {line shown : List Char} (h : Shown line shown) : ∀ d ∈ shown, endsLine d = false := by
  induction h with
  | nil => simp
  | concat h hc ih =>
    intro d hd
    obtain hd | hd := List.mem_append.mp hd
    · exact ih d hd
    · exact hc.endsLine_eq_false hd

theorem drawLine_append (left right : List (Char × Nat)) : drawLine (left ++ right) = drawLine left ++ drawLine right :=
  List.flatMap_append

theorem drawLine_singleton (c : Char) (count : Nat) :
    drawLine [(c, count)] = if isBlank c then List.replicate count c else [c] := List.append_nil _

theorem cell_of_visible {column : Nat} {c : Char} (h : isBlank c = false) : cell column c = (c, Text.columns c) := by
  have htab : c ≠ '\t' := by
    intro htab
    rw [htab] at h
    contradiction
  rw [cell, if_neg htab, if_neg (by rw [h]; decide)]

/-- A cell is drawn as wide as it is. -/
theorem charShown_cell (column : Nat) (c : Char) :
    CharShown column c (drawLine [cell column c]) ∧ width (drawLine [cell column c]) = (cell column c).2 := by
  have hspace (count : Nat) : drawLine [(' ', count)] = List.replicate count ' ' := drawLine_singleton ' ' count
  cases hblank : isBlank c with
  | false =>
    have hdrawn : drawLine [(c, Text.columns c)] = [c] := by rw [drawLine_singleton, if_neg (by rw [hblank]; decide)]
    rw [cell_of_visible hblank, hdrawn]
    exact ⟨.visible hblank, Nat.add_zero _⟩
  | true =>
    by_cases htab : c = '\t'
    · rw [cell, if_pos htab, hspace, width_replicate, htab]
      refine ⟨.tab ?_ ?_ ?_, rfl⟩
      all_goals
        simp only [tabWidth]
        omega
    · rw [cell, if_neg htab, if_pos hblank, hspace, width_replicate]
      exact ⟨.blank hblank htab, rfl⟩

theorem cells_append_cons (near : List Char) (c : Char) (far : List Char) :
    ∃ more, cells (near ++ c :: far) = cells near ++ cell near.length c :: more := by
  rw [cells, List.mapIdx_append, List.mapIdx_cons, Nat.zero_add]
  exact ⟨_, rfl⟩

/-- A line is drawn as it is to be shown, and as wide as its cells. -/
theorem shown_drawLine (line : List Char) :
    Shown line (drawLine (cells line)) ∧ width (drawLine (cells line)) = columns ((cells line).map Prod.snd) := by
  induction line using List.reverseRecOn with
  | nil => exact ⟨.nil, rfl⟩
  | append_singleton line c ih =>
    obtain ⟨hshown, hwidth⟩ := ih
    obtain ⟨hcell, hcellWidth⟩ := charShown_cell line.length c
    have hcells : cells (line ++ [c]) = cells line ++ [cell line.length c] := List.mapIdx_concat
    rw [hcells, drawLine_append, List.map_append, columns_append, width_append, hwidth, hcellWidth]
    exact ⟨hshown.concat hcell, rfl⟩

/-! ### The row of the mark -/

theorem drawRow_append (left : List (Char × Nat)) (cell : Char × Nat) (right : List (Char × Nat)) (mark tail after : Char) :
    ∃ count, drawRow (left ++ cell :: right) left.length mark tail after =
      List.replicate (columns (left.map Prod.snd)) ' ' ++ (drawMark mark tail cell.2 ++ List.replicate count after) := by
  have hwidths : ∃ more, widths (left ++ cell :: right) (left.length + 3) = left.map Prod.snd ++ cell.2 :: more := by
    have htaken : left.length + 3 - (left.map Prod.snd).length = 2 + 1 := by
      rw [List.length_map, Nat.add_sub_cancel_left]
    rw [widths, List.map_append, List.take_append, List.take_of_length_le (by simp), List.append_assoc, htaken, List.map_cons,
      List.take_succ_cons, List.cons_append]
    exact ⟨_, rfl⟩
  obtain ⟨more, hmore⟩ := hwidths
  have hlength : (left.map Prod.snd).length = left.length := List.length_map _
  have hmarked : (left.map Prod.snd ++ cell.2 :: more).getD left.length 1 = cell.2 := by
    rw [List.getD_eq_getElem?_getD, List.getElem?_append_right (Nat.le_of_eq hlength), hlength, Nat.sub_self]
    rfl
  refine ⟨columns more, ?_⟩
  rw [drawRow, hmore, hmarked, ← hlength, List.take_left, ← List.drop_drop, List.drop_left, List.append_assoc]
  rfl

/-! ### The faulty character -/

section

variable {c : Char} (hc : isBlank c = false) (near far : List Char)

include hc

theorem cells_trimEnd : ∃ more, cells (trimEnd (near ++ c :: far)) = cells near ++ (c, Text.columns c) :: more := by
  rw [trimEnd_append_cons hc, ← cell_of_visible hc]
  exact cells_append_cons near c (trimEnd far)

theorem drawLine_trimEnd :
    ∃ right, drawLine (cells (trimEnd (near ++ c :: far))) = drawLine (cells near) ++ c :: right := by
  obtain ⟨more, hmore⟩ := cells_trimEnd hc near far
  have hdrawn : drawLine [(c, Text.columns c)] = [c] := by rw [drawLine_singleton, if_neg (by rw [hc]; decide)]
  have hcut : drawLine ((c, Text.columns c) :: more) = drawLine [(c, Text.columns c)] ++ drawLine more :=
    drawLine_append [(c, Text.columns c)] more
  rw [hmore, drawLine_append, hcut, hdrawn]
  exact ⟨drawLine more, rfl⟩

/-- The mark stands under the character, unless the character takes no column. -/
theorem drawRow_trimEnd :
    ∃ behind, '┬' ∉ behind ∧ drawRow (cells (trimEnd (near ++ c :: far))) near.length '┬' '─' ' ' =
      List.replicate (width (drawLine (cells near))) ' ' ++ ((if Text.columns c = 0 then [] else ['┬']) ++ behind) := by
  obtain ⟨more, hmore⟩ := cells_trimEnd hc near far
  have hlength : (cells near).length = near.length := List.length_mapIdx
  obtain ⟨count, hrow⟩ := drawRow_append (cells near) (c, Text.columns c) more '┬' '─' ' '
  rw [hmore, ← hlength, hrow, (shown_drawLine near).2, drawMark]
  by_cases hwide : Text.columns c = 0
  · refine ⟨List.replicate count ' ', fun hmark => ?_, ?_⟩
    · exact absurd (List.eq_of_mem_replicate hmark) (by decide)
    · rw [if_pos hwide, if_pos hwide]
  · refine ⟨List.replicate (Text.columns c - 1) '─' ++ List.replicate count ' ', fun hmark => ?_, ?_⟩
    · obtain htail | hblank := List.mem_append.mp hmark
      · exact absurd (List.eq_of_mem_replicate htail) (by decide)
      · exact absurd (List.eq_of_mem_replicate hblank) (by decide)
    · rw [if_neg hwide, if_neg hwide, List.cons_append, List.singleton_append]

end

end NowPlaying.Report
