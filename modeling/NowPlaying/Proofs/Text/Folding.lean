import Mathlib.Data.List.Basic
import NowPlaying.Helper

/-!
# Case folding of joined texts

Folding to lower case looks at the neighbours of a capital sigma, past any run of case-ignorable characters. A character that is neither cased nor case-ignorable ends the search on both sides, so a text can be cut there and each part folded by itself. The comma and the space between the items of a list are such characters, and folding leaves them as they are.
-/

namespace NowPlaying

namespace Text

/-- Nothing on one side of the character counts for the folding of what is on the other side. -/
structure Separates (c : Char) : Prop where
  notCased : isCased c = false
  notIgnorable : isCaseIgnorable c = false

theorem facesCased_cons (c : Char) (s : List Char) :
    facesCased (c :: s) = if isCaseIgnorable c then facesCased s else isCased c := by
  rw [facesCased, List.dropWhile_cons]
  by_cases hignorable : isCaseIgnorable c
  · rw [if_pos hignorable, if_pos hignorable, facesCased]
  · rw [if_neg hignorable, if_neg hignorable]

variable {c : Char}

namespace Separates

theorem ne_sigma (h : Separates c) : c ≠ 'Σ' := by
  intro hsigma
  have hcased : isCased 'Σ' = true := by decide +kernel
  have hnotCased := h.notCased
  rw [hsigma, hcased] at hnotCased
  contradiction

theorem facesCased_append (h : Separates c) (s t : List Char) : facesCased (s ++ c :: t) = facesCased s := by
  induction s with
  | nil => rw [List.nil_append, facesCased_cons, h.notIgnorable, if_neg Bool.false_ne_true, h.notCased]; rfl
  | cons d s ih => rw [List.cons_append, facesCased_cons, facesCased_cons, ih]

theorem lowerBetween_eq (h : Separates c) (before after : List Char) : lowerBetween before c after = lowerChar c :=
  if_neg h.ne_sigma

theorem lowerBetween_append_left (h : Separates c) (near far after : List Char) (d : Char) :
    lowerBetween (near ++ c :: far) d after = lowerBetween near d after := by
  rw [lowerBetween, h.facesCased_append, lowerBetween]

theorem lowerBetween_append_right (h : Separates c) (before near far : List Char) (d : Char) :
    lowerBetween before d (near ++ c :: far) = lowerBetween before d near := by
  rw [lowerBetween, h.facesCased_append, lowerBetween]

/-- What comes before the separator does not count behind it. -/
theorem lowerAfter_append_left (h : Separates c) (near far s : List Char) :
    lowerAfter (near ++ c :: far) s = lowerAfter near s := by
  induction s generalizing near with
  | nil => rfl
  | cons d s ih => rw [lowerAfter, h.lowerBetween_append_left, ← List.cons_append, ih, lowerAfter]

/-- What comes behind the separator does not count before it. -/
theorem lowerAfter_append_right (h : Separates c) (before s t : List Char) :
    lowerAfter before (s ++ c :: t) = lowerAfter before s ++ (lowerChar c ++ lower t) := by
  induction s generalizing before with
  | nil =>
    have hbehind : lowerAfter (c :: before) t = lower t := h.lowerAfter_append_left [] before t
    change lowerBetween before c t ++ lowerAfter (c :: before) t = lowerChar c ++ lower t
    rw [h.lowerBetween_eq, hbehind]
  | cons d s ih => rw [List.cons_append, lowerAfter, h.lowerBetween_append_right, ih, lowerAfter, List.append_assoc]

theorem lower_append (h : Separates c) (s t : List Char) : lower (s ++ c :: t) = lower s ++ (lowerChar c ++ lower t) :=
  h.lowerAfter_append_right [] s t

end Separates

theorem separates_comma : Separates ',' := ⟨by decide +kernel, by decide +kernel⟩

theorem separates_space : Separates ' ' := ⟨by decide +kernel, by decide +kernel⟩

/-! ### Items with commas between them -/

theorem lower_append_comma (s t : List Char) : lower (s ++ ", ".toList ++ t) = lower s ++ ", ".toList ++ lower t := by
  have hspace : lower (' ' :: t) = ' ' :: lower t := separates_space.lower_append [] t
  have hcomma : lower (s ++ ',' :: ' ' :: t) = lower s ++ ',' :: lower (' ' :: t) := separates_comma.lower_append s _
  have hjoined (u v : List Char) : u ++ ", ".toList ++ v = u ++ ',' :: ' ' :: v := List.append_assoc u [',', ' '] v
  rw [hjoined, hjoined, hcomma, hspace]

theorem upper_append_comma (s t : List Char) : upper (s ++ ", ".toList ++ t) = upper s ++ ", ".toList ++ upper t := by
  rw [upper, List.flatMap_append, List.flatMap_append]
  rfl

theorem map_intercalate {fold : List Char → List Char} {separator : List Char} (hnil : fold [] = [])
    (happend : ∀ s t, fold (s ++ separator ++ t) = fold s ++ separator ++ fold t) (items : List (List Char)) :
    fold (separator.intercalate items) = separator.intercalate (items.map fold) := by
  induction items with
  | nil => exact hnil
  | cons item rest ih =>
    cases rest with
    | nil => simp
    | cons next rest =>
      simp only [List.intercalate_cons_cons, happend, ih, List.map_cons]

end Text

/-! ### Lists of texts -/

open Text

/-- A helper that folds display forms folds a list by its items, where its fold does so with joined texts. -/
theorem apply_texts_of_fold {helper : Helper} {fold : List Char → List Char}
    (hhelper : ∀ value, helper.apply value = some (String.ofList (fold value.display.toList)))
    (hfold : ∀ items : List (List Char), fold (", ".toList.intercalate items) = ", ".toList.intercalate (items.map fold))
    (items : List String) :
    ∃ folded, items.mapM (fun item => helper.apply (.text item)) = some folded ∧
      helper.apply (.texts items) = some (", ".intercalate folded) := by
  refine ⟨items.map fun item => String.ofList (fold item.toList), ?_, ?_⟩
  · simp only [hhelper, Value.display]
    exact List.mapM_pure
  · have hfolded (item : String) : (String.ofList (fold item.toList)).toList = fold item.toList := String.toList_ofList
    rw [hhelper, Value.display, Option.some_inj, ← String.toList_inj, String.toList_ofList, String.toList_intercalate,
      String.toList_intercalate, hfold, List.map_map, List.map_map]
    simp only [Function.comp_def, hfolded]

/-- A list of texts is folded item by item: what the case helpers make of it is what they make of each item alone, with the same separator between them. -/
theorem folding_is_itemwise (items : List String) :
    (∃ lowered, items.mapM (fun item => Helper.lowercase.apply (.text item)) = some lowered ∧
      Helper.lowercase.apply (.texts items) = some (", ".intercalate lowered)) ∧
    ∃ raised, items.mapM (fun item => Helper.uppercase.apply (.text item)) = some raised ∧
      Helper.uppercase.apply (.texts items) = some (", ".intercalate raised) := by
  constructor
  · exact apply_texts_of_fold (fun value => rfl) (map_intercalate rfl lower_append_comma) items
  · exact apply_texts_of_fold (fun value => rfl) (map_intercalate rfl upper_append_comma) items

example : Helper.lowercase.apply (.texts ["ΟΔΟΣ", "'Σ", "", "Σ'"]) = some "οδος, 'σ, , σ'" := by decide +kernel

end NowPlaying
