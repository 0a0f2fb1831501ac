import NowPlaying.Proofs.Json.Members
import NowPlaying.Proofs.Number.Integer
import NowPlaying.Proofs.Number.Magnitude
import NowPlaying.Value

/-!
# JSON values kept as values of a context

A value tells which JSON value it was made of, and a list of texts is made of a list of JSON texts only. What is lost is one thing: an integer that needs the 64th bit is kept as the double nearest to it.
-/

namespace NowPlaying

open Number

/-! ### Lists of texts -/

theorem Json.isText_iff {json : Json} : json.isText ↔ ∃ value, json = .text value := by
  cases json <;> simp [isText]

theorem Json.all_isText_map (found : List String) : (found.map text).all isText := by
  rw [List.all_map]
  exact List.all_eq_true.mpr fun value _ => rfl

theorem Json.filterMap_text?_map (found : List String) : (found.map text).filterMap text? = found := by
  rw [List.filterMap_map]
  exact List.filterMap_some

/-- Where every item is a text, taking the texts drops no item. -/
theorem Json.map_text_filterMap {items : List Json} (h : items.all isText) : (items.filterMap text?).map text = items := by
  induction items with
  | nil => rfl
  | cons item items ih =>
    rw [List.all_cons, Bool.and_eq_true] at h
    obtain ⟨value, rfl⟩ := isText_iff.mp h.1
    have htext : text? (text value) = some value := rfl
    rw [List.filterMap_cons_some htext, List.map_cons, ih h.2]

namespace Value

/-- The JSON value that a value stands for. -/
def toJson : Value → Json
  | .text value => .text value
  | .texts items => .list (items.map Json.text)
  | .integer value => .integer value.toInt
  | .float value => .float value
  | .other json => json

theorem ofJson_eq_texts_iff {json : Json} {items : List String} :
    ofJson json = .texts items ↔ json = .list (items.map Json.text) := by
  cases json with
  | list found =>
    rw [ofJson, Json.list.injEq]
    by_cases hall : found.all Json.isText
    · rw [if_pos hall, texts.injEq]
      constructor
      · rintro rfl
        exact (Json.map_text_filterMap hall).symm
      · rintro rfl
        exact Json.filterMap_text?_map items
    · rw [if_neg hall]
      refine iff_of_false (by simp) ?_
      rintro rfl
      exact hall (Json.all_isText_map items)
  | integer value =>
    rw [ofJson]
    cases toInt64? value <;> simp
  | _ => simp [ofJson]

/-! ### Integers -/

theorem ofJson_integer_of_toInt (n : Int64) : ofJson (.integer n.toInt) = .integer n := by
  rw [ofJson, toInt64?_eq_some_iff.mpr rfl]

theorem ofJson_integer_of_lt {n : Int} (h : Int64.maxValue.toInt < n) : ofJson (.integer n) = .float (Double.ofInt n) := by
  have hnone : toInt64? n = none := by
    refine Option.eq_none_iff_forall_ne_some.mpr fun m hm => ?_
    rw [toInt64?_eq_some_iff] at hm
    exact absurd (hm ▸ m.toInt_le) (not_le.mpr h)
  rw [ofJson, hnone]

/-- Everything but an integer that needs the 64th bit is restored. -/
theorem toJson_ofJson {json : Json} (hsized : json.IsSized) (h : ∀ n, json = .integer n → n ≤ Int64.maxValue.toInt) :
    (ofJson json).toJson = json := by
  cases json with
  | integer value =>
    have hle := h value rfl
    rw [Int64.toInt_maxValue] at hle
    obtain ⟨n, rfl⟩ : ∃ n : Int64, value = n.toInt :=
      ⟨Int64.ofInt value, (Int64.toInt_ofInt_of_le hsized.1 (by omega)).symm⟩
    rw [ofJson_integer_of_toInt, toJson]
  | list items =>
    by_cases hall : items.all Json.isText
    · rw [ofJson, if_pos hall, toJson, Json.map_text_filterMap hall]
    · rw [ofJson, if_neg hall, toJson]
  | _ => rfl

end Value

theorem Double.isNearest_ofInt {n : Int} (hnonneg : 0 ≤ n) (hlt : n < 2 ^ 64) : IsNearest false n (ofInt n) := by
  obtain ⟨m, rfl⟩ := Int.eq_ofNat_of_zero_le hnonneg
  have hnearest : Nearest (m : Int) (roundRank m 1) := by exact_mod_cast nearest_roundRank_one m
  have hrank : roundRank m 1 < ranks := hnearest.lt_ranks_of_le (by exact_mod_cast hlt.le)
  rw [hnearest.isNearest_iff hrank, ofInt, decide_eq_false (by omega)]
  rfl

end NowPlaying
