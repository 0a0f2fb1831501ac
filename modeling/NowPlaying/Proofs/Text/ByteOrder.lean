import NowPlaying.NameMap

/-!
# The order of bytes

Names compare by code points. The encoding of a character starts with a byte that grows with its length, and the digits behind it stand from high to low, so the order of the UTF-8 bytes is the same one. The entries of a map are in the order of the bytes of their names.
-/

namespace NowPlaying.Text

/-- The UTF-8 bytes of a string. -/
def utf8 (s : String) : List UInt8 := s.toList.flatMap String.utf8EncodeChar

/-! ### Characters -/

theorem toNat_val_lt (c : Char) : c.val.toNat < 0x110000 := by
  have hvalid := c.valid
  simp only [UInt32.isValidChar, Nat.isValidChar] at hvalid
  omega

/-- The bytes of two different characters differ before either ends, so it does not matter what follows. -/
theorem utf8EncodeChar_append_lt {c d : Char} (h : c < d) (s t : List UInt8) :
    String.utf8EncodeChar c ++ s < String.utf8EncodeChar d ++ t := by
  have hlt : c.val.toNat < d.val.toNat := h
  have hbound := toNat_val_lt d
  generalize hv : c.val.toNat = v at hlt
  generalize hw : d.val.toNat = w at hlt hbound
  simp only [String.utf8EncodeChar, hv, hw]
  -- Every pair of lengths is a comparison of quotients and remainders, none of which reaches 256.
  repeat' split
  all_goals
    simp (disch := omega) only [List.cons_append, List.nil_append, List.cons_lt_cons_iff, UInt8.lt_iff_toNat_lt,
      ← UInt8.toNat_inj, UInt8.toNat_ofNat', Nat.mod_eq_of_lt]
    omega

/-! ### Strings -/

theorem flatMap_utf8EncodeChar_lt {s t : List Char} (h : s < t) :
    s.flatMap String.utf8EncodeChar < t.flatMap String.utf8EncodeChar := by
  induction s generalizing t with
  | nil =>
    cases t with
    | nil => exact absurd h (List.not_lt_nil [])
    | cons d t =>
      rw [List.flatMap_nil, List.flatMap_cons]
      cases hbytes : String.utf8EncodeChar d with
      | nil => exact absurd hbytes String.utf8EncodeChar_ne_nil
      | cons byte bytes => exact List.nil_lt_cons byte _
  | cons c s ih =>
    cases t with
    | nil => exact absurd h (List.not_lt_nil _)
    | cons d t =>
      rw [List.flatMap_cons, List.flatMap_cons]
      obtain hlt | ⟨rfl, hlt⟩ := List.cons_lt_cons_iff.mp h
      · exact utf8EncodeChar_append_lt hlt _ _
      · exact List.append_left_lt (ih hlt)

theorem utf8_lt_of_lt {a b : String} (h : a < b) : utf8 a < utf8 b := flatMap_utf8EncodeChar_lt (String.lt_iff.mp h)

theorem utf8_lt_iff {a b : String} : utf8 a < utf8 b ↔ a < b := by
  refine ⟨fun h => ?_, utf8_lt_of_lt⟩
  by_cases hlt : a < b
  · exact hlt
  · by_cases heq : a = b
    · exact absurd (heq ▸ h) (List.lt_irrefl (utf8 b))
    · exact absurd h (List.lt_asymm (utf8_lt_of_lt (Entries.lt_of_not_lt_of_ne hlt heq)))

end NowPlaying.Text

namespace NowPlaying.NameMap

open Text

universe u

variable {α : Type u}

/-- The names of a map are in the order of their bytes. -/
theorem pairwise_utf8_names (map : NameMap α) : map.names.Pairwise fun a b => utf8 a < utf8 b := by
  rw [names_eq_map]
  exact List.pairwise_map.mpr (map.ordered.imp utf8_lt_of_lt)

end NowPlaying.NameMap
