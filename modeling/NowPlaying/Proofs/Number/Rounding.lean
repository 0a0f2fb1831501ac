import Mathlib.Algebra.Order.Field.Power
import Mathlib.Algebra.Order.Field.Rat
import Mathlib.Tactic.Linarith
import NowPlaying.Number.Rounding

/-!
# Rounded quotients

A rounded quotient is at most one half away from the exact one, and is even where it is one half away and ties go to even. A power with an exponent of either sign is a quotient of two natural powers.
-/

namespace NowPlaying.Number

/-! ### Quotients -/

section

variable {tie : Tie} {num den : Nat}

theorem roundDiv_eq_or (tie : Tie) (num den : Nat) :
    roundDiv tie num den = num / den ∧ 2 * (num % den) ≤ den ∨
      roundDiv tie num den = num / den + 1 ∧ den ≤ 2 * (num % den) := by
  unfold roundDiv
  simp only
  split
  · exact .inl ⟨rfl, by omega⟩
  · split
    · exact .inr ⟨rfl, by omega⟩
    · cases tie with
      | even =>
        obtain h | h := Nat.mod_two_eq_zero_or_one (num / den)
        · exact .inl ⟨by rw [Tie.choose, h, Nat.add_zero], by omega⟩
        · exact .inr ⟨by rw [Tie.choose, h], by omega⟩
      | up => exact .inr ⟨rfl, by omega⟩

theorem roundDiv_mod_two_of_half (h : 2 * (num % den) = den) : roundDiv .even num den % 2 = 0 := by
  unfold roundDiv
  simp only
  rw [if_neg (by omega), if_neg (by omega), Tie.choose]
  omega

theorem le_roundDiv (hden : 0 < den) : 2 * num ≤ (2 * roundDiv tie num den + 1) * den := by
  have hnum := Nat.div_add_mod num den
  have hrest := Nat.mod_lt num hden
  obtain ⟨hround, hhalf⟩ | ⟨hround, hhalf⟩ := roundDiv_eq_or tie num den <;> rw [hround] <;> linarith

theorem roundDiv_le : 2 * roundDiv tie num den * den ≤ 2 * num + den := by
  have hnum := Nat.div_add_mod num den
  have hrest := Nat.zero_le (num % den)
  obtain ⟨hround, hhalf⟩ | ⟨hround, hhalf⟩ := roundDiv_eq_or tie num den <;> rw [hround] <;> linarith

theorem roundDiv_mod_two_of_eq_above (hden : 0 < den) (h : 2 * num = (2 * roundDiv .even num den + 1) * den) :
    roundDiv .even num den % 2 = 0 := by
  have hnum := Nat.div_add_mod num den
  have hrest := Nat.mod_lt num hden
  apply roundDiv_mod_two_of_half
  obtain ⟨hround, hhalf⟩ | ⟨hround, hhalf⟩ := roundDiv_eq_or .even num den <;> rw [hround] at h <;> linarith

theorem roundDiv_mod_two_of_eq_below (h : 2 * roundDiv .even num den * den = 2 * num + den) :
    roundDiv .even num den % 2 = 0 := by
  have hnum := Nat.div_add_mod num den
  have hrest := Nat.zero_le (num % den)
  apply roundDiv_mod_two_of_half
  obtain ⟨hround, hhalf⟩ | ⟨hround, hhalf⟩ := roundDiv_eq_or .even num den <;> rw [hround] at h <;> linarith

theorem roundDiv_mul (hden : 0 < den) (n : Nat) : roundDiv tie (n * den) den = n := by
  unfold roundDiv
  simp only [Nat.mul_mod_left, Nat.mul_div_cancel _ hden]
  rw [if_pos (by omega)]

/-- The rounded quotient beside the exact one. -/
theorem roundDiv_spec (num : Nat) (hden : 0 < den) :
    2 * ((num : ℚ) / den) ≤ 2 * roundDiv .even num den + 1 ∧ 2 * roundDiv .even num den ≤ 2 * ((num : ℚ) / den) + 1 ∧
      (2 * ((num : ℚ) / den) = 2 * roundDiv .even num den + 1 → roundDiv .even num den % 2 = 0) ∧
      (2 * roundDiv .even num den = 2 * ((num : ℚ) / den) + 1 → roundDiv .even num den % 2 = 0) := by
  have hden' : (0 : ℚ) < den := by exact_mod_cast hden
  have hnum : (num : ℚ) / den * den = num := div_mul_cancel₀ _ hden'.ne'
  have habove : (2 * num : ℚ) ≤ (2 * roundDiv .even num den + 1) * den := by exact_mod_cast le_roundDiv hden
  have hbelow : (2 * roundDiv .even num den * den : ℚ) ≤ 2 * num + den := by exact_mod_cast roundDiv_le
  refine ⟨le_of_mul_le_mul_right (by linarith) hden', le_of_mul_le_mul_right (by linarith) hden', fun h => ?_, fun h => ?_⟩
  · apply roundDiv_mod_two_of_eq_above hden
    have heq : (2 * num : ℚ) = (2 * roundDiv .even num den + 1) * den := by rw [← h, mul_assoc, hnum]
    exact_mod_cast heq
  · apply roundDiv_mod_two_of_eq_below
    have heq : (2 * roundDiv .even num den * den : ℚ) = 2 * num + den := by rw [h, add_mul, mul_assoc, hnum, one_mul]
    exact_mod_cast heq

end

/-! ### Powers -/

section

variable (k : Int)

theorem powTwo_pos : 0 < powTwo k := Nat.pow_pos (by omega)

theorem powTen_pos : 0 < powTen k := Nat.pow_pos (by omega)

theorem pow_toNat_div_pow_toNat (base : Nat) :
    ((base ^ k.toNat : Nat) : ℚ) / ((base ^ (-k).toNat : Nat) : ℚ) = (base : ℚ) ^ k := by
  obtain ⟨n, rfl | rfl⟩ := k.eq_nat_or_neg
  · simp
  · simp

theorem powTwo_div_powTwo : (powTwo k : ℚ) / powTwo (-k) = 2 ^ k := pow_toNat_div_pow_toNat k 2

theorem powTen_div_powTen : (powTen k : ℚ) / powTen (-k) = 10 ^ k := pow_toNat_div_pow_toNat k 10

end

end NowPlaying.Number
