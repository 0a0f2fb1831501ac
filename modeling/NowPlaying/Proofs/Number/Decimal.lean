import NowPlaying.Proofs.Number.Digits
import NowPlaying.Proofs.Number.Magnitude

/-!
# Decimals as doubles

The double of a decimal is the nearest one, also where the power of ten is so far out of range that it is not computed. So two spellings of one number are the same double, and a decimal is finite exactly below the midpoint between the greatest finite magnitude and the power of two beyond it.
-/

namespace NowPlaying.Double

open Number

variable {negative : Bool} {digits : Nat} {power : Int}

theorem nearest_ofDecimal (digits : Nat) (power : Int) :
    Nearest (digits * 10 ^ power) (roundRank (digits * powTen power) (powTen (-power))) := by
  have h : Nearest (((digits * powTen power : Nat) : ℚ) / powTen (-power)) _ := nearest_roundRank (powTen_pos (-power))
  rwa [Nat.cast_mul, mul_div_assoc, powTen_div_powTen] at h

/-! ### Powers out of range -/

theorem two_pow_lt_ten_pow : (2 : ℚ) ^ 1075 < 10 ^ 400 := by
  have h : 2 ^ 1075 < 10 ^ 400 := by decide +kernel
  exact_mod_cast h

/-- A number below half of the least magnitude is rounded to zero. -/
theorem nearest_zero {v : ℚ} (hv : v < 2 ^ (-1075 : Int)) : Nearest v 0 := by
  have hzero : magnitude 0 = 0 := by simp [magnitude, mantissa]
  have hone : magnitude 1 = 2 * 2 ^ (-1075 : Int) := by
    have h := magnitude_multiple (k := 0) (q := 1) (by omega) (.inl rfl)
    rw [show 0 * 2 ^ 52 + 1 = 1 from rfl] at h
    rw [h, ← zpow_one_add₀ (by norm_num)]
    norm_num
  refine ⟨?_, fun h => rfl, fun below h => ?_, fun below h => ?_⟩
  · rw [hzero, hone]
    linarith
  · contradiction
  · contradiction

/-- The number of digits and the power of ten tell the size of a decimal. -/
theorem decimal_bounds (hdigits : digits ≠ 0) (power : Int) :
    (10 : ℚ) ^ ((digitsOf digits).length + power - 1) ≤ digits * 10 ^ power ∧
      digits * 10 ^ power < (10 : ℚ) ^ ((digitsOf digits).length + power) := by
  have hpos : (0 : ℚ) < 10 ^ power := zpow_pos (by norm_num) _
  have hlength : 0 < (digitsOf digits).length := List.length_pos_iff.mpr (digitsOf_ne_nil digits)
  have hlow : (10 : ℚ) ^ ((digitsOf digits).length - 1) ≤ digits := by exact_mod_cast pow_length_digitsOf_le hdigits
  have hhigh : (digits : ℚ) < 10 ^ (digitsOf digits).length := by exact_mod_cast lt_pow_length_digitsOf digits
  constructor
  · rw [show ((digitsOf digits).length : Int) + power - 1 = ((digitsOf digits).length - 1 : Nat) + power by omega,
      zpow_add₀ (by norm_num), zpow_natCast]
    exact mul_le_mul_of_nonneg_right hlow hpos.le
  · rw [zpow_add₀ (by norm_num), zpow_natCast]
    exact mul_lt_mul_of_pos_right hhigh hpos

theorem ofDecimal_eq_ofRatio (negative : Bool) (digits : Nat) (power : Int) :
    ofDecimal negative digits power = ofRatio negative (digits * powTen power) (powTen (-power)) := by
  have hnearest := nearest_ofDecimal digits power
  have hpowers := two_pow_lt_ten_pow
  unfold ofDecimal
  simp only [Bool.or_eq_true, decide_eq_true_eq]
  by_cases hdigits : digits = 0
  · rw [if_pos (.inl hdigits), ofRatio, hdigits, Nat.zero_mul]
    rfl
  obtain ⟨hlow, hhigh⟩ := decimal_bounds hdigits power
  split
  · next hsmall =>
    have hsize := hsmall.resolve_left hdigits
    have hle : (10 : ℚ) ^ (((digitsOf digits).length : Int) + power) ≤ (10 ^ 400)⁻¹ := by
      rw [← zpow_natCast, ← zpow_neg]
      exact zpow_le_zpow_right₀ (by norm_num) (by omega)
    have hlt : ((10 : ℚ) ^ 400)⁻¹ < 2 ^ (-1075 : Int) := by
      rw [zpow_neg]
      exact inv_strictAnti₀ (by positivity) hpowers
    have hrank := hnearest.unique (nearest_zero (hhigh.trans_le hle |>.trans hlt))
    rw [ofRatio, hrank]
    rfl
  · split
    · next hlarge =>
      have hle : (10 : ℚ) ^ 400 ≤ 10 ^ (((digitsOf digits).length : Int) + power - 1) := by
        rw [← zpow_natCast]
        exact zpow_le_zpow_right₀ (by norm_num) (by omega)
      have hbound : (2 : ℚ) ^ 1024 - 2 ^ 970 < 2 ^ 1075 :=
        (sub_lt_self _ (by positivity)).trans (pow_lt_pow_right₀ (by norm_num) (by norm_num))
      have hrank : ¬ roundRank (digits * powTen power) (powTen (-power)) < ranks := by
        rw [hnearest.lt_ranks_iff]
        exact not_lt.mpr (hbound.trans hpowers |>.le.trans (hle.trans hlow))
      rw [ofRatio, ofRank, dif_neg hrank]
    · rfl

/-! ### The double of a decimal -/

theorem exists_nearest_ofDecimal (negative : Bool) (digits : Nat) (power : Int) :
    ∃ rank, Nearest (digits * 10 ^ power) rank ∧ ofDecimal negative digits power = ofRank negative rank :=
  ⟨_, nearest_ofDecimal digits power, ofDecimal_eq_ofRatio negative digits power⟩

theorem ofDecimal_isFinite_iff :
    (ofDecimal negative digits power).isFinite ↔ (digits * 10 ^ power : ℚ) < 2 ^ 1024 - 2 ^ 970 := by
  obtain ⟨rank, hnearest, heq⟩ := exists_nearest_ofDecimal negative digits power
  rw [heq, isFinite_ofRank_iff, hnearest.lt_ranks_iff]

theorem isNearest_iff_eq_ofDecimal {d : Double} (hlt : (digits * 10 ^ power : ℚ) < 2 ^ 1024 - 2 ^ 970) :
    IsNearest negative (digits * 10 ^ power) d ↔ d = ofDecimal negative digits power := by
  obtain ⟨rank, hnearest, heq⟩ := exists_nearest_ofDecimal negative digits power
  rw [heq]
  exact hnearest.isNearest_iff (hnearest.lt_ranks_iff.mpr hlt)

/-- A decimal that is a magnitude is the double of its rank. -/
theorem ofDecimal_eq_ofRank {rank : Nat} (h : (digits * 10 ^ power : ℚ) = magnitude rank) :
    ofDecimal negative digits power = ofRank negative rank := by
  obtain ⟨found, hnearest, heq⟩ := exists_nearest_ofDecimal negative digits power
  rw [heq, hnearest.unique (h ▸ nearest_magnitude rank)]

end NowPlaying.Double
