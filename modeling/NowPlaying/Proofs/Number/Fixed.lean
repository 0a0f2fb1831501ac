import Mathlib.Algebra.Order.Floor.Semiring
import Mathlib.Data.Rat.Floor
import NowPlaying.Proofs.Number.Layout

/-!
# Doubles with a fixed number of places

Multiples of a power of two are magnitudes up to its 2 ^ 53-fold, so a number up to there is at most half of that power away from its nearest magnitude. Where this is less than half a unit of the last place, the two roundings of a decimal with that many places, to a double and to the places again, cancel: the fixed form shows the decimal that was rounded.
-/

namespace NowPlaying.Double

open Number

variable {v : ℚ} {k n places rank : Nat} {negative : Bool}

/-! ### One rounding -/

/-- Below `2 ^ 52` a multiple is one of a smaller power as well. -/
theorem exists_magnitude_eq_multiple (hn : n ≤ 2 ^ 53) (k : Nat) : ∃ rank, magnitude rank = n * 2 ^ ((k : Int) - 1074) := by
  induction k generalizing n with
  | zero => exact ⟨_, magnitude_multiple hn (.inl rfl)⟩
  | succ k ih =>
    obtain hlow | hhigh := Nat.lt_or_ge n (2 ^ 52)
    · obtain ⟨rank, hrank⟩ := ih (n := 2 * n) (by omega)
      refine ⟨rank, hrank.trans ?_⟩
      rw [show ((k + 1 : Nat) : Int) - 1074 = (k : Int) - 1074 + 1 by omega, zpow_add_one₀ (by norm_num)]
      push_cast
      ring
    · exact ⟨_, magnitude_multiple hn (.inr hhigh)⟩

theorem Nearest.abs_sub_le (h : Nearest v rank) (other : Nat) : |v - magnitude rank| ≤ |v - magnitude other| := by
  by_cases heq : other = rank
  · rw [heq]
  · obtain hlt | ⟨hsame, -⟩ := h.abs_sub_lt_or heq
    · exact hlt.le
    · exact hsame.le

/-- A nearest magnitude is at most half a step away, whatever the step, if `2 ^ 53` steps reach the number. -/
theorem Nearest.abs_sub_le_half_step (h : Nearest v rank) (hnonneg : 0 ≤ v) (hle : v ≤ 2 ^ 53 * 2 ^ ((k : Int) - 1074)) :
    |v - magnitude rank| ≤ 2 ^ ((k : Int) - 1074) / 2 := by
  have hstep : (0 : ℚ) < 2 ^ ((k : Int) - 1074) := zpow_pos (by norm_num) _
  generalize hdef : (2 : ℚ) ^ ((k : Int) - 1074) = step at *
  let steps : Nat := ⌊v / step + 1 / 2⌋₊
  have hlow : (steps : ℚ) ≤ v / step + 1 / 2 := Nat.floor_le (by positivity)
  have hhigh : v / step + 1 / 2 < steps + 1 := Nat.lt_floor_add_one _
  have hreach : steps ≤ 2 ^ 53 := by
    have hquotient : v / step ≤ 2 ^ 53 := (div_le_iff₀ hstep).mpr hle
    have hlt : (steps : ℚ) < (2 ^ 53 + 1 : Nat) := by push_cast; linarith
    exact Nat.lt_succ_iff.mp (by exact_mod_cast hlt)
  obtain ⟨other, hother⟩ := exists_magnitude_eq_multiple hreach k
  rw [hdef] at hother
  refine (h.abs_sub_le other).trans ?_
  have hdistance : v - magnitude other = (v / step - steps) * step := by
    rw [hother, sub_mul, div_mul_cancel₀ _ hstep.ne']
  have hhalf : |v / step - steps| ≤ 1 / 2 := abs_le.mpr ⟨by linarith, by linarith⟩
  rw [hdistance, abs_mul, abs_of_pos hstep]
  linarith [mul_le_mul_of_nonneg_right hhalf hstep.le]

/-! ### Exact results -/

/-- A natural number up to `2 ^ 53` is a double of its own. -/
theorem exists_ofRatio_one (hn : n ≤ 2 ^ 53) (negative : Bool) :
    ∃ rank : Fin ranks, ofRatio negative n 1 = .finite negative rank ∧ magnitude rank = n := by
  obtain ⟨rank, hrank⟩ := exists_magnitude_eq_multiple hn 1074
  have hexact : magnitude rank = n := by simpa using hrank
  have hnearest := nearest_roundRank_one n
  have hfound : roundRank n 1 = rank := hnearest.unique (hexact ▸ nearest_magnitude rank)
  have hlt : roundRank n 1 < ranks := hnearest.lt_ranks_of_le (by exact_mod_cast hn.trans (by omega))
  exact ⟨⟨_, hlt⟩, ofRank_of_lt hlt, by rw [← hexact, ← hfound]⟩

/-- A quotient of two doubles is rounded once. -/
theorem exists_div_eq_ofRank (negative other : Bool) (r : Fin ranks) {s : Fin ranks} (hs : magnitude s ≠ 0) :
    ∃ rank, (finite negative r).div (finite other s) = ofRank (negative != other) rank ∧
      Nearest (magnitude r / magnitude s) rank := by
  have hnum : num s ≠ 0 := fun hzero => hs (by rw [← num_div_den, hzero, Nat.cast_zero, zero_div])
  have hval : s.val ≠ 0 := fun hzero => hnum (by rw [hzero]; rfl)
  have hden : 0 < den r * num s := Nat.mul_pos (powTwo_pos _) (Nat.pos_of_ne_zero hnum)
  refine ⟨roundRank (num r * den s) (den r * num s), by rw [div, if_neg hval, ofRatio], ?_⟩
  have hnearest : Nearest (((num r * den s : Nat) : ℚ) / (den r * num s : Nat)) _ := nearest_roundRank hden
  rwa [Nat.cast_mul, Nat.cast_mul, ← div_div_div_eq, num_div_den, num_div_den] at hnearest

/-! ### The fixed form -/

theorem writeFixed_eq_of_abs_sub_lt {rank : Fin ranks} (h : |magnitude rank * 10 ^ places - n| < 1 / 2) :
    (finite negative rank).writeFixed places =
      minusSign negative ++ digitsOf (n / 10 ^ places) ++ '.' :: paddedDigits places (n % 10 ^ places) := by
  have hden : 0 < den rank := powTwo_pos _
  obtain ⟨habove, hbelow, -, -⟩ := roundDiv_spec (num rank * 10 ^ places) hden
  have hexact : ((num rank * 10 ^ places : Nat) : ℚ) / den rank = magnitude rank * 10 ^ places := by
    rw [← num_div_den]
    push_cast
    ring
  rw [hexact] at habove hbelow
  have hunits : roundDiv .even (num rank * 10 ^ places) (den rank) = n := by
    obtain ⟨hlow, hhigh⟩ := abs_lt.mp h
    have hle : (roundDiv .even (num rank * 10 ^ places) (den rank) : ℚ) < n + 1 := by linarith
    have hge : (n : ℚ) < roundDiv .even (num rank * 10 ^ places) (den rank) + 1 := by linarith
    have hle' : roundDiv .even (num rank * 10 ^ places) (den rank) < n + 1 := by exact_mod_cast hle
    have hge' : n < roundDiv .even (num rank * 10 ^ places) (den rank) + 1 := by exact_mod_cast hge
    omega
  change minusSign negative ++ digitsOf (roundDiv .even (num rank * 10 ^ places) (den rank) / 10 ^ places) ++
    '.' :: paddedDigits places (roundDiv .even (num rank * 10 ^ places) (den rank) % 10 ^ places) = _
  rw [hunits]

/-- A decimal is shown by the double nearest to it, if half a step of the double is less than half a unit of the last place. -/
theorem Nearest.writeFixed_eq {rank : Fin ranks} (h : Nearest (n / 10 ^ places) rank)
    (hreach : (n : ℚ) / 10 ^ places ≤ 2 ^ 53 * 2 ^ ((k : Int) - 1074)) (hstep : (2 : ℚ) ^ ((k : Int) - 1074) * 10 ^ places < 1) :
    (finite negative rank).writeFixed places =
      minusSign negative ++ digitsOf (n / 10 ^ places) ++ '.' :: paddedDigits places (n % 10 ^ places) := by
  have hunit : (0 : ℚ) < 10 ^ places := by positivity
  have hnear := h.abs_sub_le_half_step (by positivity) hreach
  refine writeFixed_eq_of_abs_sub_lt ?_
  calc |magnitude rank * 10 ^ places - n| = |(n / 10 ^ places - magnitude rank) * 10 ^ places| := by
        rw [sub_mul, div_mul_cancel₀ _ hunit.ne', abs_sub_comm]
    _ = |n / 10 ^ places - magnitude rank| * 10 ^ places := by rw [abs_mul, abs_of_pos hunit]
    _ ≤ 2 ^ ((k : Int) - 1074) / 2 * 10 ^ places := mul_le_mul_of_nonneg_right hnear hunit.le
    _ < 1 / 2 := by linarith

/-! ### The number that is shown -/

theorem ofDigits_fixed (hplaces : 0 < places) (n : Nat) :
    ofDigits (digitsOf (n / 10 ^ places) ++ paddedDigits places (n % 10 ^ places)) = n := by
  have hlt : n % 10 ^ places < 10 ^ places := Nat.mod_lt n (Nat.pow_pos (by omega))
  rw [ofDigits_append, ofDigits_digitsOf, ofDigits_paddedDigits, length_paddedDigits hplaces hlt]
  exact Nat.div_add_mod n (10 ^ places)

/-- The digits of a decimal with a point among them denote it exactly. -/
theorem isNumeral_fixed (hplaces : 0 < places) (negative : Bool) (n : Nat) :
    IsNumeral negative (n / 10 ^ places)
      (minusSign negative ++ digitsOf (n / 10 ^ places) ++ '.' :: paddedDigits places (n % 10 ^ places)) := by
  have hlt : n % 10 ^ places < 10 ^ places := Nat.mod_lt n (Nat.pow_pos (by omega))
  have hpower : (-places : Int) = -(paddedDigits places (n % 10 ^ places)).length := by
    rw [length_paddedDigits hplaces hlt]
  have hmantissa := isMantissa_point (isDigits_digitsOf (n / 10 ^ places))
    (isDigits_paddedDigits places (n % 10 ^ places)).2 hpower
  rw [ofDigits_fixed hplaces, zpow_neg, zpow_natCast, ← div_eq_mul_inv] at hmantissa
  have hnumeral := IsNumeral.intro (isSign_minusSign negative) (.intro hmantissa .none)
  rwa [zpow_zero, mul_one, List.append_nil, ← List.append_assoc] at hnumeral

end NowPlaying.Double
