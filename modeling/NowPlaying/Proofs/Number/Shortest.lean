import NowPlaying.Number.Shortest
import NowPlaying.Proofs.Number.Decimal

/-!
# The shortest decimal reads back

Every decimal that the search accepts on its way has been read back. At the last power of ten, where it accepts without a trial, the decimal is the magnitude itself.
-/

namespace NowPlaying.Decimal

open Number Double

variable {tie : Tie} {rank : Nat} {d : Decimal}

/-- The exact number. -/
def value (d : Decimal) : ℚ := d.digits * 10 ^ d.power

theorem ofRank_eq_iff {found : Nat} (hrank : rank < ranks) : ofRank false found = ofRank false rank ↔ found = rank := by
  constructor
  · intro h
    have hfound : found < ranks := isFinite_ofRank_iff.mp (h ▸ isFinite_ofRank_iff.mpr hrank)
    simpa [ofRank_of_lt, hfound, hrank] using h
  · rintro rfl
    rfl

theorem nearest_of_readsAs (hrank : rank < ranks) (h : readsAs rank d) : Nearest d.value rank := by
  obtain ⟨found, hnearest, heq⟩ := exists_nearest_ofDecimal false d.digits d.power
  rw [readsAs, beq_iff_eq, heq, ofRank_eq_iff hrank] at h
  exact h ▸ hnearest

theorem readsAs_of_onGrid? {power : Int} (h : onGrid? tie rank power = some d) : readsAs rank d := List.find?_some h

/-! ### The last power -/

/-- At the last power of ten the magnitude is a whole multiple. -/
theorem den_dvd_num_mul_powTen (rank : Nat) : den rank ∣ num rank * powTen (-lastPower rank) := by
  unfold den num lastPower
  obtain hle | hlt := le_or_gt 0 (exponent rank)
  · rw [powTwo, show (-exponent rank).toNat = 0 by omega]
    exact one_dvd _
  · rw [min_eq_right hlt.le]
    refine Nat.dvd_mul_left_of_dvd ?_ _
    exact pow_dvd_pow_of_dvd (by norm_num) _

theorem value_nearest_lastPower (tie : Tie) (rank : Nat) : (nearest tie rank (lastPower rank)).value = Double.magnitude rank := by
  obtain ⟨multiple, hmultiple⟩ := den_dvd_num_mul_powTen rank
  have hden : 0 < den rank := powTwo_pos _
  have hpower : 0 < powTen (-lastPower rank) := powTen_pos _
  have hone : powTen (lastPower rank) = 1 := by
    rw [powTen, show (lastPower rank).toNat = 0 by unfold lastPower; omega]
  have hdigits : (nearest tie rank (lastPower rank)).digits = multiple := by
    rw [nearest, hmultiple, hone, Nat.mul_one, Nat.mul_comm]
    exact roundDiv_mul hden multiple
  have hexact : (multiple : ℚ) * den rank = num rank * powTen (-lastPower rank) := by
    rw [mul_comm]
    exact_mod_cast hmultiple.symm
  rw [value, hdigits, show (nearest tie rank (lastPower rank)).power = lastPower rank from rfl, ← powTen_div_powTen, hone,
    ← num_div_den, Nat.cast_one, mul_one_div, div_eq_div_iff (by exact_mod_cast hpower.ne') (by exact_mod_cast hden.ne')]
  exact hexact

theorem readsAs_nearest_lastPower (tie : Tie) (rank : Nat) : readsAs rank (nearest tie rank (lastPower rank)) := by
  rw [readsAs, beq_iff_eq]
  exact ofDecimal_eq_ofRank (value_nearest_lastPower tie rank)

/-! ### The search -/

theorem readsAs_searchFrom (tie : Tie) (rank steps : Nat) : readsAs rank (searchFrom tie rank steps) := by
  induction steps with
  | zero => exact readsAs_nearest_lastPower tie rank
  | succ steps ih =>
    rw [searchFrom]
    cases hfound : onGrid? tie rank (lastPower rank + (steps + 1 : Nat)) with
    | none => exact ih
    | some d => exact readsAs_of_onGrid? hfound

theorem readsAs_shortest (tie : Tie) (rank : Nat) : readsAs rank (shortest tie rank) := readsAs_searchFrom tie rank _

theorem nearest_shortest (tie : Tie) (hrank : rank < ranks) : Nearest (shortest tie rank).value rank :=
  nearest_of_readsAs hrank (readsAs_shortest tie rank)

end NowPlaying.Decimal
