import Mathlib.Tactic.Ring
import NowPlaying.Number.Double
import NowPlaying.Proofs.Number.Rounding

/-!
# Magnitudes in order of rank

Between two powers of two the magnitudes are the multiples of one smaller power, and the ranks count them, so magnitudes grow with their ranks. A rank is nearest to a number when the number lies between the midpoints to its neighbours, and on a midpoint only if the rank is even. There is at most one such rank, it grows with the number, and rounding a quotient finds it.
-/

namespace NowPlaying.Double

open Number

/-- The exact magnitude of a rank. -/
def magnitude (rank : Nat) : ℚ := mantissa rank * 2 ^ exponent rank

theorem num_div_den (rank : Nat) : (num rank : ℚ) / den rank = magnitude rank := by
  rw [num, den, Nat.cast_mul, mul_div_assoc, powTwo_div_powTwo]
  rfl

/-! ### Multiples of a power of two -/

section

variable {k q : Nat}

theorem pow_two_52 : Nat.pow 2 52 = 4503599627370496 := rfl

/-- The multiples of `2 ^ (k - 1074)` up to `2 ^ 53`, from `2 ^ 52` on unless it is the least power, have consecutive ranks. -/
theorem magnitude_multiple (hq : q ≤ 2 ^ 53) (hk : k = 0 ∨ 2 ^ 52 ≤ q) :
    magnitude (k * 2 ^ 52 + q) = q * 2 ^ ((k : Int) - 1074) := by
  unfold magnitude mantissa exponent
  simp only [pow_two_52]
  by_cases hsmall : q < 2 ^ 52
  · obtain rfl : k = 0 := by omega
    rw [if_pos (by omega), if_pos (by omega)]
    simp
  · rw [if_neg (by omega), if_neg (by omega)]
    by_cases htop : q = 2 ^ 53
    · have hmod : (k * 2 ^ 52 + q) % 4503599627370496 = 0 := by omega
      have hdiv : (k * 2 ^ 52 + q) / 4503599627370496 = k + 2 := by omega
      rw [hmod, hdiv, htop, show ((k + 2 : Nat) : Int) - 1075 = (k : Int) - 1074 + 1 by omega,
        zpow_add_one₀ (by norm_num)]
      norm_num
      ring
    · have hmod : 4503599627370496 + (k * 2 ^ 52 + q) % 4503599627370496 = q := by omega
      have hdiv : (k * 2 ^ 52 + q) / 4503599627370496 = k + 1 := by omega
      rw [hmod, hdiv, show ((k + 1 : Nat) : Int) - 1075 = (k : Int) - 1074 by omega]

theorem exists_multiple (rank : Nat) : ∃ k q, rank = k * 2 ^ 52 + q ∧ q < 2 ^ 53 ∧ (k = 0 ∨ 2 ^ 52 ≤ q) := by
  by_cases h : rank < 2 ^ 52
  · exact ⟨0, rank, by omega, by omega, .inl rfl⟩
  · exact ⟨rank / 2 ^ 52 - 1, 2 ^ 52 + rank % 2 ^ 52, by omega, by omega, .inr (by omega)⟩

theorem magnitude_lt_succ (rank : Nat) : magnitude rank < magnitude (rank + 1) := by
  obtain ⟨k, q, rfl, hq, hk⟩ := exists_multiple rank
  rw [Nat.add_assoc, magnitude_multiple (by omega) hk, magnitude_multiple (by omega) (by omega)]
  have hpos : (0 : ℚ) < 2 ^ ((k : Int) - 1074) := zpow_pos (by norm_num) _
  push_cast
  nlinarith

theorem strictMono_magnitude : StrictMono magnitude := strictMono_nat_of_lt_succ magnitude_lt_succ

theorem mantissa_mod_two (rank : Nat) : mantissa rank % 2 = rank % 2 := by
  unfold mantissa
  simp only [pow_two_52]
  split <;> omega

end

/-! ### The nearest rank -/

/-- The number lies between the midpoints to the neighbours, and on a midpoint only if the rank is even. -/
structure Nearest (v : ℚ) (rank : Nat) : Prop where
  le_above : 2 * v ≤ magnitude rank + magnitude (rank + 1)
  even_of_eq_above : 2 * v = magnitude rank + magnitude (rank + 1) → rank % 2 = 0
  below_le : ∀ below, rank = below + 1 → magnitude below + magnitude rank ≤ 2 * v
  even_of_eq_below : ∀ below, rank = below + 1 → magnitude below + magnitude rank = 2 * v → rank % 2 = 0

namespace Nearest

variable {v w : ℚ} {rank other : Nat}

theorem le_of_le (h : Nearest v rank) (h' : Nearest w other) (hle : v ≤ w) : rank ≤ other := by
  by_contra hlt
  obtain ⟨below, rfl⟩ : ∃ below, rank = below + 1 := ⟨rank - 1, by omega⟩
  have hbelow : magnitude other ≤ magnitude below := strictMono_magnitude.monotone (by omega)
  have habove : magnitude (other + 1) ≤ magnitude (below + 1) := strictMono_magnitude.monotone (by omega)
  have hlow := h.below_le below rfl
  have hhigh := h'.le_above
  -- The two midpoints coincide, so the ranks are neighbours and both even.
  have hsame : other = below := strictMono_magnitude.injective (by linarith)
  subst hsame
  have heven := h.even_of_eq_below other rfl (by linarith)
  have heven' := h'.even_of_eq_above (by linarith)
  omega

theorem unique (h : Nearest v rank) (h' : Nearest v other) : rank = other :=
  Nat.le_antisymm (h.le_of_le h' le_rfl) (h'.le_of_le h le_rfl)

end Nearest

theorem nearest_magnitude (rank : Nat) : Nearest (magnitude rank) rank := by
  have hlt := magnitude_lt_succ rank
  refine ⟨by linarith, fun h => ?_, fun below h => ?_, fun below h heq => ?_⟩
  · linarith
  · subst h
    linarith [magnitude_lt_succ below]
  · subst h
    linarith [magnitude_lt_succ below]

/-! ### Rounding a quotient -/

section

variable {num den : Nat}

theorem mul_powTwo_lt_iff (hden : 0 < den) (k : Int) :
    num * powTwo (-k) < den * powTwo k ↔ (num : ℚ) / den < 2 ^ k := by
  have hden' : (0 : ℚ) < den := by exact_mod_cast hden
  have hpower : (0 : ℚ) < powTwo (-k) := by exact_mod_cast powTwo_pos (-k)
  rw [← powTwo_div_powTwo, div_lt_div_iff₀ hden' hpower, mul_comm (powTwo k : ℚ)]
  exact_mod_cast Iff.rfl

/-- The logarithms of two numbers tell the power of two of their quotient up to a factor of four. -/
theorem quotient_log2_bounds (hnum : 0 < num) (hden : 0 < den) :
    (2 : ℚ) ^ ((num.log2 : Int) - den.log2 - 1) ≤ (num : ℚ) / den ∧
      (num : ℚ) / den < 2 ^ ((num.log2 : Int) - den.log2 + 1) := by
  have hden' : (0 : ℚ) < den := by exact_mod_cast hden
  have hnumLow : (2 : ℚ) ^ num.log2 ≤ num := by exact_mod_cast Nat.log2_self_le hnum.ne'
  have hnumHigh : (num : ℚ) < 2 ^ (num.log2 + 1) := by exact_mod_cast Nat.lt_log2_self
  have hdenLow : (2 : ℚ) ^ den.log2 ≤ den := by exact_mod_cast Nat.log2_self_le hden.ne'
  have hdenHigh : (den : ℚ) < 2 ^ (den.log2 + 1) := by exact_mod_cast Nat.lt_log2_self
  constructor
  · rw [show (num.log2 : Int) - den.log2 - 1 = (num.log2 : Int) - ((den.log2 + 1 : Nat) : Int) by omega,
      zpow_sub₀ (by norm_num), zpow_natCast, zpow_natCast]
    exact div_le_div₀ (by positivity) hnumLow hden' hdenHigh.le
  · rw [show (num.log2 : Int) - den.log2 + 1 = ((num.log2 + 1 : Nat) : Int) - (den.log2 : Int) by omega,
      zpow_sub₀ (by norm_num), zpow_natCast, zpow_natCast]
    exact div_lt_div₀ hnumHigh hdenLow (by positivity) (by positivity)

/-- The grid of a quotient leaves 53 binary digits before the point, or it is the finest one and leaves fewer. -/
theorem gridExponent_spec (hnum : 0 < num) (hden : 0 < den) :
    -1074 ≤ gridExponent num den ∧ (num : ℚ) / den < 2 ^ (gridExponent num den + 53) ∧
      (gridExponent num den = -1074 ∨ 2 ^ (gridExponent num den + 52) ≤ (num : ℚ) / den) := by
  obtain ⟨hlow, hhigh⟩ := quotient_log2_bounds hnum hden
  let low : Int := (num.log2 : Int) - den.log2 - 53
  let grid : Int := if num * powTwo (-(low + 53)) < den * powTwo (low + 53) then low else low + 1
  have hgrid : gridExponent num den = max (-1074) grid := rfl
  have hbounds : (num : ℚ) / den < 2 ^ (grid + 53) ∧ 2 ^ (grid + 52) ≤ (num : ℚ) / den := by
    simp only [grid, mul_powTwo_lt_iff hden]
    split
    · next hfits => exact ⟨hfits, by rwa [show low + 52 = (num.log2 : Int) - den.log2 - 1 by omega]⟩
    · next hfits =>
      rw [show low + 1 + 53 = (num.log2 : Int) - den.log2 + 1 by omega, show low + 1 + 52 = low + 53 by omega]
      exact ⟨hhigh, not_lt.mp hfits⟩
  rw [hgrid]
  obtain hle | hlt := le_or_gt (-1074) grid
  · rw [max_eq_right hle]
    exact ⟨hle, hbounds.1, .inr hbounds.2⟩
  · rw [max_eq_left hlt.le]
    have hmono : (2 : ℚ) ^ (grid + 53) ≤ 2 ^ ((-1074 : Int) + 53) := zpow_le_zpow_right₀ (by norm_num) (by omega)
    exact ⟨le_rfl, hbounds.1.trans_le hmono, .inl rfl⟩

theorem le_magnitude_above {k q : Nat} (hq : q ≤ 2 ^ 53) (hk : k = 0 ∨ 2 ^ 52 ≤ q) :
    ((q : ℚ) + 1) * 2 ^ ((k : Int) - 1074) ≤ magnitude (k * 2 ^ 52 + q + 1) := by
  obtain hlt | htop := Nat.lt_or_ge q (2 ^ 53)
  · rw [Nat.add_assoc, magnitude_multiple (by omega) (by omega)]
    push_cast
    exact le_rfl
  · -- The next rank is a multiple of the next power.
    obtain rfl : q = 2 ^ 53 := by omega
    have hpos : (0 : ℚ) < 2 ^ ((k : Int) - 1074) := zpow_pos (by norm_num) _
    rw [show k * 2 ^ 52 + 2 ^ 53 + 1 = (k + 1) * 2 ^ 52 + (2 ^ 52 + 1) by omega, magnitude_multiple (by omega) (by omega),
      show ((k + 1 : Nat) : Int) - 1074 = (k : Int) - 1074 + 1 by omega, zpow_add_one₀ (by norm_num)]
    norm_num
    linarith

/-- What is nearest among the multiples of a power is nearest among all ranks: above, no rank comes sooner than the next multiple, and the one below the least multiple is met by no number of the range. -/
theorem nearest_of_multiple {x : ℚ} {k q : Nat} (hlt : x < 2 ^ 53) (hle : k = 0 ∨ 2 ^ 52 ≤ x) (habove : 2 * x ≤ 2 * q + 1)
    (hbelow : 2 * q ≤ 2 * x + 1) (hevenAbove : 2 * x = 2 * q + 1 → q % 2 = 0) (hevenBelow : 2 * q = 2 * x + 1 → q % 2 = 0) :
    Nearest (x * 2 ^ ((k : Int) - 1074)) (k * 2 ^ 52 + q) := by
  have hpos : (0 : ℚ) < 2 ^ ((k : Int) - 1074) := zpow_pos (by norm_num) _
  have hq : q ≤ 2 ^ 53 := by
    have h : (2 * q : ℚ) < 2 * 2 ^ 53 + 1 := by linarith
    have h' : 2 * q < 2 * 2 ^ 53 + 1 := by exact_mod_cast h
    omega
  have hk : k = 0 ∨ 2 ^ 52 ≤ q := by
    refine hle.imp_right fun hx => ?_
    have h : (2 * 2 ^ 52 : ℚ) ≤ 2 * q + 1 := by linarith
    have h' : 2 * 2 ^ 52 ≤ 2 * q + 1 := by exact_mod_cast h
    omega
  have hrank := magnitude_multiple hq hk
  have hnext := le_magnitude_above hq hk
  have hprevious (below : Nat) (h : k * 2 ^ 52 + q = below + 1) :
      magnitude below = ((q : ℚ) - 1) * 2 ^ ((k : Int) - 1074) ∨
        magnitude below < magnitude (k * 2 ^ 52 + q) ∧ (q : ℚ) ≤ x := by
    by_cases hleast : k ≠ 0 ∧ q = 2 ^ 52
    · refine .inr ⟨h ▸ magnitude_lt_succ below, ?_⟩
      rw [hleast.2]
      exact_mod_cast hle.resolve_left hleast.1
    · obtain ⟨r, rfl⟩ : ∃ r, q = r + 1 := ⟨q - 1, by omega⟩
      refine .inl ?_
      rw [show below = k * 2 ^ 52 + r by omega, magnitude_multiple (by omega) (by omega)]
      push_cast
      ring
  generalize (2 : ℚ) ^ ((k : Int) - 1074) = power at *
  have hmulAbove : 2 * x * power ≤ (2 * q + 1) * power := mul_le_mul_of_nonneg_right habove hpos.le
  have hmulBelow : 2 * q * power ≤ (2 * x + 1) * power := mul_le_mul_of_nonneg_right hbelow hpos.le
  refine ⟨by linarith, fun h => ?_, fun below h => ?_, fun below h heq => ?_⟩
  · have hx : 2 * x = 2 * q + 1 := mul_right_cancel₀ hpos.ne' (by linarith)
    have heven := hevenAbove hx
    omega
  · obtain hmagnitude | ⟨hmagnitude, hx⟩ := hprevious below h
    · linarith
    · have hmul := mul_le_mul_of_nonneg_right hx hpos.le
      linarith
  · obtain hmagnitude | ⟨hmagnitude, hx⟩ := hprevious below h
    · have hx : 2 * q = 2 * x + 1 := mul_right_cancel₀ hpos.ne' (by linarith)
      have heven := hevenBelow hx
      omega
    · have hmul := mul_le_mul_of_nonneg_right hx hpos.le
      linarith

/-- A quotient counted in steps of its grid. -/
theorem scaled_quotient (num den : Nat) (grid : Int) :
    ((num * powTwo (-grid) : Nat) : ℚ) / (den * powTwo grid : Nat) = (num : ℚ) / den / 2 ^ grid := by
  rw [← powTwo_div_powTwo, div_div_div_eq]
  push_cast
  rfl

theorem nearest_roundRank (hden : 0 < den) : Nearest ((num : ℚ) / den) (roundRank num den) := by
  by_cases hzero : num = 0
  · rw [roundRank, if_pos hzero, hzero]
    simpa [magnitude, mantissa] using nearest_magnitude 0
  · obtain ⟨hleast, hhigh, hlow⟩ := gridExponent_spec (Nat.pos_of_ne_zero hzero) hden
    rw [roundRank, if_neg hzero]
    generalize gridExponent num den = grid at *
    obtain ⟨k, rfl⟩ : ∃ k : Nat, grid = (k : Int) - 1074 := ⟨(grid + 1074).toNat, by omega⟩
    have hpower : (0 : ℚ) < 2 ^ ((k : Int) - 1074) := zpow_pos (by norm_num) _
    have hdenGrid : 0 < den * powTwo ((k : Int) - 1074) := Nat.mul_pos hden (powTwo_pos _)
    have hlt : (num : ℚ) / den / 2 ^ ((k : Int) - 1074) < 2 ^ 53 := by
      rw [div_lt_iff₀ hpower, ← zpow_natCast, ← zpow_add₀ (by norm_num), add_comm]
      exact hhigh
    have hle : k = 0 ∨ 2 ^ 52 ≤ (num : ℚ) / den / 2 ^ ((k : Int) - 1074) := by
      refine hlow.imp (fun h => by omega) fun h => ?_
      rw [le_div_iff₀ hpower, ← zpow_natCast, ← zpow_add₀ (by norm_num), add_comm]
      exact h
    obtain ⟨habove, hbelow, hevenAbove, hevenBelow⟩ := roundDiv_spec (num * powTwo (-((k : Int) - 1074))) hdenGrid
    rw [scaled_quotient] at habove hbelow hevenAbove hevenBelow
    have hnearest := nearest_of_multiple hlt hle habove hbelow hevenAbove hevenBelow
    rw [div_mul_cancel₀ _ hpower.ne'] at hnearest
    simpa using hnearest

theorem nearest_roundRank_one (n : Nat) : Nearest n (roundRank n 1) := by
  have hnearest : Nearest ((n : ℚ) / (1 : Nat)) (roundRank n 1) := nearest_roundRank Nat.one_pos
  rwa [Nat.cast_one, div_one] at hnearest

end

/-! ### Finite doubles -/

/-- The double with this sign and the magnitude nearest to a number among all finite ones. Of two that are equally near, it is the one with the even mantissa. -/
def IsNearest (negative : Bool) (v : ℚ) (d : Double) : Prop :=
  ∃ rank : Fin ranks, d = .finite negative rank ∧ ∀ other : Fin ranks, other ≠ rank →
    |v - magnitude rank| < |v - magnitude other| ∨
      |v - magnitude rank| = |v - magnitude other| ∧ mantissa rank % 2 = 0

section

variable {v : ℚ} {rank other : Nat} {negative : Bool} {d : Double}

/-- A nearest rank is nearer than every other, or as near as one neighbour and even. -/
theorem Nearest.abs_sub_lt_or (h : Nearest v rank) (hne : other ≠ rank) :
    |v - magnitude rank| < |v - magnitude other| ∨
      |v - magnitude rank| = |v - magnitude other| ∧ rank % 2 = 0 ∧ other % 2 = 1 := by
  obtain hlt | hlt := Nat.lt_or_gt_of_ne hne
  · obtain ⟨below, rfl⟩ : ∃ below, rank = below + 1 := ⟨rank - 1, by omega⟩
    have hle : magnitude other ≤ magnitude below := strictMono_magnitude.monotone (by omega)
    have hless : magnitude other < magnitude (below + 1) := strictMono_magnitude hlt
    have hmid := h.below_le below rfl
    rw [abs_of_pos (show 0 < v - magnitude other by linarith)]
    obtain heq | hmid := hmid.eq_or_lt.imp_left Eq.symm
    · have heven := h.even_of_eq_below below rfl heq.symm
      obtain hstrict | hsame := hle.lt_or_eq
      · exact .inl (abs_lt.mpr ⟨by linarith, by linarith⟩)
      · obtain rfl := strictMono_magnitude.injective hsame
        refine .inr ⟨?_, heven, by omega⟩
        rw [abs_of_neg (by linarith)]
        linarith
    · exact .inl (abs_lt.mpr ⟨by linarith, by linarith⟩)
  · have hle : magnitude (rank + 1) ≤ magnitude other := strictMono_magnitude.monotone (by omega)
    have hless : magnitude rank < magnitude other := strictMono_magnitude hlt
    have hmid := h.le_above
    rw [abs_of_neg (show v - magnitude other < 0 by linarith)]
    obtain heq | hmid := hmid.eq_or_lt
    · have heven := h.even_of_eq_above heq
      obtain hstrict | hsame := hle.lt_or_eq
      · exact .inl (abs_lt.mpr ⟨by linarith, by linarith⟩)
      · obtain rfl := strictMono_magnitude.injective hsame
        refine .inr ⟨?_, heven, by omega⟩
        rw [abs_of_pos (by linarith)]
        linarith
    · exact .inl (abs_lt.mpr ⟨by linarith, by linarith⟩)

theorem ofRank_of_lt (h : rank < ranks) : ofRank negative rank = .finite negative ⟨rank, h⟩ := dif_pos h

theorem isFinite_ofRank_iff : (ofRank negative rank).isFinite ↔ rank < ranks := by
  unfold ofRank
  split <;> simp_all [isFinite]

/-- The greatest finite magnitude and the next one beyond it have their midpoint at the bound of what is finite. -/
theorem midpoint_of_ranks : magnitude (ranks - 1) + magnitude ranks = 2 * (2 ^ 1024 - 2 ^ 970) := by
  have hlast : ranks - 1 = 2045 * 2 ^ 52 + (2 ^ 53 - 1) := by decide
  have hnext : ranks = 2045 * 2 ^ 52 + 2 ^ 53 := by decide
  have hexponent : ((2045 : Nat) : Int) - 1074 = (971 : Nat) := rfl
  have hgrid : (2 : ℚ) ^ 971 = 2 * 2 ^ 970 := by rw [← pow_succ']
  have hpower : (2 : ℚ) ^ 1024 = 2 ^ 54 * 2 ^ 970 := by rw [← pow_add]
  rw [hlast, hnext, magnitude_multiple (by omega) (by omega), magnitude_multiple (by omega) (by omega), hexponent,
    zpow_natCast, hgrid, hpower]
  generalize (2 : ℚ) ^ 970 = power
  norm_num
  ring

theorem Nearest.lt_ranks_iff (h : Nearest v rank) : rank < ranks ↔ v < 2 ^ 1024 - 2 ^ 970 := by
  have hmid := midpoint_of_ranks
  have hranks : 0 < ranks := by decide
  generalize (2 ^ 1024 - 2 ^ 970 : ℚ) = bound at *
  constructor
  · intro hlt
    by_contra hle
    have hlast : magnitude rank ≤ magnitude (ranks - 1) := strictMono_magnitude.monotone (by omega)
    have hnext : magnitude (rank + 1) ≤ magnitude ranks := strictMono_magnitude.monotone (by omega)
    have habove := h.le_above
    -- The number is the midpoint itself, and the greatest finite rank is odd.
    have hrank : rank = ranks - 1 := strictMono_magnitude.injective (by linarith)
    have heven := h.even_of_eq_above (by linarith)
    have hodd : (ranks - 1) % 2 = 1 := by decide
    omega
  · intro hv
    by_contra hle
    obtain ⟨below, rfl⟩ : ∃ below, rank = below + 1 := ⟨rank - 1, by omega⟩
    have hlast : magnitude (ranks - 1) ≤ magnitude below := strictMono_magnitude.monotone (by omega)
    have hnext : magnitude ranks ≤ magnitude (below + 1) := strictMono_magnitude.monotone (by omega)
    linarith [h.below_le below rfl]

theorem Nearest.lt_ranks_of_le (h : Nearest v rank) (hle : v ≤ 2 ^ 64) : rank < ranks := by
  have hpowers : 2 ^ 64 + 2 ^ 970 < 2 ^ 1024 := by decide +kernel
  have hbound : (2 : ℚ) ^ 64 + 2 ^ 970 < 2 ^ 1024 := by exact_mod_cast hpowers
  exact h.lt_ranks_iff.mpr (hle.trans_lt (lt_sub_iff_add_lt.mpr hbound))

theorem Nearest.isNearest_iff (h : Nearest v rank) (hrank : rank < ranks) :
    IsNearest negative v d ↔ d = ofRank negative rank := by
  rw [ofRank_of_lt hrank]
  constructor
  · rintro ⟨found, rfl, hfound⟩
    by_contra hne
    have hne : found.val ≠ rank := fun heq => hne (by subst heq; rfl)
    have hnear := hfound ⟨rank, hrank⟩ (fun heq => hne (congrArg Fin.val heq).symm)
    rw [mantissa_mod_two] at hnear
    obtain hlt | ⟨heq, heven, hodd⟩ := h.abs_sub_lt_or hne
    · obtain hnear | ⟨hnear, -⟩ := hnear <;> linarith
    · obtain hnear | ⟨-, heven'⟩ := hnear
      · linarith
      · omega
  · rintro rfl
    refine ⟨⟨rank, hrank⟩, rfl, fun other hne => ?_⟩
    rw [mantissa_mod_two]
    exact (h.abs_sub_lt_or fun heq => hne (Fin.ext heq)).imp_right fun ⟨heq, heven, _⟩ => ⟨heq, heven⟩

end

end NowPlaying.Double
