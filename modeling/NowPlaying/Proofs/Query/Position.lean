import NowPlaying.Proofs.Number.Fixed
import NowPlaying.Query

/-!
# Positions in seconds

A position is shown in seconds with six places, by way of a double. Up to `2 ^ 33` seconds its microseconds are a double of their own and half a step of the quotient is less than half a microsecond, so the position is shown as it is.
-/

namespace NowPlaying.Query

open Number Double

/-- Microseconds that are a double of their own are divided exactly and rounded once. -/
theorem exists_inSeconds {micros : Int64} (h : micros.toInt.natAbs ≤ 2 ^ 53) :
    ∃ rank : Fin ranks, inSeconds micros = .finite (micros.toInt < 0) rank ∧
      Nearest (micros.toInt.natAbs / 10 ^ places) rank := by
  obtain ⟨dividend, hdividend, hmicros⟩ := exists_ofRatio_one h (micros.toInt < 0)
  obtain ⟨divisor, hdivisor, hmillion⟩ := exists_ofRatio_one (n := 1000000) (by decide) false
  have hne : magnitude divisor ≠ 0 := by
    rw [hmillion]
    norm_num
  obtain ⟨rank, hdiv, hnearest⟩ := exists_div_eq_ofRank (micros.toInt < 0) false dividend hne
  rw [hmicros, hmillion, show ((1000000 : Nat) : ℚ) = 10 ^ places by norm_num [places]] at hnearest
  have hlt : rank < ranks := by
    have hsmall : (micros.toInt.natAbs : ℚ) ≤ 2 ^ 64 := by exact_mod_cast h.trans (by norm_num)
    refine hnearest.lt_ranks_of_le ((div_le_self (by positivity) ?_).trans hsmall)
    norm_num [places]
  refine ⟨⟨rank, hlt⟩, ?_, hnearest⟩
  rw [inSeconds, ofInt, ofNat, hdividend, hdivisor, hdiv, Bool.bne_false, ofRank_of_lt hlt]

section

variable {micros other : Int64} (aliases : AliasTable)

theorem toList_position (h : micros.toInt.natAbs ≤ 2 ^ 33 * 10 ^ 6) :
    ((Query.position micros).defaultOutput aliases).toList =
      minusSign (micros.toInt < 0) ++ digitsOf (micros.toInt.natAbs / 10 ^ places) ++
        '.' :: paddedDigits places (micros.toInt.natAbs % 10 ^ places) := by
  obtain ⟨rank, hseconds, hnearest⟩ := exists_inSeconds (h.trans (by norm_num))
  rw [defaultOutput, String.toList_ofList, hseconds]
  -- A step of the quotient is at most `2 ^ (-20)`, a little less than a microsecond.
  refine hnearest.writeFixed_eq (k := 1054) ?_ (by norm_num [places])
  have hmicros : (micros.toInt.natAbs : ℚ) ≤ 2 ^ 33 * 10 ^ 6 := by exact_mod_cast h
  rw [div_le_iff₀ (by positivity)]
  refine hmicros.trans_eq ?_
  norm_num [places]

theorem isNumeral_position (h : micros.toInt.natAbs ≤ 2 ^ 33 * 10 ^ 6) :
    IsNumeral (micros.toInt < 0) (micros.toInt.natAbs / 10 ^ 6) ((Query.position micros).defaultOutput aliases).toList := by
  have hplaces : 0 < places := by decide
  rw [toList_position aliases h]
  exact isNumeral_fixed hplaces _ _

theorem position_injective (h : micros.toInt.natAbs ≤ 2 ^ 33 * 10 ^ 6) (hother : other.toInt.natAbs ≤ 2 ^ 33 * 10 ^ 6)
    (hsame : (Query.position micros).defaultOutput aliases = (Query.position other).defaultOutput aliases) :
    micros = other := by
  have hnumeral := isNumeral_position aliases h
  rw [hsame] at hnumeral
  obtain ⟨hsign, hvalue⟩ := hnumeral.unique (isNumeral_position aliases hother)
  rw [div_left_inj' (by norm_num)] at hvalue
  have hsize : micros.toInt.natAbs = other.toInt.natAbs := by exact_mod_cast hvalue
  have hsign : micros.toInt < 0 ↔ other.toInt < 0 := decide_eq_decide.mp hsign
  exact Int64.toInt_inj.mp (by omega)

end

/-- Up to `2 ^ 33` seconds on either side of zero a position is shown exactly: a minus sign if it is negative, its whole seconds without a zero in front, a point, and the microseconds behind them in six digits. So no two of these positions look alike. -/
theorem position_output_exact :
    (∀ (aliases : AliasTable) (micros : Int64), micros.toInt.natAbs ≤ 2 ^ 33 * 10 ^ 6 →
      ∃ whole fraction,
        ((Query.position micros).defaultOutput aliases).toList =
          (if micros.toInt < 0 then ['-'] else []) ++ whole ++ '.' :: fraction ∧
        (IsDigits whole ∧ (whole.head? = some '0' → whole = ['0']) ∧ ofDigits whole = micros.toInt.natAbs / 10 ^ 6) ∧
        (IsDigits fraction ∧ fraction.length = 6 ∧ ofDigits fraction = micros.toInt.natAbs % 10 ^ 6)) ∧
    ∀ (aliases : AliasTable) (micros other : Int64),
      micros.toInt.natAbs ≤ 2 ^ 33 * 10 ^ 6 → other.toInt.natAbs ≤ 2 ^ 33 * 10 ^ 6 →
        (Query.position micros).defaultOutput aliases = (Query.position other).defaultOutput aliases → micros = other := by
  refine ⟨fun aliases micros h => ?_, fun aliases micros other => position_injective aliases⟩
  refine ⟨digitsOf (micros.toInt.natAbs / 10 ^ 6), paddedDigits 6 (micros.toInt.natAbs % 10 ^ 6), ?_, ?_, ?_⟩
  · rw [toList_position aliases h, minusSign]
    simp only [decide_eq_true_eq]
    rfl
  · refine ⟨isDigits_digitsOf _, fun hzero => ?_, ofDigits_digitsOf _⟩
    rw [eq_zero_of_head?_digitsOf hzero]
    rfl
  · have hlt : micros.toInt.natAbs % 10 ^ 6 < 10 ^ 6 := Nat.mod_lt _ (by norm_num)
    exact ⟨isDigits_paddedDigits 6 _, length_paddedDigits (by norm_num) hlt, ofDigits_paddedDigits⟩

/-- A microsecond before the bound, where the quotient is no double, and the position next to it. -/
theorem position_output_exact_near_bound :
    let micros : Int64 := -8589934591999999
    let other : Int64 := -8589934591999998
    (micros.toInt.natAbs ≤ 2 ^ 33 * 10 ^ 6 ∧ other.toInt.natAbs ≤ 2 ^ 33 * 10 ^ 6) ∧
      (∃ whole fraction,
        ((Query.position micros).defaultOutput []).toList = '-' :: whole ++ '.' :: fraction ∧
        (IsDigits whole ∧ (whole.head? = some '0' → whole = ['0']) ∧ ofDigits whole = 8589934591) ∧
        (IsDigits fraction ∧ fraction.length = 6 ∧ ofDigits fraction = 999999)) ∧
      (Query.position micros).defaultOutput [] ≠ (Query.position other).defaultOutput [] := by
  intro micros other
  have hmicros : micros.toInt.natAbs ≤ 2 ^ 33 * 10 ^ 6 := by decide
  have hother : other.toInt.natAbs ≤ 2 ^ 33 * 10 ^ 6 := by decide
  obtain ⟨whole, fraction, htext, ⟨hdigits, hshort, hwhole⟩, hplaces, hlength, hfraction⟩ :=
    position_output_exact.1 [] micros hmicros
  refine ⟨⟨hmicros, hother⟩, ⟨whole, fraction, htext, ?_, ?_⟩, fun hsame => ?_⟩
  · exact ⟨hdigits, hshort, hwhole.trans (by decide)⟩
  · exact ⟨hplaces, hlength, hfraction.trans (by decide)⟩
  · have heq : micros = other := position_output_exact.2 [] micros other hmicros hother hsame
    exact absurd heq (by decide)

/-- A microsecond behind the bound the step of the quotient is already too large. -/
example : (Query.position 8589934592000001).defaultOutput [] = "8589934592.000002" := by decide +kernel

end NowPlaying.Query
