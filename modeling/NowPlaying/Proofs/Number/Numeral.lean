import Mathlib.Tactic.FieldSimp
import Mathlib.Tactic.Ring
import NowPlaying.Number.Numeral
import NowPlaying.Proofs.Number.Decimal
import NowPlaying.Proofs.Number.Integer
import NowPlaying.Proofs.Text.Span

/-!
# Numerals

The grammar of decimal numerals, with the exact number that each of them denotes. The reader accepts the texts of the grammar and no other, and finds their sign and their number, so a text denotes one number at most.
-/

namespace NowPlaying

/-- The exact number that is denoted, without its sign. -/
def Numeral.value (n : Numeral) : ℚ := n.digits * 10 ^ n.power

namespace Number

/-- Digits, digits and a point with or without digits behind it, or a point and digits. -/
inductive IsMantissa : ℚ → List Char → Prop
  | whole {whole : List Char} (hwhole : IsDigits whole) : IsMantissa (ofDigits whole) whole
  | point {whole fraction : List Char} (hwhole : IsDigits whole) (hfraction : ∀ c ∈ fraction, isDigit c) :
    IsMantissa (ofDigits whole + ofDigits fraction / 10 ^ fraction.length) (whole ++ '.' :: fraction)
  | fraction {fraction : List Char} (hfraction : IsDigits fraction) :
    IsMantissa (ofDigits fraction / 10 ^ fraction.length) ('.' :: fraction)

/-- The power of ten at the end of a numeral: nothing for none, or `e` or `E` and an integer. -/
inductive IsPower : Int → List Char → Prop
  | none : IsPower 0 []
  | mark {power : Int} {mark : Char} {s : List Char} (hmark : mark = 'e' ∨ mark = 'E') (hpower : IsInteger power s) :
    IsPower power (mark :: s)

/-- A mantissa and a power of ten that may be missing. -/
inductive IsUnsigned : ℚ → List Char → Prop
  | intro {m : ℚ} {power : Int} {mantissa s : List Char} (hmantissa : IsMantissa m mantissa) (hpower : IsPower power s) :
    IsUnsigned (m * 10 ^ power) (mantissa ++ s)

/-- A sign that may be missing and an unsigned numeral. The sign is told apart from the number, as zero has both. -/
inductive IsNumeral : Bool → ℚ → List Char → Prop
  | intro {negative : Bool} {v : ℚ} {sign s : List Char} (hsign : IsSign negative sign) (hunsigned : IsUnsigned v s) :
    IsNumeral negative v (sign ++ s)

section

variable {negative : Bool} {m v : ℚ} {power : Int} {s rest whole fraction behind : List Char}

/-! ### The parts of a numeral -/

theorem readPower?_eq_some_iff : Numeral.readPower? s = some power ↔ IsPower power s := by
  constructor
  · intro h
    unfold Numeral.readPower? at h
    split at h
    · obtain rfl := Option.some.inj h
      exact .none
    · split at h
      · next hmark => exact .mark hmark (readInt?_eq_some_iff.mp h)
      · contradiction
  · rintro (_ | ⟨hmark, hpower⟩)
    · rfl
    · rw [Numeral.readPower?, if_pos hmark]
      exact readInt?_eq_some_iff.mpr hpower

theorem IsPower.head (h : IsPower power s) : ∀ c ∈ s.head?, isDigit c = false ∧ c ≠ '.' := by
  cases h with
  | none => simp
  | mark hmark =>
    simp only [List.head?_cons, Option.mem_def, Option.some.injEq, forall_eq']
    obtain rfl | rfl := hmark <;> decide

theorem IsMantissa.head_ne_sign (h : IsMantissa m s) (rest : List Char) : ∀ c ∈ (s ++ rest).head?, c ≠ '+' ∧ c ≠ '-' := by
  cases h with
  | whole hwhole =>
    rw [List.head?_append_of_ne_nil _ hwhole.1]
    exact hwhole.head_ne_sign
  | point hwhole =>
    rw [List.append_assoc, List.head?_append_of_ne_nil _ hwhole.1]
    exact hwhole.head_ne_sign
  | fraction => simp

/-- What is left behind the mantissa begins neither with a digit nor with a point, so all of the mantissa is taken. -/
theorem IsMantissa.take (h : IsMantissa m s) (hrest : ∀ c ∈ rest.head?, isDigit c = false ∧ c ≠ '.') :
    ∃ whole behind fraction, takeDigits (s ++ rest) = (whole, behind) ∧ Numeral.takeFraction behind = (fraction, rest) ∧
      (whole.isEmpty && fraction.isEmpty) = false ∧ m = ofDigits whole + ofDigits fraction / 10 ^ fraction.length := by
  have hdigit (c) (hc : c ∈ rest.head?) : isDigit c = false := (hrest c hc).1
  cases h with
  | whole hwhole =>
    refine ⟨s, rest, [], span_append hwhole.2 hdigit, ?_, by simp [hwhole.1], by simp [ofDigits]⟩
    unfold Numeral.takeFraction
    split
    · exact absurd rfl (hrest '.' rfl).2
    · rfl
  | @point whole fraction hwhole hfraction =>
    refine ⟨whole, '.' :: (fraction ++ rest), fraction, ?_, span_append hfraction hdigit, by simp [hwhole.1], rfl⟩
    rw [List.append_assoc]
    exact span_append hwhole.2 (by simp; rfl)
  | @fraction fraction hfraction =>
    refine ⟨[], '.' :: (fraction ++ rest), fraction, rfl, span_append hfraction.2 hdigit, ?_, by simp [ofDigits]⟩
    simp [hfraction.1]

theorem exists_isMantissa (hwhole : takeDigits s = (whole, behind)) (hfraction : Numeral.takeFraction behind = (fraction, rest))
    (hsome : ¬ (whole.isEmpty && fraction.isEmpty)) :
    ∃ mantissa, s = mantissa ++ rest ∧ IsMantissa (ofDigits whole + ofDigits fraction / 10 ^ fraction.length) mantissa := by
  obtain ⟨rfl, hdigits, -⟩ := span_eq_iff.mp hwhole
  unfold Numeral.takeFraction at hfraction
  split at hfraction
  · obtain ⟨rfl, hfraction, -⟩ := span_eq_iff.mp hfraction
    by_cases hnone : whole = []
    · subst hnone
      refine ⟨'.' :: fraction, rfl, ?_⟩
      have h := IsMantissa.fraction ⟨by simpa using hsome, hfraction⟩
      simpa [ofDigits] using h
    · exact ⟨whole ++ '.' :: fraction, by simp, .point ⟨hnone, hdigits⟩ hfraction⟩
  · obtain ⟨rfl, rfl⟩ := Prod.mk.inj hfraction
    refine ⟨whole, rfl, ?_⟩
    have h := IsMantissa.whole ⟨by simpa using hsome, hdigits⟩
    simpa [ofDigits] using h

/-! ### Whole numerals -/

theorem value_of_parts (whole fraction : List Char) (power : Int) :
    (ofDigits (whole ++ fraction) : ℚ) * 10 ^ (power - fraction.length) =
      (ofDigits whole + ofDigits fraction / 10 ^ fraction.length) * 10 ^ power := by
  rw [ofDigits_append, zpow_sub₀ (by norm_num), zpow_natCast]
  push_cast
  field_simp

/-- The reader is sound and complete for the grammar. -/
theorem isNumeral_iff :
    IsNumeral negative v s ↔ ∃ n, Numeral.read? s = some n ∧ n.negative = negative ∧ n.value = v := by
  constructor
  · rintro ⟨hsign, hmantissa, hpower⟩
    obtain ⟨whole, behind, fraction, hwhole, hfraction, hsome, rfl⟩ := hmantissa.take hpower.head
    refine ⟨⟨negative, ofDigits (whole ++ fraction), _⟩, ?_, rfl, value_of_parts whole fraction _⟩
    simp only [Numeral.read?, takeSign_append hsign (hmantissa.head_ne_sign _), hwhole, hfraction, hsome, Bool.false_eq_true,
      if_false, readPower?_eq_some_iff.mpr hpower, Option.map_some]
  · rintro ⟨n, hread, rfl, rfl⟩
    obtain ⟨negative, sign, unsigned, hsplit, hsign, rfl⟩ := exists_takeSign s
    obtain ⟨⟨whole, behind⟩, hwhole⟩ : ∃ taken, takeDigits unsigned = taken := ⟨_, rfl⟩
    obtain ⟨⟨fraction, rest⟩, hfraction⟩ : ∃ taken, Numeral.takeFraction behind = taken := ⟨_, rfl⟩
    simp only [Numeral.read?, hsplit, hwhole, hfraction] at hread
    split at hread
    · contradiction
    · next hsome =>
      obtain ⟨power, hpower, rfl⟩ := Option.map_eq_some_iff.mp hread
      obtain ⟨mantissa, rfl, hmantissa⟩ := exists_isMantissa hwhole hfraction hsome
      rw [Numeral.value, value_of_parts]
      exact .intro hsign (.intro hmantissa (readPower?_eq_some_iff.mp hpower))

theorem IsNumeral.unique {negative' : Bool} {v' : ℚ} (h : IsNumeral negative v s) (h' : IsNumeral negative' v' s) :
    negative = negative' ∧ v = v' := by
  obtain ⟨n, hread, rfl, rfl⟩ := isNumeral_iff.mp h
  obtain ⟨n', hread', rfl, rfl⟩ := isNumeral_iff.mp h'
  obtain rfl := Option.some.inj (hread.symm.trans hread')
  exact ⟨rfl, rfl⟩

/-- An integer is a numeral as well. Its sign is the one of the number, unless that is zero. -/
theorem IsInteger.exists_isNumeral {n : Int} (h : IsInteger n s) :
    ∃ negative, IsNumeral negative |(n : ℚ)| s ∧ (n ≠ 0 → negative = decide (n < 0)) := by
  obtain @⟨negative, sign, digits, hsign, hdigits⟩ := h
  have hnumeral := IsNumeral.intro hsign (.intro (.whole hdigits) .none)
  rw [zpow_zero, mul_one, List.append_nil] at hnumeral
  refine ⟨negative, ?_, fun hn => ?_⟩
  · cases negative <;> simpa [signed] using hnumeral
  · cases negative with
    | false => simp [signed]
    | true =>
      have hpos : ofDigits digits ≠ 0 := by simpa [signed] using hn
      simp only [signed, if_true]
      exact (decide_eq_true (by omega)).symm

/-! ### The double of a numeral -/

theorem isFinite_toDouble_iff {n : Numeral} : n.toDouble.isFinite ↔ n.value < 2 ^ 1024 - 2 ^ 970 := Double.ofDecimal_isFinite_iff

theorem IsNumeral.exists_isNearest (h : IsNumeral negative v s) (hlt : v < 2 ^ 1024 - 2 ^ 970) :
    ∃ d : Double, d.IsNearest negative v := by
  obtain ⟨n, -, rfl, rfl⟩ := isNumeral_iff.mp h
  exact ⟨n.toDouble, (Double.isNearest_iff_eq_ofDecimal hlt).mpr rfl⟩

/-- The texts that are read as a finite double are the numerals below the bound, and the double is the nearest one. -/
theorem read?_finite_iff {d : Double} : Double.read? s = some d ∧ d.isFinite ↔
    ∃ negative v, IsNumeral negative v s ∧ v < 2 ^ 1024 - 2 ^ 970 ∧ d.IsNearest negative v := by
  constructor
  · rintro ⟨hread, hfinite⟩
    unfold Double.read? at hread
    split at hread
    · next n hn =>
      obtain rfl := Option.some.inj hread
      have hlt := isFinite_toDouble_iff.mp hfinite
      exact ⟨n.negative, n.value, isNumeral_iff.mpr ⟨n, hn, rfl, rfl⟩, hlt, (Double.isNearest_iff_eq_ofDecimal hlt).mpr rfl⟩
    · -- No word stands for a finite double.
      simp only [Double.readWord?] at hread
      split at hread
      · obtain rfl := Option.some.inj hread
        contradiction
      · split at hread
        · obtain rfl := Option.some.inj hread
          contradiction
        · contradiction
  · rintro ⟨negative, v, hnumeral, hlt, hnearest⟩
    obtain ⟨n, hn, rfl, rfl⟩ := isNumeral_iff.mp hnumeral
    obtain rfl := (Double.isNearest_iff_eq_ofDecimal hlt).mp hnearest
    exact ⟨by rw [Double.read?, hn]; rfl, isFinite_toDouble_iff.mpr hlt⟩

end

end Number

end NowPlaying
