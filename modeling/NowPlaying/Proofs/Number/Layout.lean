import NowPlaying.Number.Layout
import NowPlaying.Proofs.Number.Numeral
import NowPlaying.Proofs.Number.Shortest

/-!
# Written doubles are numerals

Whatever the layout, the shortest form of a finite double is a numeral. Its sign is the one of the double, and the exact number that it denotes has this double as its nearest. It shows a point or a power of ten, so it is never an integer.
-/

namespace NowPlaying

open Number

section

variable {negative : Bool} {digits whole fraction : List Char} {power n : Int} {v : ℚ}

/-- Digits with a point among them denote the number of all the digits, moved down by the places behind the point. -/
theorem isMantissa_point (hwhole : IsDigits whole) (hfraction : ∀ c ∈ fraction, isDigit c) (hpower : power = -fraction.length) :
    IsMantissa (ofDigits (whole ++ fraction) * 10 ^ power) (whole ++ '.' :: fraction) := by
  have h := IsMantissa.point hwhole hfraction
  have hvalue := value_of_parts whole fraction 0
  rw [zpow_zero, mul_one, zero_sub, ← hpower] at hvalue
  rwa [hvalue]

namespace Layout

theorem isDigit_of_mem_zeros {c : Char} (h : c ∈ zeros n) : isDigit c := by
  rw [List.eq_of_mem_replicate h]
  rfl

/-! ### Positional writing -/

/-- A power that is not negative is written as zeros, and a zero stands behind the point. -/
theorem isMantissa_zeros_behind (h : IsDigits digits) (hpower : 0 ≤ power) :
    IsMantissa (ofDigits digits * 10 ^ power) (digits ++ zeros power ++ ['.', '0']) := by
  obtain ⟨n, rfl⟩ := Int.eq_ofNat_of_zero_le hpower
  have hwhole : IsDigits (digits ++ zeros n) :=
    ⟨List.append_ne_nil_of_left_ne_nil h.1 _, List.forall_mem_append.mpr ⟨h.2, fun _ => isDigit_of_mem_zeros⟩⟩
  have hmantissa : IsMantissa _ (digits ++ zeros n ++ '.' :: ['0']) := .point hwhole (by simp; rfl)
  have hvalue : (ofDigits (digits ++ zeros n) : ℚ) = ofDigits digits * 10 ^ (n : Int) := by
    rw [ofDigits_append, zeros, ofDigits_zeros, List.length_replicate, Int.toNat_natCast, zpow_natCast]
    push_cast
    ring
  rwa [hvalue, show ofDigits ['0'] = 0 from rfl, Nat.cast_zero, zero_div, add_zero] at hmantissa

theorem isMantissa_among (h : IsDigits digits) (hpower : power < 0) (hwhole : 0 < digits.length + power) :
    IsMantissa (ofDigits digits * 10 ^ power)
      (digits.take (digits.length + power).toNat ++ '.' :: digits.drop (digits.length + power).toNat) := by
  have htake : digits.take (digits.length + power).toNat ≠ [] := by
    rw [ne_eq, List.take_eq_nil_iff, not_or]
    exact ⟨by omega, h.1⟩
  have hlength : power = -(digits.drop (digits.length + power).toNat).length := by
    rw [List.length_drop]
    omega
  have hmantissa := isMantissa_point ⟨htake, fun c hc => h.2 c (List.mem_of_mem_take hc)⟩
    (fun c hc => h.2 c (List.mem_of_mem_drop hc)) hlength
  rwa [List.take_append_drop] at hmantissa

theorem isMantissa_zeros_before (h : IsDigits digits) (hwhole : digits.length + power ≤ 0) :
    IsMantissa (ofDigits digits * 10 ^ power) (['0', '.'] ++ zeros (-(digits.length + power)) ++ digits) := by
  have hzero : IsDigits ['0'] := ⟨by simp, by simp; rfl⟩
  have hfraction : ∀ c ∈ zeros (-(digits.length + power)) ++ digits, isDigit c :=
    List.forall_mem_append.mpr ⟨fun _ => isDigit_of_mem_zeros, h.2⟩
  have hlength : power = -(zeros (-(digits.length + power)) ++ digits).length := by
    rw [List.length_append, zeros, List.length_replicate]
    omega
  have hmantissa := isMantissa_point hzero hfraction hlength
  have hdigits : ofDigits (['0'] ++ (zeros (-(digits.length + power)) ++ digits)) = ofDigits digits :=
    (ofDigits_zeros_append 1 _).trans (ofDigits_zeros_append _ digits)
  rwa [hdigits] at hmantissa

theorem isMantissa_positional (h : IsDigits digits) (power : Int) :
    IsMantissa (ofDigits digits * 10 ^ power) (positional digits power) := by
  unfold positional
  simp only
  split
  · next hpower => exact isMantissa_zeros_behind h hpower
  · split
    · exact isMantissa_among h (by omega) (by omega)
    · exact isMantissa_zeros_before h (by omega)

theorem isUnsigned_zero : IsUnsigned 0 "0.0".toList := by
  have hzero : IsUnsigned _ (positional ['0'] 0 ++ []) := .intro (isMantissa_positional ⟨by simp, by simp; rfl⟩ 0) .none
  rwa [show ofDigits ['0'] = 0 from rfl, Nat.cast_zero, zero_mul, zero_mul] at hzero

/-! ### Powers of ten -/

/-- One digit stands in front of the point, and there is no point if it is the only one. -/
theorem isMantissa_lead (h : IsDigits digits) : IsMantissa (ofDigits digits * 10 ^ (1 - digits.length : Int))
    (digits.take 1 ++ (if digits.length ≤ 1 then [] else ['.']) ++ digits.drop 1) := by
  obtain ⟨first, rest, rfl⟩ := List.exists_cons_of_ne_nil h.1
  obtain ⟨hfirst, hrest⟩ := List.forall_mem_cons.mp h.2
  cases rest with
  | nil => simpa using IsMantissa.whole h
  | cons second rest =>
    have hlength : 1 - ((first :: second :: rest).length : Int) = -(second :: rest).length := by simp
    have hmantissa := isMantissa_point ⟨List.cons_ne_nil first [], by simpa using hfirst⟩ hrest hlength
    simpa using hmantissa

theorem isUnsigned_scientific (layout : Layout) (h : IsDigits digits) (power : Int) :
    IsUnsigned (ofDigits digits * 10 ^ power) (layout.scientific digits power) := by
  have hlead (lead : Int) :
      IsInteger lead ((if layout.plusSign && 0 ≤ lead then ['+'] else []) ++ digitsOfInt lead) := by
    split
    · next hplus => exact isInteger_plus (by simpa using (Bool.and_eq_true_iff.mp hplus).2)
    · exact isInteger_digitsOfInt lead
  have hunsigned := IsUnsigned.intro (isMantissa_lead h) (.mark (.inl rfl) (hlead (digits.length - 1 + power)))
  have hpower : 1 - (digits.length : Int) + (digits.length - 1 + power) = power := by omega
  rw [mul_assoc, ← zpow_add₀ (by norm_num), hpower] at hunsigned
  simpa [scientific] using hunsigned

theorem isUnsigned_magnitude (layout : Layout) (d : Decimal) : IsUnsigned d.value (layout.magnitude d) := by
  have h := isDigits_digitsOf d.digits
  unfold magnitude Decimal.value
  simp only
  split
  · have hunsigned := IsUnsigned.intro (isMantissa_positional h d.power) .none
    rwa [ofDigits_digitsOf, zpow_zero, mul_one, List.append_nil] at hunsigned
  · have hunsigned := isUnsigned_scientific layout h d.power
    rwa [ofDigits_digitsOf] at hunsigned

theorem mark_mem_magnitude (layout : Layout) (d : Decimal) : '.' ∈ layout.magnitude d ∨ 'e' ∈ layout.magnitude d := by
  unfold magnitude
  simp only
  split
  · refine .inl ?_
    unfold positional
    simp only
    split
    · simp
    · split <;> simp
  · exact .inr (by simp [scientific])

end Layout

/-! ### Written doubles -/

namespace Double

variable {rank : Fin ranks}

theorem isSign_minusSign (negative : Bool) : IsSign negative (minusSign negative) := by
  cases negative
  · exact .none
  · exact .minus

theorem Nearest.isNearest (h : Nearest v rank) : v < 2 ^ 1024 - 2 ^ 970 ∧ IsNearest negative v (.finite negative rank) :=
  ⟨h.lt_ranks_iff.mp rank.isLt, (h.isNearest_iff rank.isLt).mpr (ofRank_of_lt rank.isLt).symm⟩

/-- The shortest form denotes a number whose nearest double is the one that is written. -/
theorem exists_isNumeral_write (layout : Layout) (negative : Bool) (rank : Fin ranks) :
    ∃ v, IsNumeral negative v ((finite negative rank).write layout) ∧ v < 2 ^ 1024 - 2 ^ 970 ∧
      (finite negative rank).IsNearest negative v := by
  rw [write]
  split
  · next hzero =>
    have hnearest : Nearest 0 rank := hzero ▸ nearest_zero (zpow_pos (by norm_num) _)
    exact ⟨0, .intro (isSign_minusSign negative) Layout.isUnsigned_zero, hnearest.isNearest⟩
  · refine ⟨_, .intro (isSign_minusSign negative) (layout.isUnsigned_magnitude _), ?_⟩
    exact (Decimal.nearest_shortest layout.tie rank.isLt).isNearest

theorem not_isInteger_write (layout : Layout) (negative : Bool) (rank : Fin ranks) :
    ¬ IsInteger n ((finite negative rank).write layout) := by
  intro h
  have hmark : '.' ∈ (finite negative rank).write layout ∨ 'e' ∈ (finite negative rank).write layout := by
    rw [write]
    split
    · exact .inl (List.mem_append_right _ (by simp))
    · exact (layout.mark_mem_magnitude _).imp (List.mem_append_right _) (List.mem_append_right _)
  obtain hpoint | hpower := hmark
  · exact absurd (h.digit_or_sign '.' hpoint) (by decide)
  · exact absurd (h.digit_or_sign 'e' hpower) (by decide)

end Double

end

end NowPlaying
