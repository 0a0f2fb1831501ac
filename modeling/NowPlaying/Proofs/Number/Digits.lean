import Mathlib.Algebra.Group.Nat.Defs
import NowPlaying.Number.Digits

/-!
# Decimal digits read back

The digits of a number are digits, denote the number, and begin with a zero for zero alone. Zeros in front of them change nothing but the length, and digits behind digits move them up by a power of ten.
-/

namespace NowPlaying.Number

theorem isDigit_eq_isDigit (c : Char) : isDigit c = c.isDigit := rfl

theorem isDigit_of_mem_digitsOf {n : Nat} {c : Char} (h : c ∈ digitsOf n) : isDigit c := by
  rw [isDigit_eq_isDigit]
  exact Nat.isDigit_of_mem_toDigits (by omega) (by omega) h

theorem digitsOf_ne_nil (n : Nat) : digitsOf n ≠ [] := Nat.toDigits_ne_nil

theorem ofDigits_eq_ofDigitChars (s : List Char) : ofDigits s = Nat.ofDigitChars 10 s 0 := Nat.ofDigitChars_eq_foldl.symm

theorem ofDigits_digitsOf (n : Nat) : ofDigits (digitsOf n) = n := by
  rw [ofDigits_eq_ofDigitChars]
  exact Nat.ofDigitChars_toDigits (by omega) (by omega)

theorem ofDigits_append (s t : List Char) : ofDigits (s ++ t) = 10 ^ t.length * ofDigits s + ofDigits t := by
  simp only [ofDigits_eq_ofDigitChars]
  rw [Nat.ofDigitChars_append, Nat.ofDigitChars_eq_ofDigitChars_zero]

theorem ofDigits_zeros (n : Nat) : ofDigits (List.replicate n '0') = 0 := by
  rw [ofDigits_eq_ofDigitChars, Nat.ofDigitChars_replicate_zero, Nat.mul_zero]

theorem ofDigits_zeros_append (n : Nat) (s : List Char) : ofDigits (List.replicate n '0' ++ s) = ofDigits s := by
  rw [ofDigits_append, ofDigits_zeros, Nat.mul_zero, Nat.zero_add]

theorem lt_pow_length_digitsOf (n : Nat) : n < 10 ^ (digitsOf n).length :=
  (Nat.length_toDigits_le_iff (by omega) Nat.length_toDigits_pos).mp (Nat.le_refl _)

theorem pow_length_digitsOf_le {n : Nat} (h : n ≠ 0) : 10 ^ ((digitsOf n).length - 1) ≤ n := by
  obtain hone | hmore := Nat.lt_or_ge 1 (digitsOf n).length
  · have hlonger : ¬ (digitsOf n).length ≤ (digitsOf n).length - 1 := by omega
    exact Nat.not_lt.mp (mt (Nat.length_toDigits_le_iff (by omega) (by omega)).mpr hlonger)
  · rw [Nat.sub_eq_zero_of_le hmore]
    omega

theorem eq_zero_of_head?_digitsOf {n : Nat} (h : (digitsOf n).head? = some '0') : n = 0 := by
  induction n using Nat.strongRecOn with
  | ind n ih =>
    by_cases hsmall : n < 10
    · have hdigit : ∀ d < 10, Nat.digitChar d = '0' → d = 0 := by decide
      rw [digitsOf, Nat.toDigits_of_lt_base hsmall] at h
      exact hdigit n hsmall (Option.some.inj h)
    · have hfront : digitsOf n = digitsOf (n / 10) ++ [(n % 10).digitChar] :=
        Nat.toDigits_of_base_le (by omega) (by omega)
      have hsame : (digitsOf n).head? = (digitsOf (n / 10)).head? := by
        obtain ⟨first, rest, hdigits⟩ := List.exists_cons_of_ne_nil (digitsOf_ne_nil (n / 10))
        rw [hfront, hdigits]
        rfl
      have hzero := ih (n / 10) (by omega) (hsame ▸ h)
      omega

theorem digitsOfInt_of_nonneg {n : Int} (h : 0 ≤ n) : digitsOfInt n = digitsOf n.toNat := by
  rw [digitsOfInt, if_neg (by omega), show n.natAbs = n.toNat by omega]

/-! ### Zeros in front -/

section

variable {width n : Nat}

theorem isDigit_of_mem_paddedDigits {c : Char} (h : c ∈ paddedDigits width n) : isDigit c := by
  obtain hzero | hdigit := List.mem_append.mp h
  · rw [List.eq_of_mem_replicate hzero]
    rfl
  · exact isDigit_of_mem_digitsOf hdigit

theorem ofDigits_paddedDigits : ofDigits (paddedDigits width n) = n := by
  rw [paddedDigits, ofDigits_zeros_append, ofDigits_digitsOf]

theorem length_paddedDigits (hwidth : 0 < width) (h : n < 10 ^ width) : (paddedDigits width n).length = width := by
  have hle : (digitsOf n).length ≤ width := (Nat.length_toDigits_le_iff (by omega) hwidth).mpr h
  rw [paddedDigits, List.length_append, List.length_replicate]
  omega

end

end NowPlaying.Number
