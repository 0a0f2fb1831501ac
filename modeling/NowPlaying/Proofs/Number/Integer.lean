import NowPlaying.Proofs.Number.Digits

/-!
# Integers in decimal

An integer is written as a sign that may be missing and at least one digit. Reading accepts exactly these texts and gives the number they denote; what is written for a number is one of them.
-/

namespace NowPlaying.Number

/-- At least one digit and nothing else. -/
def IsDigits (s : List Char) : Prop := s ≠ [] ∧ ∀ c ∈ s, isDigit c

/-- A sign that may be missing, and whether it is a minus. -/
inductive IsSign : Bool → List Char → Prop
  | none : IsSign false []
  | plus : IsSign false ['+']
  | minus : IsSign true ['-']

/-- A sign that may be missing and at least one digit, and the number they denote. -/
inductive IsInteger : Int → List Char → Prop
  | intro {negative : Bool} {sign digits : List Char} (hsign : IsSign negative sign) (hdigits : IsDigits digits) :
    IsInteger (signed negative (ofDigits digits)) (sign ++ digits)

theorem ne_sign_of_isDigit {c : Char} (h : isDigit c) : c ≠ '+' ∧ c ≠ '-' := by
  constructor <;> rintro rfl <;> contradiction

theorem isDigits_iff {s : List Char} : IsDigits s ↔ (s.isEmpty || !s.all isDigit) = false := by
  simp [IsDigits]

theorem isDigits_digitsOf (n : Nat) : IsDigits (digitsOf n) := ⟨digitsOf_ne_nil n, fun _ => isDigit_of_mem_digitsOf⟩

theorem isDigits_paddedDigits (width n : Nat) : IsDigits (paddedDigits width n) :=
  ⟨List.append_ne_nil_of_right_ne_nil _ (digitsOf_ne_nil n), fun _ => isDigit_of_mem_paddedDigits⟩

section

variable {negative : Bool} {sign s rest : List Char} {n : Int}

theorem takeSign_append (hsign : IsSign negative sign) (hrest : ∀ c ∈ rest.head?, c ≠ '+' ∧ c ≠ '-') :
    takeSign (sign ++ rest) = (negative, rest) := by
  cases hsign with
  | none =>
    rw [List.nil_append]
    unfold takeSign
    split
    · exact absurd rfl (hrest '-' rfl).2
    · exact absurd rfl (hrest '+' rfl).1
    · rfl
  | plus => rfl
  | minus => rfl

theorem exists_takeSign (s : List Char) :
    ∃ negative sign rest, takeSign s = (negative, rest) ∧ IsSign negative sign ∧ s = sign ++ rest := by
  unfold takeSign
  split
  · exact ⟨true, ['-'], _, rfl, .minus, rfl⟩
  · exact ⟨false, ['+'], _, rfl, .plus, rfl⟩
  · exact ⟨false, [], _, rfl, .none, rfl⟩

theorem IsDigits.head_ne_sign (h : IsDigits s) : ∀ c ∈ s.head?, c ≠ '+' ∧ c ≠ '-' :=
  fun c hc => ne_sign_of_isDigit (h.2 c (List.mem_of_head? hc))

theorem readInt?_eq_some_iff : readInt? s = some n ↔ IsInteger n s := by
  constructor
  · intro h
    obtain ⟨negative, sign, rest, htake, hsign, rfl⟩ := exists_takeSign s
    simp only [readInt?, htake] at h
    split at h
    · contradiction
    · next hdigits =>
      obtain rfl := Option.some.inj h
      exact .intro hsign (isDigits_iff.mpr (Bool.eq_false_iff.mpr hdigits))
  · rintro ⟨hsign, hdigits⟩
    simp only [readInt?, takeSign_append hsign hdigits.head_ne_sign, isDigits_iff.mp hdigits, Bool.false_eq_true, if_false]

theorem IsInteger.unique {m : Int} (h : IsInteger n s) (h' : IsInteger m s) : n = m := by
  rw [← readInt?_eq_some_iff] at h h'
  exact Option.some.inj (h.symm.trans h')

/-- A text with anything but digits and signs is no integer. -/
theorem IsInteger.digit_or_sign (h : IsInteger n s) : ∀ c ∈ s, isDigit c ∨ c = '+' ∨ c = '-' := by
  obtain ⟨hsign, hdigits⟩ := h
  intro c hc
  obtain hc | hc := List.mem_append.mp hc
  · cases hsign <;> simp_all
  · exact .inl (hdigits.2 c hc)

theorem isInteger_digitsOfInt (n : Int) : IsInteger n (digitsOfInt n) := by
  unfold digitsOfInt
  split
  · next hnegative =>
    have h := IsInteger.intro .minus (isDigits_digitsOf n.natAbs)
    rwa [signed, ofDigits_digitsOf, if_pos rfl, show -(n.natAbs : Int) = n by omega] at h
  · next hpositive =>
    have h := IsInteger.intro .none (isDigits_digitsOf n.natAbs)
    rwa [signed, ofDigits_digitsOf, if_neg (by simp), show (n.natAbs : Int) = n by omega] at h

theorem isInteger_plus (h : 0 ≤ n) : IsInteger n ('+' :: digitsOfInt n) := by
  have hplus := IsInteger.intro .plus (isDigits_digitsOf n.toNat)
  rwa [signed, ofDigits_digitsOf, if_neg (by simp), Int.toNat_of_nonneg h, ← digitsOfInt_of_nonneg h] at hplus

/-! ### 64 bits -/

theorem toInt64?_eq_some_iff {m : Int64} : toInt64? n = some m ↔ m.toInt = n := by
  have hleast := Int64.toInt_minValue
  have hgreatest := Int64.toInt_maxValue
  unfold toInt64?
  constructor
  · intro h
    split at h
    · next hrange =>
      obtain rfl := Option.some.inj h
      exact Int64.toInt_ofInt_of_le (by omega) (by omega)
    · contradiction
  · rintro rfl
    have hle := m.le_toInt
    have hlt := m.toInt_lt
    rw [if_pos (by omega), Int64.ofInt_toInt]

theorem readInt64?_eq_some_iff {m : Int64} : readInt64? s = some m ↔ IsInteger m.toInt s := by
  simp only [readInt64?, Option.bind_eq_bind, Option.bind_eq_some_iff, toInt64?_eq_some_iff, readInt?_eq_some_iff]
  exact ⟨fun ⟨_, h, heq⟩ => heq ▸ h, fun h => ⟨_, h, rfl⟩⟩

end

end NowPlaying.Number
