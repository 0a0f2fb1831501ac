import NowPlaying.Duration
import NowPlaying.Proofs.Number.Integer

/-!
# Durations count whole seconds

A duration is cut to whole seconds once. Its fields are the digits of that number in base sixty, each with the sign of the whole, so they come to the same number of seconds again and nothing else of the duration is shown. A minus sign takes one of the two columns of a field; where there is none, two columns are two digits.
-/

namespace NowPlaying.Duration

open Number

/-! ### Whole seconds -/

def wholeSeconds (micros : Int) : Int := micros.tdiv 1000000

theorem tdiv_tdiv (n : Int) (a b : Nat) : (n.tdiv a).tdiv b = n.tdiv (a * b) := by
  have hnat (m : Nat) : ((m : Int).tdiv a).tdiv b = (m : Int).tdiv (a * b) := by
    rw [← Int.natCast_mul, ← Int.ofNat_tdiv, ← Int.ofNat_tdiv, ← Int.ofNat_tdiv, Nat.div_div_eq_div_mul]
  obtain ⟨m, rfl | rfl⟩ := n.eq_nat_or_neg
  · exact hnat m
  · rw [Int.neg_tdiv, Int.neg_tdiv, Int.neg_tdiv, hnat]

section

variable (micros : Int)

theorem seconds_eq : seconds micros = (wholeSeconds micros).tmod 60 := rfl

theorem minutes_eq : minutes micros = ((wholeSeconds micros).tdiv 60).tmod 60 :=
  congrArg (Int.tmod · 60) (tdiv_tdiv micros 1000000 60).symm

theorem hours_eq : hours micros = ((wholeSeconds micros).tdiv 60).tdiv 60 := by
  have hminutes : (wholeSeconds micros).tdiv 60 = micros.tdiv 60000000 := tdiv_tdiv micros 1000000 60
  rw [hminutes]
  exact (tdiv_tdiv micros 60000000 60).symm

/-- Hours, minutes and seconds are what is left at each division by sixty. -/
theorem wholeSeconds_eq : wholeSeconds micros = 3600 * hours micros + 60 * minutes micros + seconds micros := by
  have hseconds := Int.mul_tdiv_add_tmod (wholeSeconds micros) 60
  have hminutes := Int.mul_tdiv_add_tmod ((wholeSeconds micros).tdiv 60) 60
  rw [seconds_eq, minutes_eq, hours_eq]
  omega

theorem hours_eq_zero_iff : hours micros = 0 ↔ (wholeSeconds micros).natAbs < 3600 := by
  have hnatAbs : (hours micros).natAbs = (wholeSeconds micros).natAbs / 60 / 60 := by
    rw [hours_eq, Int.natAbs_tdiv, Int.natAbs_tdiv]
    rfl
  rw [← Int.natAbs_eq_zero, hnatAbs]
  omega

end

/-! ### Fields -/

/-- The numbers that are shown. -/
def values (micros : Int) : List Int :=
  if hours micros ≠ 0 then [hours micros, minutes micros, seconds micros] else [minutes micros, seconds micros]

/-- The texts between the colons. -/
def fields (micros : Int) : List (List Char) :=
  if hours micros ≠ 0 then
    [digitsOfInt (hours micros), twoColumns (minutes micros), twoColumns (seconds micros)]
  else [digitsOfInt (minutes micros), twoColumns (seconds micros)]

/-- The seconds that hours, minutes and seconds come to, or minutes and seconds. -/
def total : List Int → Int
  | [hours, minutes, seconds] => 3600 * hours + 60 * minutes + seconds
  | [minutes, seconds] => 60 * minutes + seconds
  | _ => 0

theorem isInteger_twoColumns (n : Int) : IsInteger n (twoColumns n) := by
  unfold twoColumns
  split
  · next hnegative =>
    have h := IsInteger.intro .minus (isDigits_paddedDigits 1 n.natAbs)
    rwa [signed, ofDigits_paddedDigits, if_pos rfl, show -(n.natAbs : Int) = n by omega] at h
  · next hpositive =>
    have h := IsInteger.intro .none (isDigits_paddedDigits 2 n.natAbs)
    rwa [signed, ofDigits_paddedDigits, if_neg (by simp), show (n.natAbs : Int) = n by omega] at h

/-- Two columns without a minus sign are two digits. -/
theorem twoColumns_of_nonneg {n : Int} (hnonneg : 0 ≤ n) (hlt : n < 60) :
    (twoColumns n).length = 2 ∧ (∀ c ∈ twoColumns n, isDigit c) ∧ ofDigits (twoColumns n) ≤ 59 := by
  rw [twoColumns, if_neg (by omega)]
  refine ⟨length_paddedDigits (by omega) (by omega), fun c => isDigit_of_mem_paddedDigits, ?_⟩
  rw [ofDigits_paddedDigits]
  omega

theorem IsInteger.notMem_colon {n : Int} {s : List Char} (h : IsInteger n s) : ':' ∉ s := by
  intro hmem
  obtain h | h | h := h.digit_or_sign ':' hmem <;> contradiction

section

variable (micros : Int)

theorem write_eq_intercalate : write micros = [':'].intercalate (fields micros) := by
  unfold write fields
  split <;> simp [List.intercalate]

theorem splitOn_write : (write micros).splitOn ':' = fields micros := by
  rw [write_eq_intercalate]
  refine List.splitOn_intercalate ':' ?_ ?_
  · have hdigits (n : Int) := IsInteger.notMem_colon (isInteger_digitsOfInt n)
    have hcolumns (n : Int) := IsInteger.notMem_colon (isInteger_twoColumns n)
    unfold fields
    split <;> simp [hdigits, hcolumns]
  · unfold fields
    split <;> simp

theorem mapM_readInt?_fields : (fields micros).mapM readInt? = some (values micros) := by
  have hdigits (n : Int) : readInt? (digitsOfInt n) = some n := readInt?_eq_some_iff.mpr (isInteger_digitsOfInt n)
  have hcolumns (n : Int) : readInt? (twoColumns n) = some n := readInt?_eq_some_iff.mpr (isInteger_twoColumns n)
  unfold fields values
  split <;> simp [hdigits, hcolumns]

theorem total_values : total (values micros) = wholeSeconds micros := by
  rw [wholeSeconds_eq]
  unfold values
  split
  · rfl
  · next hzero =>
    rw [total]
    omega

theorem length_fields : (fields micros).length = if 3600 ≤ (wholeSeconds micros).natAbs then 3 else 2 := by
  have hhours := hours_eq_zero_iff micros
  unfold fields
  split <;> split <;> first | rfl | omega

theorem write_congr {a b : Int} (h : wholeSeconds a = wholeSeconds b) : write a = write b := by
  unfold write
  simp only [hours_eq, minutes_eq, seconds_eq, h]

/-- Without a minus sign the first field is written as short as it can be, and is less than an hour where it counts minutes; the others are two digits each. -/
theorem fields_of_nonneg (h : 0 ≤ wholeSeconds micros) :
    (∃ first : Nat, (fields micros).head? = some (digitsOf first) ∧ ((fields micros).length = 2 → first ≤ 59)) ∧
      ∀ field ∈ (fields micros).tail, field.length = 2 ∧ (∀ c ∈ field, isDigit c) ∧ ofDigits field ≤ 59 := by
  have hwholeMinutes : 0 ≤ (wholeSeconds micros).tdiv 60 := Int.tdiv_nonneg h (by omega)
  have hhours : 0 ≤ hours micros := hours_eq micros ▸ Int.tdiv_nonneg hwholeMinutes (by omega)
  have hminutes : 0 ≤ minutes micros := minutes_eq micros ▸ Int.tmod_nonneg 60 hwholeMinutes
  have hminutesLt : minutes micros < 60 := minutes_eq micros ▸ Int.tmod_lt_of_pos _ (by omega)
  have hseconds : 0 ≤ seconds micros := seconds_eq micros ▸ Int.tmod_nonneg 60 h
  have hsecondsLt : seconds micros < 60 := seconds_eq micros ▸ Int.tmod_lt_of_pos _ (by omega)
  have htwoMinutes := twoColumns_of_nonneg hminutes hminutesLt
  have htwoSeconds := twoColumns_of_nonneg hseconds hsecondsLt
  unfold fields
  split
  · refine ⟨⟨(hours micros).toNat, ?_, by simp⟩, by simpa using ⟨htwoMinutes, htwoSeconds⟩⟩
    rw [List.head?_cons, digitsOfInt_of_nonneg hhours]
  · refine ⟨⟨(minutes micros).toNat, ?_, by omega⟩, by simpa using htwoSeconds⟩
    rw [List.head?_cons, digitsOfInt_of_nonneg hminutes]

end

/-- The fields of a duration read as numbers that come to its whole seconds, with hours exactly from one hour on. Where there is no minus sign, the fields behind the first are two digits below sixty, and the first has no zero in front and is below sixty if it counts minutes. So two durations look alike exactly when they are the same number of whole seconds. -/
theorem format_faithful :
    (∀ micros : Int64,
      let whole := micros.toInt.tdiv 1000000
      let fields := (format micros).toList.splitOn ':'
      fields.length = (if 3600 ≤ whole.natAbs then 3 else 2) ∧
        (∃ values, fields.mapM readInt? = some values ∧ total values = whole) ∧
        (0 ≤ whole →
          (∀ field ∈ fields.tail, field.length = 2 ∧ (∀ c ∈ field, isDigit c) ∧ ofDigits field ≤ 59) ∧
          ∀ first ∈ fields.head?, IsDigits first ∧ (first.head? = some '0' → first = ['0']) ∧
            (fields.length = 2 → ofDigits first ≤ 59))) ∧
      ∀ a b : Int64, format a = format b ↔ a.toInt.tdiv 1000000 = b.toInt.tdiv 1000000 := by
  have hsplit (micros : Int64) : (format micros).toList.splitOn ':' = fields micros.toInt := by
    rw [format, String.toList_ofList, splitOn_write]
  refine ⟨fun micros => ?_, fun a b => ⟨fun h => ?_, fun h => ?_⟩⟩
  · simp only [hsplit]
    refine ⟨length_fields _, ⟨_, mapM_readInt?_fields _, total_values _⟩, fun hnonneg => ?_⟩
    obtain ⟨⟨first, hfirst, hshort⟩, htail⟩ := fields_of_nonneg _ hnonneg
    refine ⟨htail, fun field hfield => ?_⟩
    obtain rfl : digitsOf first = field := Option.some.inj (hfirst.symm.trans hfield)
    refine ⟨isDigits_digitsOf first, fun hzero => ?_, fun htwo => ?_⟩
    · rw [eq_zero_of_head?_digitsOf hzero]
      rfl
    · rw [ofDigits_digitsOf]
      exact hshort htwo
  · -- The fields of equal texts are equal, and they come to the whole seconds of both.
    have hvalues : values a.toInt = values b.toInt := by
      have hfields := hsplit a
      rw [h, hsplit b] at hfields
      have hread := mapM_readInt?_fields a.toInt
      rw [← hfields, mapM_readInt?_fields] at hread
      exact (Option.some.inj hread).symm
    have htotal := total_values a.toInt
    rw [hvalues, total_values] at htotal
    exact htotal.symm
  · rw [format, format, write_congr h]

example : write (-3661000000) = "-1:-1:-1".toList := by decide

end NowPlaying.Duration
