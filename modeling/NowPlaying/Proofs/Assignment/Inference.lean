import NowPlaying.Assignment
import NowPlaying.Proofs.Number.Numeral

/-!
# The values of texts

A text is given a type by three readers that overlap: one for integers, one for doubles that knows words too, and a look at the characters. Together they follow one grammar. Integers of 64 bits are integers, all other numerals that are rounded to a finite double are that double, and every other text stands for itself. The look at the characters changes nothing, as the words that it keeps out are never finite.
-/

namespace NowPlaying

open Number

/-- An integer that fits into 64 bits with its sign. -/
def IsInteger64 (s : List Char) : Prop := ∃ n, IsInteger n s ∧ -2 ^ 63 ≤ n ∧ n < 2 ^ 63

section

variable {raw t : String} {s : List Char} {value : Value} {n : Int64} {d : Double} {negative : Bool} {v : ℚ}

theorem isInteger64_iff : IsInteger64 s ↔ ∃ n : Int64, IsInteger n.toInt s := by
  constructor
  · rintro ⟨n, hn, hlow, hhigh⟩
    refine ⟨Int64.ofInt n, ?_⟩
    rwa [Int64.toInt_ofInt_of_le hlow (by omega)]
  · rintro ⟨n, hn⟩
    exact ⟨n.toInt, hn, n.le_toInt, n.toInt_lt⟩

theorem readInt64?_eq_none_iff : readInt64? s = none ↔ ¬ IsInteger64 s := by
  rw [isInteger64_iff, Option.eq_none_iff_forall_ne_some]
  simp only [ne_eq, readInt64?_eq_some_iff, not_exists]

/-- An integer of 64 bits is far below the bound of finite doubles. -/
theorem IsInteger64.exists_isNumeral (h : IsInteger64 s) : ∃ negative v, IsNumeral negative v s ∧ v < 2 ^ 1024 - 2 ^ 970 := by
  obtain ⟨n, hn, hlow, hhigh⟩ := h
  obtain ⟨negative, hnumeral, -⟩ := hn.exists_isNumeral
  refine ⟨negative, _, hnumeral, ?_⟩
  have hbound : 2 ^ 63 + 2 ^ 970 < 2 ^ 1024 := by decide +kernel
  have hbound : (2 : ℚ) ^ 63 + 2 ^ 970 < 2 ^ 1024 := by exact_mod_cast hbound
  have hle : |(n : ℚ)| ≤ 2 ^ 63 := by
    rw [abs_le]
    exact_mod_cast And.intro hlow hhigh.le
  exact hle.trans_lt (lt_sub_iff_add_lt.mpr hbound)

/-- The words that are read as doubles, in any mixture of cases. -/
def IsWord (s : List Char) : Prop := s.map Char.toLower ∈ ["inf".toList, "infinity".toList, "nan".toList]

/-! ### The look at the characters -/

theorem isNumeralChar_of_isDigit {c : Char} (h : isDigit c) : isNumeralChar c := by
  rw [isNumeralChar, h]
  rfl

theorem isNumeralChar_of_isSign (h : IsSign negative s) : ∀ c ∈ s, isNumeralChar c := by
  cases h <;> simp [isNumeralChar]

theorem isNumeralChar_of_isPower {power : Int} (h : IsPower power s) : ∀ c ∈ s, isNumeralChar c := by
  cases h with
  | none => simp
  | mark hmark hpower =>
    intro c hc
    obtain rfl | hc := List.mem_cons.mp hc
    · obtain rfl | rfl := hmark <;> rfl
    · obtain hdigit | rfl | rfl := hpower.digit_or_sign c hc
      · exact isNumeralChar_of_isDigit hdigit
      · rfl
      · rfl

theorem looksNumeric_of_isDigits (h : IsDigits s) : looksNumeric s := by
  obtain ⟨c, hc⟩ := List.exists_mem_of_ne_nil s h.1
  rw [looksNumeric, Bool.and_eq_true, List.any_eq_true, List.all_eq_true]
  exact ⟨⟨c, hc, h.2 c hc⟩, fun c hc => isNumeralChar_of_isDigit (h.2 c hc)⟩

theorem looksNumeric_between {before behind : List Char} (hs : looksNumeric s) (hbefore : ∀ c ∈ before, isNumeralChar c)
    (hbehind : ∀ c ∈ behind, isNumeralChar c) : looksNumeric (before ++ (s ++ behind)) := by
  rw [looksNumeric, Bool.and_eq_true] at *
  simp only [List.any_append, List.all_append, hs, List.all_eq_true.mpr hbefore, List.all_eq_true.mpr hbehind, Bool.or_true,
    Bool.true_or, Bool.true_and, and_self]

theorem looksNumeric_of_isMantissa (h : IsMantissa v s) : looksNumeric s := by
  cases h with
  | whole hwhole => exact looksNumeric_of_isDigits hwhole
  | @point whole fraction hwhole hfraction =>
    show looksNumeric ([] ++ (whole ++ '.' :: fraction))
    refine looksNumeric_between (looksNumeric_of_isDigits hwhole) (by simp) fun c hc => ?_
    obtain rfl | hc := List.mem_cons.mp hc
    · rfl
    · exact isNumeralChar_of_isDigit (hfraction c hc)
  | @fraction fraction hfraction =>
    rw [← List.append_nil fraction]
    show looksNumeric (['.'] ++ (fraction ++ []))
    exact looksNumeric_between (looksNumeric_of_isDigits hfraction) (by simp; rfl) (by simp)

theorem looksNumeric_of_isNumeral (h : IsNumeral negative v s) : looksNumeric s := by
  obtain ⟨hsign, hmantissa, hpower⟩ := h
  exact looksNumeric_between (looksNumeric_of_isMantissa hmantissa) (isNumeralChar_of_isSign hsign)
    (isNumeralChar_of_isPower hpower)

theorem toLower_ne_of_isNumeralChar {c : Char} (h : isNumeralChar c) : c.toLower ≠ 'n' := by
  rw [isNumeralChar, Bool.or_eq_true, List.contains_iff_mem] at h
  obtain hdigit | hother := h
  · have hrange : '0' ≤ c ∧ c ≤ '9' := by simpa [isDigit] using hdigit
    have hupper : ¬ 'A' ≤ c := fun hle => absurd (Char.le_trans hle hrange.2) (by decide)
    have hlower : c.toLower = c := dif_neg fun hc => hupper hc.1
    rw [hlower]
    rintro rfl
    exact absurd hrange.2 (by decide)
  · have hall : ['.', '-', '+', 'e', 'E'].all (fun c => c.toLower != 'n') := by decide
    exact bne_iff_ne.mp (List.all_eq_true.mp hall c hother)

/-- Every word has the letter `n`, and no numeral has it. -/
theorem not_looksNumeric_of_isWord {sign word : List Char} (hword : IsWord word) : ¬ looksNumeric (sign ++ word) := by
  intro hlooks
  have hmem : 'n' ∈ word.map Char.toLower := by
    simp only [IsWord, List.mem_cons, List.not_mem_nil, or_false] at hword
    obtain h | h | h := hword <;> rw [h] <;> decide
  obtain ⟨c, hc, heq⟩ := List.mem_map.mp hmem
  rw [looksNumeric, Bool.and_eq_true, List.all_eq_true] at hlooks
  exact toLower_ne_of_isNumeralChar (hlooks.2 c (List.mem_append_right _ hc)) heq

/-! ### The three types -/

namespace Value

/-- What a text stands for by the grammar. -/
inductive Denotes (raw : String) : Value → Prop
  | integer {n : Int64} (hn : IsInteger n.toInt raw.toList) : Denotes raw (.integer n)
  | float {d : Double} {negative : Bool} {v : ℚ} (hinteger : ¬ IsInteger64 raw.toList)
    (hnumeral : IsNumeral negative v raw.toList) (hlt : v < 2 ^ 1024 - 2 ^ 970) (hnearest : d.IsNearest negative v) :
    Denotes raw (.float d)
  | text (hinteger : ¬ IsInteger64 raw.toList)
    (hlarge : ∀ negative v, IsNumeral negative v raw.toList → 2 ^ 1024 - 2 ^ 970 ≤ v) : Denotes raw (.text raw)

/-- The three kinds of texts leave none out. -/
theorem exists_denotes (raw : String) : ∃ value, Denotes raw value := by
  by_cases hinteger : IsInteger64 raw.toList
  · obtain ⟨n, hn⟩ := isInteger64_iff.mp hinteger
    exact ⟨_, .integer hn⟩
  · by_cases hnumeral : ∃ negative v, IsNumeral negative v raw.toList ∧ v < 2 ^ 1024 - 2 ^ 970
    · obtain ⟨negative, v, hnumeral, hlt⟩ := hnumeral
      obtain ⟨d, hnearest⟩ := hnumeral.exists_isNearest hlt
      exact ⟨_, .float hinteger hnumeral hlt hnearest⟩
    · exact ⟨_, .text hinteger fun negative v h => not_lt.mp fun hlt => hnumeral ⟨negative, v, h, hlt⟩⟩

theorem infer_of_denotes (h : Denotes raw value) : infer raw = value := by
  cases h with
  | integer hn => rw [infer, readInt64?_eq_some_iff.mpr hn]
  | @float d negative v hinteger hnumeral hlt hnearest =>
    obtain ⟨hread, hfinite⟩ := read?_finite_iff.mpr ⟨negative, v, hnumeral, hlt, hnearest⟩
    rw [infer, readInt64?_eq_none_iff.mpr hinteger, hread]
    simp only [looksNumeric_of_isNumeral hnumeral, hfinite, Bool.and_self, if_true]
  | text hinteger hlarge =>
    rw [infer, readInt64?_eq_none_iff.mpr hinteger]
    cases hread : Double.read? raw.toList with
    | none => rfl
    | some d =>
      have hfinite : ¬ d.isFinite := fun hfinite => by
        obtain ⟨negative, v, hnumeral, hlt, -⟩ := read?_finite_iff.mp ⟨hread, hfinite⟩
        exact absurd hlt (not_lt.mpr (hlarge negative v hnumeral))
      simp only [hfinite, Bool.and_false, Bool.false_eq_true, if_false]

theorem infer_eq_iff : infer raw = value ↔ Denotes raw value := by
  refine ⟨?_, infer_of_denotes⟩
  rintro rfl
  obtain ⟨value, hvalue⟩ := exists_denotes raw
  rwa [infer_of_denotes hvalue]

theorem infer_eq_integer_iff : infer raw = .integer n ↔ IsInteger n.toInt raw.toList := by
  rw [infer_eq_iff]
  constructor
  · rintro ⟨hn⟩
    exact hn
  · exact .integer

theorem infer_eq_float_iff : infer raw = .float d ↔ ¬ IsInteger64 raw.toList ∧
    ∃ negative v, IsNumeral negative v raw.toList ∧ v < 2 ^ 1024 - 2 ^ 970 ∧ d.IsNearest negative v := by
  rw [infer_eq_iff]
  constructor
  · rintro (_ | ⟨hinteger, hnumeral, hlt, hnearest⟩)
    exact ⟨hinteger, _, _, hnumeral, hlt, hnearest⟩
  · rintro ⟨hinteger, negative, v, hnumeral, hlt, hnearest⟩
    exact .float hinteger hnumeral hlt hnearest

theorem exists_infer_eq_float_iff : (∃ d, infer raw = .float d) ↔
    ¬ IsInteger64 raw.toList ∧ ∃ negative v, IsNumeral negative v raw.toList ∧ v < 2 ^ 1024 - 2 ^ 970 := by
  constructor
  · rintro ⟨d, h⟩
    obtain ⟨hinteger, negative, v, hnumeral, hlt, -⟩ := infer_eq_float_iff.mp h
    exact ⟨hinteger, negative, v, hnumeral, hlt⟩
  · rintro ⟨hinteger, negative, v, hnumeral, hlt⟩
    obtain ⟨d, hnearest⟩ := hnumeral.exists_isNearest hlt
    exact ⟨d, infer_of_denotes (.float hinteger hnumeral hlt hnearest)⟩

theorem infer_eq_text_iff : infer raw = .text t ↔
    t = raw ∧ ¬ IsInteger64 raw.toList ∧ ∀ negative v, IsNumeral negative v raw.toList → 2 ^ 1024 - 2 ^ 970 ≤ v := by
  rw [infer_eq_iff]
  constructor
  · rintro (_ | _ | ⟨hinteger, hlarge⟩)
    exact ⟨rfl, hinteger, hlarge⟩
  · rintro ⟨rfl, hinteger, hlarge⟩
    exact .text hinteger hlarge

/-! ### At the limits -/

theorem infer_of_long_integer {n : Int} (hn : IsInteger n raw.toList) (hlong : n < -2 ^ 63 ∨ 2 ^ 63 ≤ n)
    (hlt : |(n : ℚ)| < 2 ^ 1024 - 2 ^ 970) : ∃ d, infer raw = .float d ∧ d.IsNearest (n < 0) |(n : ℚ)| := by
  have hinteger : ¬ IsInteger64 raw.toList := by
    rintro ⟨m, hm, hlow, hhigh⟩
    obtain rfl := hm.unique hn
    omega
  obtain ⟨negative, hnumeral, hsign⟩ := hn.exists_isNumeral
  obtain rfl := hsign (by omega)
  obtain ⟨d, hnearest⟩ := hnumeral.exists_isNearest hlt
  exact ⟨d, infer_of_denotes (.float hinteger hnumeral hlt hnearest), hnearest⟩

theorem infer_of_overflow (hnumeral : IsNumeral negative v raw.toList) (hle : 2 ^ 1024 - 2 ^ 970 ≤ v) :
    infer raw = .text raw := by
  refine infer_of_denotes (.text (fun hinteger => ?_) fun negative' v' hnumeral' => ?_)
  · obtain ⟨negative', v', hnumeral', hlt⟩ := hinteger.exists_isNumeral
    obtain ⟨-, rfl⟩ := hnumeral.unique hnumeral'
    exact absurd hlt (not_lt.mpr hle)
  · obtain ⟨-, rfl⟩ := hnumeral.unique hnumeral'
    exact hle

/-- A text that does not look like a number stands for itself. -/
theorem infer_of_not_looksNumeric (h : ¬ looksNumeric raw.toList) : infer raw = .text raw := by
  have hnone (negative v) : ¬ IsNumeral negative v raw.toList := fun hnumeral => h (looksNumeric_of_isNumeral hnumeral)
  refine infer_of_denotes (.text (fun hinteger => ?_) fun negative v hnumeral => absurd hnumeral (hnone negative v))
  obtain ⟨negative, v, hnumeral, -⟩ := hinteger.exists_isNumeral
  exact hnone negative v hnumeral

end Value

/-- The three types of a text and the grammar behind them. Integers of 64 bits are integers. Other numerals are the nearest double, ties going to the even mantissa, if their exact number is below the bound at which doubles end; this includes longer integers. All other texts stand for themselves: numerals beyond the bound, the words for infinity and for not-a-number, and everything else. Looking at the characters excludes no text that is read as a finite double. -/
theorem infer_types_numerals (raw : String) :
    (∀ n : Int64, Value.infer raw = .integer n ↔ IsInteger n.toInt raw.toList) ∧
    ((∃ d, Value.infer raw = .float d) ↔
      ¬ IsInteger64 raw.toList ∧ ∃ negative v, IsNumeral negative v raw.toList ∧ v < 2 ^ 1024 - 2 ^ 970) ∧
    (∀ d : Double, Value.infer raw = .float d ↔ ¬ IsInteger64 raw.toList ∧
      ∃ negative v, IsNumeral negative v raw.toList ∧ v < 2 ^ 1024 - 2 ^ 970 ∧ d.IsNearest negative v) ∧
    (∀ t : String, Value.infer raw = .text t ↔ t = raw ∧ ¬ IsInteger64 raw.toList ∧
      ∀ negative v, IsNumeral negative v raw.toList → 2 ^ 1024 - 2 ^ 970 ≤ v) ∧
    (∀ n : Int, IsInteger n raw.toList → n < -2 ^ 63 ∨ 2 ^ 63 ≤ n → |(n : ℚ)| < 2 ^ 1024 - 2 ^ 970 →
      ∃ d : Double, Value.infer raw = .float d ∧ d.IsNearest (n < 0) |(n : ℚ)|) ∧
    (∀ negative v, IsNumeral negative v raw.toList → 2 ^ 1024 - 2 ^ 970 ≤ v → Value.infer raw = .text raw) ∧
    (∀ negative sign word, IsSign negative sign → IsWord word → raw.toList = sign ++ word → Value.infer raw = .text raw) ∧
    ∀ d : Double, Double.read? raw.toList = some d → d.isFinite → looksNumeric raw.toList := by
  refine ⟨fun n => Value.infer_eq_integer_iff, Value.exists_infer_eq_float_iff, fun d => Value.infer_eq_float_iff,
    fun t => Value.infer_eq_text_iff, ?_, ?_, ?_, ?_⟩
  · intro n hn hlong hlt
    exact Value.infer_of_long_integer hn hlong hlt
  · intro negative v hnumeral hle
    exact Value.infer_of_overflow hnumeral hle
  · intro negative sign word _ hword hraw
    exact Value.infer_of_not_looksNumeric (hraw ▸ not_looksNumeric_of_isWord hword)
  · intro d hread hfinite
    obtain ⟨negative, v, hnumeral, -⟩ := read?_finite_iff.mp ⟨hread, hfinite⟩
    exact looksNumeric_of_isNumeral hnumeral

end

end NowPlaying
