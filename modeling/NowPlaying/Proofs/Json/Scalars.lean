import Mathlib.Data.List.Basic
import NowPlaying.Json.Reader
import NowPlaying.Proofs.Number.Integer
import NowPlaying.Proofs.Text.Span

/-!
# Texts, numbers and words of JSON

The scalars of JSON by their grammar: a text stands in quotes and is spelled by units, a number has no zero in front of other digits, and a plus sign only in its power. A scalar is read at the front of whatever cannot go on with a number, and what is read is a scalar.
-/

namespace NowPlaying.Json

open Number

/-! ### Texts -/

/-- The units of a text as they are spelled between its quotes. -/
inductive Spells : List TextUnit → List Char → Prop
  | nil : Spells [] []
  | plain {c : Char} {units : List TextUnit} {s : List Char} (hcode : 0x20 ≤ c.toNat) (hquote : c ≠ '"') (hescape : c ≠ '\\')
      (hrest : Spells units s) : Spells (.char c :: units) (c :: s)
  | escape {c d : Char} {units : List TextUnit} {s : List Char} (hc : escape? c = some d) (hrest : Spells units s) :
      Spells (.char d :: units) ('\\' :: c :: s)
  | code {a b c d : Char} {unit : Nat} {units : List TextUnit} {s : List Char} (hunit : hexValue? [a, b, c, d] = some unit)
      (hrest : Spells units s) : Spells (.code unit :: units) ('\\' :: 'u' :: a :: b :: c :: d :: s)

/-- A text in its quotes, by units that make up its characters. -/
inductive IsText : String → List Char → Prop
  | intro {value : String} {units : List TextUnit} {s : List Char} (hspells : Spells units s)
      (hunits : joinUnits? units = some value.toList) : IsText value ('"' :: s ++ ['"'])

section

variable {s rest : List Char} {units : List TextUnit} {value : String}

theorem exists_spells (h : readUnits? s = some (units, rest)) : ∃ front, s = front ++ '"' :: rest ∧ Spells units front := by
  induction s using readUnits?.induct generalizing units rest with
  | case1 => contradiction
  | case2 tail =>
    rw [readUnits?] at h
    obtain ⟨rfl, rfl⟩ := Prod.mk.inj (Option.some.inj h)
    exact ⟨[], rfl, .nil⟩
  | case3 a b c d tail ih =>
    simp only [readUnits?, Option.bind_eq_bind, Option.bind_eq_some_iff, Option.some.injEq, Prod.mk.injEq] at h
    obtain ⟨unit, hunit, ⟨more, behind⟩, hmore, rfl, rfl⟩ := h
    obtain ⟨front, rfl, hfront⟩ := ih hmore
    exact ⟨'\\' :: 'u' :: a :: b :: c :: d :: front, rfl, .code hunit hfront⟩
  | case4 c tail hunit ih =>
    rw [readUnits?] at h
    · simp only [Option.bind_eq_bind, Option.bind_eq_some_iff, Option.some.injEq, Prod.mk.injEq] at h
      obtain ⟨d, hd, ⟨more, behind⟩, hmore, rfl, rfl⟩ := h
      obtain ⟨front, rfl, hfront⟩ := ih hmore
      exact ⟨'\\' :: c :: front, rfl, .escape hd hfront⟩
    · exact hunit
  -- In the last two cases the hypotheses on `c` say that no earlier equation of the reader applies.
  | case5 c tail hquote hunit hescape hrefused =>
    rw [readUnits?, if_pos hrefused] at h
    · contradiction
    · exact hquote
    · exact hunit
    · exact hescape
  | case6 c tail hquote hunit hescape hplain ih =>
    rw [readUnits?, if_neg hplain] at h
    · simp only [Option.bind_eq_bind, Option.bind_eq_some_iff, Option.some.injEq, Prod.mk.injEq] at h
      obtain ⟨⟨more, behind⟩, hmore, rfl, rfl⟩ := h
      obtain ⟨front, rfl, hfront⟩ := ih hmore
      simp only [Bool.or_eq_true, decide_eq_true_eq, not_or, Nat.not_lt] at hplain
      exact ⟨c :: front, rfl, .plain hplain.1 hquote hplain.2 hfront⟩
    · exact hquote
    · exact hunit
    · exact hescape

theorem Spells.readUnits?_eq (h : Spells units s) (rest : List Char) : readUnits? (s ++ '"' :: rest) = some (units, rest) := by
  induction h with
  | nil => rw [List.nil_append, readUnits?]
  | @plain c units s hcode hquote hescape hrest ih =>
    have hplain : ¬ (decide (c.toNat < 0x20) || decide (c = '\\')) = true := by simp [hescape, hcode]
    rw [List.cons_append, readUnits?, if_neg hplain, ih]
    · rfl
    · exact hquote
    · exact fun _ _ _ _ _ heq _ => hescape heq
    · exact fun _ _ heq _ => hescape heq
  | @escape c d units s hc hrest ih =>
    have hne : c ≠ 'u' := by
      rintro rfl
      contradiction
    rw [List.cons_append, List.cons_append, readUnits?, hc, ih]
    · rfl
    · exact fun _ _ _ _ _ heq _ => hne heq
  | @code a b c d unit units s hunit hrest ih =>
    simp only [List.cons_append, readUnits?, hunit, ih]
    rfl

theorem readText?_eq_some_iff :
    readText? s = some (value, rest) ↔
      ∃ units front, s = front ++ '"' :: rest ∧ Spells units front ∧ joinUnits? units = some value.toList := by
  simp only [readText?, Option.bind_eq_bind, Option.bind_eq_some_iff, Option.some.injEq, Prod.mk.injEq]
  constructor
  · rintro ⟨⟨units, behind⟩, hunits, chars, hchars, rfl, rfl⟩
    obtain ⟨front, rfl, hspells⟩ := exists_spells hunits
    exact ⟨units, front, rfl, hspells, hchars.trans (by rw [String.toList_ofList])⟩
  · rintro ⟨units, front, rfl, hspells, hchars⟩
    exact ⟨(units, rest), hspells.readUnits?_eq rest, value.toList, hchars, String.ofList_toList, rfl⟩

end

/-! ### Numbers -/

/-- Digits without a zero in front of others. -/
def IsWhole (s : List Char) : Prop := IsDigits s ∧ (s.head? = some '0' → s = ['0'])

/-- The digits behind a point, if there is a point. -/
inductive IsFraction : List Char → List Char → Prop
  | none : IsFraction [] []
  | point {digits : List Char} (hdigits : IsDigits digits) : IsFraction digits ('.' :: digits)

/-- The power of ten at the end of a number: nothing for none, or `e` or `E`, a sign that may be missing, and digits. -/
inductive IsPower : Option (Bool × List Char) → List Char → Prop
  | none : IsPower none []
  | mark {c : Char} {negative : Bool} {sign digits : List Char} (hmark : c = 'e' ∨ c = 'E') (hsign : IsSign negative sign)
      (hdigits : IsDigits digits) : IsPower (some (negative, digits)) (c :: sign ++ digits)

/-- A number by its parts. A plus sign stands in front of a power only. -/
inductive IsNumber : NumberText → List Char → Prop
  | intro {negative : Bool} {whole digits fraction : List Char} {power : Option (Bool × List Char)} {mark : List Char}
      (hwhole : IsWhole whole) (hfraction : IsFraction digits fraction) (hpower : IsPower power mark) :
      IsNumber ⟨negative, whole, digits, power⟩ (Double.minusSign negative ++ whole ++ fraction ++ mark)

/-- What may follow a number: nothing that could go on with it. -/
def Ends (rest : List Char) : Prop := ∀ c ∈ rest.head?, isDigit c = false ∧ c ≠ '.' ∧ c ≠ 'e' ∧ c ≠ 'E'

section

variable {s rest whole digits fraction mark : List Char} {power : Option (Bool × List Char)} {n : NumberText} {json : Json}

theorem takeMinus_eq (s : List Char) : s = Double.minusSign (takeMinus s).1 ++ (takeMinus s).2 := by
  unfold takeMinus
  split <;> rfl

theorem takeMinus_minusSign_append (negative : Bool) (hs : ∀ c ∈ s.head?, c ≠ '-') :
    takeMinus (Double.minusSign negative ++ s) = (negative, s) := by
  cases negative with
  | true => rfl
  | false =>
    change takeMinus s = _
    unfold takeMinus
    split
    · exact absurd rfl (hs '-' rfl)
    · rfl

theorem takeDigits_of_isDigits (h : IsDigits digits) (hrest : ∀ c ∈ rest.head?, isDigit c = false) :
    takeDigits (digits ++ rest) = (digits, rest) := span_append h.2 hrest

theorem takeDigits_spec (s : List Char) :
    s = (takeDigits s).1 ++ (takeDigits s).2 ∧ (∀ c ∈ (takeDigits s).1, isDigit c) ∧
      ∀ c ∈ (takeDigits s).2.head?, isDigit c = false := span_eq_iff.mp rfl

theorem takeWhole?_eq_some_iff :
    takeWhole? s = some (whole, rest) ↔ s = whole ++ rest ∧ IsWhole whole ∧ ∀ c ∈ rest.head?, isDigit c = false := by
  unfold takeWhole?
  constructor
  · intro h
    obtain ⟨hs, hdigits, hrest⟩ := takeDigits_spec s
    generalize takeDigits s = taken at h hs hdigits hrest
    split at h
    · contradiction
    · obtain ⟨rfl, rfl⟩ := Prod.mk.inj (Option.some.inj h)
      exact ⟨hs, ⟨⟨List.cons_ne_nil _ _, hdigits⟩, fun _ => rfl⟩, hrest⟩
    · contradiction
    · next found behind hnil hone hzero =>
      obtain ⟨rfl, rfl⟩ := Prod.mk.inj (Option.some.inj h)
      refine ⟨hs, ⟨⟨hnil, hdigits⟩, fun hhead => ?_⟩, hrest⟩
      obtain ⟨tail, htail⟩ := List.head?_eq_some_iff.mp hhead
      exact absurd htail (hzero tail)
  · rintro ⟨rfl, ⟨hdigits, hzero⟩, hrest⟩
    rw [takeDigits_of_isDigits hdigits hrest]
    split
    · next heq => exact absurd (Prod.mk.inj heq).1 hdigits.1
    · next heq => rw [heq]
    · next tail behind hone heq =>
      obtain ⟨rfl, rfl⟩ := Prod.mk.inj heq
      exact absurd (List.cons.inj (hzero rfl)).2 hone
    · next heq => rw [heq]

theorem exists_isFraction (h : takeFraction? s = some (digits, rest)) :
    ∃ front, s = front ++ rest ∧ IsFraction digits front := by
  unfold takeFraction? at h
  split at h
  · next tail =>
    obtain ⟨htail, hdigits, -⟩ := takeDigits_spec tail
    generalize takeDigits tail = taken at h htail hdigits
    split at h
    · contradiction
    · next hnil =>
      obtain rfl := Option.some.inj h
      exact ⟨'.' :: digits, congrArg _ htail, .point ⟨fun heq => hnil _ (by rw [heq]), hdigits⟩⟩
  · obtain ⟨rfl, rfl⟩ := Prod.mk.inj (Option.some.inj h)
    exact ⟨[], rfl, .none⟩

theorem IsFraction.takeFraction?_eq (h : IsFraction digits fraction)
    (hrest : ∀ c ∈ rest.head?, isDigit c = false ∧ c ≠ '.') : takeFraction? (fraction ++ rest) = some (digits, rest) := by
  cases h with
  | none =>
    rw [List.nil_append]
    unfold takeFraction?
    split
    · exact absurd rfl (hrest '.' rfl).2
    · rfl
  | point hdigits =>
    rw [List.cons_append, takeFraction?, takeDigits_of_isDigits hdigits fun c hc => (hrest c hc).1]
    split
    · next heq => exact absurd (Prod.mk.inj heq).1 hdigits.1
    · rfl

theorem exists_isPower (h : takePower? s = some (power, rest)) : ∃ front, s = front ++ rest ∧ IsPower power front := by
  unfold takePower? at h
  split at h
  · next c tail =>
    split at h
    · next hmark =>
      obtain ⟨negative, sign, behind, htake, hsign, rfl⟩ := exists_takeSign tail
      simp only [htake] at h
      obtain ⟨hbehind, hdigits, -⟩ := takeDigits_spec behind
      generalize takeDigits behind = taken at h hbehind hdigits
      split at h
      · contradiction
      · next found last hnil =>
        obtain ⟨rfl, rfl⟩ := Prod.mk.inj (Option.some.inj h)
        refine ⟨c :: sign ++ found, ?_, .mark hmark hsign ⟨hnil, hdigits⟩⟩
        rw [hbehind, List.cons_append, List.cons_append, List.append_assoc]
    · obtain ⟨rfl, rfl⟩ := Prod.mk.inj (Option.some.inj h)
      exact ⟨[], rfl, .none⟩
  · obtain ⟨rfl, rfl⟩ := Prod.mk.inj (Option.some.inj h)
    exact ⟨[], rfl, .none⟩

theorem IsPower.takePower?_eq (h : IsPower power mark) (hrest : Ends rest) : takePower? (mark ++ rest) = some (power, rest) := by
  cases h with
  | none =>
    rw [List.nil_append]
    unfold takePower?
    split
    · next c tail =>
      have hc := (hrest c rfl).2.2
      rw [if_neg (not_or.mpr hc)]
    · rfl
  | @mark c negative sign digits hmark hsign hdigits =>
    have hsigned : ∀ c ∈ (digits ++ rest).head?, c ≠ '+' ∧ c ≠ '-' := by
      rw [List.head?_append_of_ne_nil _ hdigits.1]
      exact hdigits.head_ne_sign
    have htaken := takeDigits_of_isDigits hdigits fun c hc => (hrest c hc).1
    simp only [List.cons_append, List.append_assoc, takePower?, if_pos hmark, takeSign_append hsign hsigned, htaken]
    split
    · next heq => exact absurd (Prod.mk.inj heq).1 hdigits.1
    · next heq => rw [(Prod.mk.inj heq).1, (Prod.mk.inj heq).2]

theorem IsWhole.head_append (h : IsWhole whole) (rest : List Char) : ∀ c ∈ (whole ++ rest).head?, isDigit c := by
  rw [List.head?_append_of_ne_nil _ h.1.1]
  exact fun c hc => h.1.2 c (List.mem_of_head? hc)

theorem IsFraction.head_append (h : IsFraction digits fraction) (hrest : ∀ c ∈ rest.head?, isDigit c = false ∧ c ≠ '.') :
    ∀ c ∈ (fraction ++ rest).head?, isDigit c = false := by
  cases h with
  | none => exact fun c hc => (hrest c hc).1
  | point hdigits =>
    rintro c hc
    obtain rfl := Option.some.inj hc
    rfl

theorem IsPower.head_append (h : IsPower power mark) (hrest : Ends rest) :
    ∀ c ∈ (mark ++ rest).head?, isDigit c = false ∧ c ≠ '.' := by
  cases h with
  | none => exact fun c hc => ⟨(hrest c hc).1, (hrest c hc).2.1⟩
  | mark hmark hsign hdigits =>
    rintro c hc
    obtain rfl := Option.some.inj hc
    obtain rfl | rfl := hmark <;> exact ⟨rfl, by decide⟩

theorem exists_isNumber (h : readNumber? s = some (json, rest)) :
    ∃ n front, s = front ++ rest ∧ IsNumber n front ∧ n.toJson? = some json := by
  simp only [readNumber?, Option.bind_eq_bind, Option.bind_eq_some_iff, Option.some.injEq, Prod.mk.injEq] at h
  obtain ⟨⟨whole, behindWhole⟩, hwhole, ⟨digits, behindDigits⟩, hdigits, ⟨power, behind⟩, hpower, json, hjson, rfl, rfl⟩ := h
  obtain ⟨hminus, hiswhole, -⟩ := takeWhole?_eq_some_iff.mp hwhole
  obtain ⟨fraction, rfl, hfraction⟩ := exists_isFraction hdigits
  obtain ⟨mark, rfl, hmark⟩ := exists_isPower hpower
  refine ⟨_, _, ?_, .intro hiswhole hfraction hmark, hjson⟩
  simp only [List.append_assoc]
  rw [← hminus]
  exact takeMinus_eq s

theorem IsNumber.readNumber?_eq (h : IsNumber n s) (hjson : n.toJson? = some json) (hrest : Ends rest) :
    readNumber? (s ++ rest) = some (json, rest) := by
  obtain ⟨hwhole, hfraction, hpower⟩ := h
  next negative whole digits fraction power mark =>
  have hminus := takeMinus_minusSign_append (s := whole ++ (fraction ++ (mark ++ rest))) negative fun c hc heq =>
    absurd (hwhole.head_append _ c hc) (heq ▸ by decide)
  have htake := takeWhole?_eq_some_iff.mpr ⟨rfl, hwhole, hfraction.head_append (hpower.head_append hrest)⟩
  simp only [List.append_assoc, readNumber?, hminus, htake, hfraction.takeFraction?_eq (hpower.head_append hrest),
    hpower.takePower?_eq hrest, hjson, Option.bind_eq_bind, Option.bind_some]

end

/-! ### Scalars -/

inductive IsWord : Json → List Char → Prop
  | null : IsWord .null "null".toList
  | yes : IsWord (.bool true) "true".toList
  | no : IsWord (.bool false) "false".toList

/-- A value that holds no others. -/
inductive IsScalar : Json → List Char → Prop
  | word {json : Json} {s : List Char} (h : IsWord json s) : IsScalar json s
  | text {value : String} {s : List Char} (h : IsText value s) : IsScalar (.text value) s
  | number {n : NumberText} {json : Json} {s : List Char} (h : IsNumber n s) (hjson : n.toJson? = some json) : IsScalar json s

section

variable {s rest word : List Char} {json : Json}

theorem behind?_eq_some_iff : behind? word s = some rest ↔ s = word ++ rest := by
  fun_induction behind? word s with
  | case1 => exact ⟨fun h => Option.some.inj h, fun h => congrArg some h⟩
  | case2 w word => simp
  | case3 word c tail ih => rw [ih, List.cons_append, List.cons.injEq, eq_self, true_and]
  | case4 w word c tail hne =>
    simp only [reduceCtorEq, List.cons_append, List.cons.injEq, false_iff, not_and]
    exact fun heq => absurd heq.symm hne

theorem exists_isWord (h : readWord? s = some (json, rest)) : ∃ front, s = front ++ rest ∧ IsWord json front := by
  obtain ⟨⟨word, found⟩, hword, hjson⟩ := List.exists_of_findSome?_eq_some h
  obtain ⟨behind, hbehind, heq⟩ := Option.map_eq_some_iff.mp hjson
  obtain ⟨rfl, rfl⟩ := Prod.mk.inj heq
  refine ⟨word.toList, behind?_eq_some_iff.mp hbehind, ?_⟩
  simp only [List.mem_cons, Prod.mk.injEq, List.not_mem_nil, or_false] at hword
  obtain ⟨rfl, rfl⟩ | ⟨rfl, rfl⟩ | ⟨rfl, rfl⟩ := hword
  · exact .null
  · exact .yes
  · exact .no

theorem exists_isScalar (h : readScalar? s = some (json, rest)) : ∃ front, s = front ++ rest ∧ IsScalar json front := by
  unfold readScalar? at h
  split at h
  · next tail =>
    obtain ⟨⟨value, behind⟩, htext, heq⟩ := Option.map_eq_some_iff.mp h
    obtain ⟨rfl, rfl⟩ := Prod.mk.inj heq
    obtain ⟨units, front, rfl, hspells, hunits⟩ := readText?_eq_some_iff.mp htext
    exact ⟨'"' :: front ++ ['"'], by simp, .text (.intro hspells hunits)⟩
  · cases hword : readWord? s with
    | none =>
      rw [hword] at h
      obtain ⟨n, front, rfl, hnumber, hjson⟩ := exists_isNumber h
      exact ⟨front, rfl, .number hnumber hjson⟩
    | some found =>
      rw [hword] at h
      obtain ⟨front, rfl, hfront⟩ := exists_isWord (hword.trans h)
      exact ⟨front, rfl, .word hfront⟩

theorem ne_of_isDigit_or_mem {c d : Char} {others : List Char} (hc : isDigit c ∨ c ∈ others) (hdigit : isDigit d = false)
    (hd : d ∉ others) : c ≠ d := by
  rintro rfl
  exact hc.elim (fun hc => Bool.false_ne_true (hdigit.symm.trans hc)) hd

theorem IsNumber.exists_head {n : NumberText} (h : IsNumber n s) : ∃ c tail, s = c :: tail ∧ (isDigit c ∨ c ∈ ['-']) := by
  obtain ⟨hwhole, hfraction, hpower⟩ := h
  next negative whole digits fraction power mark =>
  cases negative with
  | true => exact ⟨'-', whole ++ fraction ++ mark, rfl, .inr List.mem_cons_self⟩
  | false =>
    obtain ⟨c, tail, rfl⟩ := List.exists_cons_of_ne_nil hwhole.1.1
    exact ⟨c, tail ++ fraction ++ mark, rfl, .inl (hwhole.1.2 c List.mem_cons_self)⟩

theorem IsScalar.exists_head (h : IsScalar json s) :
    ∃ c tail, s = c :: tail ∧ (isDigit c ∨ c ∈ ['-', '"', 'n', 't', 'f']) := by
  cases h with
  | word h => cases h <;> exact ⟨_, _, rfl, .inr (by decide)⟩
  | text h =>
    obtain ⟨hspells, hunits⟩ := h
    exact ⟨'"', _, rfl, .inr (by decide)⟩
  | number h hjson =>
    obtain ⟨c, tail, rfl, hc⟩ := h.exists_head
    exact ⟨c, tail, rfl, hc.imp_right fun hc => List.mem_cons.mpr (.inl (List.mem_singleton.mp hc))⟩

theorem IsText.exists_readText?_eq {value : String} (h : IsText value s) :
    ∃ tail, s = '"' :: tail ∧ ∀ rest, readText? (tail ++ rest) = some (value, rest) := by
  obtain ⟨hspells, hunits⟩ := h
  next units s =>
  refine ⟨s ++ ['"'], rfl, fun rest => readText?_eq_some_iff.mpr ⟨units, s, ?_, hspells, hunits⟩⟩
  rw [List.append_assoc, List.singleton_append]

theorem IsScalar.readScalar?_eq (h : IsScalar json s) (hrest : Ends rest) : readScalar? (s ++ rest) = some (json, rest) := by
  cases h with
  | word h => cases h <;> rfl
  | text h =>
    obtain ⟨tail, rfl, htext⟩ := h.exists_readText?_eq
    rw [List.cons_append, readScalar?, htext]
    rfl
  | number h hjson =>
    have hnumber := h.readNumber?_eq hjson hrest
    obtain ⟨c, tail, rfl, hc⟩ := h.exists_head
    have hword : readWord? (c :: (tail ++ rest)) = none := by
      have hn : c ≠ 'n' := ne_of_isDigit_or_mem hc rfl (by decide)
      have ht : c ≠ 't' := ne_of_isDigit_or_mem hc rfl (by decide)
      have hf : c ≠ 'f' := ne_of_isDigit_or_mem hc rfl (by decide)
      simp [readWord?, behind?, hn.symm, ht.symm, hf.symm]
    rw [List.cons_append] at hnumber ⊢
    rw [readScalar?, hword, hnumber]
    · rfl
    · exact fun _ heq => ne_of_isDigit_or_mem hc rfl (by decide) (List.cons.inj heq).1

end

end NowPlaying.Json
