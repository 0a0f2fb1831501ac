import NowPlaying.Proofs.Number.Digits
import NowPlaying.Proofs.Text.Span
import NowPlaying.Proofs.Toml.Text
import NowPlaying.Toml.Reader

/-!
# Written lines are read back

A key and its value with an equals sign between them make a line that reads as this key and this value. Keys may be any texts, values texts or numbers. A document is read from its last line to its first: `Reads` says what becomes of a draft with the text that is left, whatever bound the reader works with.
-/

namespace NowPlaying.Toml

open Number

/-! ### Numbers -/

/-- A text of digits is a whole word. -/
theorem takeDigits_of_all {s : List Char} (h : ∀ c ∈ s, isDigit c) : takeDigits s = (s, []) := by
  rw [takeDigits, ← span_append h (show ∀ c ∈ [].head?, isDigit c = false by simp), List.append_nil]

theorem underscoresFit_of_notMem {digit : Char → Bool} {before : Bool} {s : List Char} (h : '_' ∉ s) :
    underscoresFit digit before s = true := by
  induction s generalizing before with
  | nil => rfl
  | cons c rest ih =>
    rw [List.mem_cons, not_or] at h
    rw [underscoresFit, if_neg (Ne.symm h.1)]
    exact ih h.2

theorem isScalarChar_of_isDigit {c : Char} (h : isDigit c) : isScalarChar c = true := by
  have hother : "=,[]\x7b\x7d \t#\r\n".toList.all (fun d => !isDigit d) = true := by decide
  rw [isScalarChar, Bool.not_eq_true', ← Bool.not_eq_true, List.contains_iff_mem]
  intro hmem
  have hc := List.all_eq_true.mp hother c hmem
  rw [h] at hc
  contradiction

section Numbers

variable {n : Nat}

theorem notMem_digitsOf {c : Char} (hc : isDigit c = false) : c ∉ digitsOf n := by
  intro hmem
  rw [isDigit_of_mem_digitsOf hmem] at hc
  contradiction

/-- The digits of a number are no word that begins with something else. -/
theorem digitsOf_ne {c : Char} (hc : isDigit c = false) (s : List Char) : digitsOf n ≠ c :: s := by
  intro heq
  exact notMem_digitsOf hc (heq ▸ List.mem_cons_self)

theorem readInteger?_digitsOf (h : n < Nat.pow 2 128) : readInteger? [] (digitsOf n) = some (.integer n) := by
  have hfront : (decide (1 < (digitsOf n).length) && decide ((digitsOf n).head? = some '0')) = false := by
    by_cases hhead : (digitsOf n).head? = some '0'
    · rw [eq_zero_of_head?_digitsOf hhead]
      rfl
    · simp [hhead]
  have hfits : wordFits isHexDigit (digitsOf n) = true := underscoresFit_of_notMem (notMem_digitsOf rfl)
  have hkept : withoutUnderscores (digitsOf n) = digitsOf n := by
    rw [withoutUnderscores, List.filter_eq_self]
    intro c hc
    have hne : c ≠ '_' := fun heq => notMem_digitsOf rfl (heq ▸ hc)
    simpa using hne
  have hdigits : (digitsOf n).all isDigit = true := List.all_eq_true.mpr fun c hc => isDigit_of_mem_digitsOf hc
  have hbound : fits128 (n : Int) = true := by
    simp only [fits128, Bool.and_eq_true, decide_eq_true_eq]
    omega
  have hsigned : ofInt (signed (decide (([] : List Char) = ['-'])) (ofDigits (digitsOf n))) = .integer n := by
    rw [ofDigits_digitsOf]
    change (if fits128 (n : Int) then integer n else numberless) = _
    rw [if_pos hbound]
  rw [readInteger?, hfront, hfits]
  simp only [hkept, hdigits, hsigned, Bool.not_true, Bool.or_self, Bool.false_eq_true, if_false, if_true]

theorem readNumber?_digitsOf (h : n < Nat.pow 2 128) : readNumber? [] (digitsOf n) = some (.integer n) := by
  have hdigits : takeDigits (digitsOf n) = (digitsOf n, []) := takeDigits_of_all fun c hc => isDigit_of_mem_digitsOf hc
  have hnonempty : (digitsOf n).isEmpty = false := by simpa using digitsOf_ne_nil n
  have hinf : digitsOf n ≠ "inf".toList := digitsOf_ne rfl _
  have hnan : digitsOf n ≠ "nan".toList := digitsOf_ne rfl _
  rw [readNumber?, if_neg hinf, if_neg hnan, hdigits]
  simp only [hnonempty, Bool.false_eq_true, if_false]
  exact readInteger?_digitsOf h

theorem readUnsigned?_digitsOf (h : n < Nat.pow 2 128) : readUnsigned? (digitsOf n) = some (.integer n) := by
  have hdigits : takeDigits (digitsOf n) = (digitsOf n, []) := takeDigits_of_all fun c hc => isDigit_of_mem_digitsOf hc
  have hdate : looksDated (digitsOf n) = false := by
    rw [looksDated, hdigits]
    simp
  unfold readUnsigned?
  rw [hdate]
  simp only [Bool.false_eq_true, if_false]
  split
  · next c digits hzero =>
    have hn : n = 0 := eq_zero_of_head?_digitsOf (by rw [hzero]; rfl)
    rw [hn, digitsOf, Nat.toDigits_zero] at hzero
    simp at hzero
  · exact readNumber?_digitsOf h

theorem decodeScalar?_digitsOf (h : n < Nat.pow 2 128) : decodeScalar? (digitsOf n) = some (.integer n) := by
  have htrue : digitsOf n ≠ "true".toList := digitsOf_ne rfl _
  have hfalse : digitsOf n ≠ "false".toList := digitsOf_ne rfl _
  unfold decodeScalar?
  rw [if_neg htrue, if_neg hfalse]
  split
  · next rest hplus => exact absurd hplus (digitsOf_ne rfl rest)
  · next rest hminus => exact absurd hminus (digitsOf_ne rfl rest)
  · exact readUnsigned?_digitsOf h

theorem takeScalar_of_all {s : List Char} (h : ∀ c ∈ s, isScalarChar c) (rest : List Char) :
    takeScalar (s ++ '\n' :: rest) = (s, '\n' :: rest) := by
  rw [takeScalar, span_append h (by simp; rfl)]
  rfl

theorem readScalar?_digitsOf (h : n < Nat.pow 2 128) (rest : List Char) :
    readScalar? (digitsOf n ++ '\n' :: rest) = some (.integer n, '\n' :: rest) := by
  rw [readScalar?, takeScalar_of_all fun c hc => isScalarChar_of_isDigit (isDigit_of_mem_digitsOf hc)]
  simp only [decodeScalar?_digitsOf h, Option.map_some]

end Numbers

/-! ### Values -/

/-- The character that a value begins with is no blank, and no bracket or brace. -/
def BeginsValue (c : Char) : Prop := isSpace c = false ∧ c ≠ '[' ∧ c ≠ '\x7b'

theorem readValue?_cons {depth : Nat} {c : Char} (h : BeginsValue c) (s : List Char) :
    readValue? depth (c :: s) =
      (((readText? (c :: s)).map fun (value, s) => (.text value, s)) <|> readScalar? (c :: s)) := by
  obtain ⟨-, hlist, htable⟩ := h
  unfold readValue?
  split
  · next heq => exact absurd (List.cons.inj heq).1 hlist
  · next heq => exact absurd (List.cons.inj heq).1 htable
  · rfl

theorem exists_quote_write (quoting : Quoting) (s : List Char) :
    ∃ quote rest, quoting.write s = quote :: rest ∧ (quote = '"' ∨ quote = '\'') := by
  cases quoting with
  | basic => exact ⟨_, _, rfl, .inl rfl⟩
  | literal => exact ⟨_, _, rfl, .inr rfl⟩
  | multilineBasic => exact ⟨_, _, rfl, .inl rfl⟩
  | multilineLiteral => exact ⟨_, _, rfl, .inr rfl⟩

/-- A value as it is written, in front of a line break. -/
structure Writes (value : Toml) (s : List Char) : Prop where
  begins : ∃ c rest, s = c :: rest ∧ BeginsValue c
  read : ∀ rest, readValue? maxDepth (s ++ '\n' :: rest) = some (value, '\n' :: rest)

theorem writes_text (value : String) : Writes (.text value) (writeText value.toList) := by
  obtain ⟨quote, behind, hwrite, hquote⟩ := exists_quote_write (quotingOf value.toList) value.toList
  have hbegins : BeginsValue quote := by
    obtain rfl | rfl := hquote
    · exact ⟨rfl, by decide, by decide⟩
    · exact ⟨rfl, by decide, by decide⟩
  have hcons : writeText value.toList = quote :: behind := hwrite
  refine ⟨⟨quote, behind, hcons, hbegins⟩, fun rest => ?_⟩
  have hread := readText?_writeText value.toList rest
  rw [String.ofList_toList] at hread
  rw [hcons, List.cons_append] at hread ⊢
  rw [readValue?_cons hbegins, hread]
  rfl

theorem writes_number {n : Nat} (h : n < Nat.pow 2 128) : Writes (.integer n) (digitsOf n) := by
  obtain ⟨c, behind, hcons⟩ := List.exists_cons_of_ne_nil (digitsOf_ne_nil n)
  have hdigit : isDigit c := isDigit_of_mem_digitsOf (hcons ▸ List.mem_cons_self)
  have hother : ∀ d, isDigit d = false → c ≠ d := by
    rintro d hd rfl
    rw [hd] at hdigit
    contradiction
  have hbegins : BeginsValue c := by
    refine ⟨?_, hother _ rfl, hother _ rfl⟩
    simp [isSpace, hother ' ' rfl, hother '\t' rfl]
  refine ⟨⟨c, behind, hcons, hbegins⟩, fun rest => ?_⟩
  have hread := readScalar?_digitsOf h rest
  rw [hcons, List.cons_append] at hread ⊢
  have hnone : readText? (c :: (behind ++ '\n' :: rest)) = none := by
    unfold readText?
    split
    · next heq => exact absurd (List.cons.inj heq).1 (hother _ rfl)
    · next heq => exact absurd (List.cons.inj heq).1 (hother _ rfl)
    · unfold readLineText?
      split
      · next heq => exact absurd (List.cons.inj heq).1 (hother _ rfl)
      · next heq => exact absurd (List.cons.inj heq).1 (hother _ rfl)
      · rfl
  rw [readValue?_cons hbegins, hnone, hread]
  rfl

/-! ### Keys -/

theorem skipSpace_cons {c : Char} (h : isSpace c = false) (s : List Char) : skipSpace (c :: s) = c :: s := by
  rw [skipSpace, List.dropWhile_cons, h]
  rfl

/-- A key begins with a bare character or a quote. -/
theorem exists_cons_writeKey (s : List Char) :
    ∃ c rest, writeKey s = c :: rest ∧ (isBare c ∨ c = '"' ∨ c = '\'') := by
  rw [writeKey]
  split
  · next hbare =>
    rw [isBareKey, Bool.and_eq_true, List.all_eq_true] at hbare
    cases s with
    | nil => simp at hbare
    | cons c rest => exact ⟨c, rest, rfl, .inl (hbare.2 c List.mem_cons_self)⟩
  · obtain ⟨quote, rest, hwrite, hquote⟩ := exists_quote_write (keyQuoting s) s
    exact ⟨quote, rest, hwrite, .inr hquote⟩

theorem readName?_writeKey (s : List Char) {rest : List Char} (hrest : ∀ c ∈ rest.head?, isBare c = false) :
    readName? (writeKey s ++ rest) = some (String.ofList s, rest) := by
  rw [writeKey]
  split
  · next hbare =>
    rw [isBareKey, Bool.and_eq_true, List.all_eq_true] at hbare
    have hspan := span_append hbare.2 hrest
    cases s with
    | nil => simp at hbare
    | cons c s =>
      rw [readName?, show List.span isBare (c :: s ++ rest) = _ from hspan]
  · obtain ⟨quote, behind, hwrite, hquote⟩ := exists_quote_write (keyQuoting s) s
    have hstop : isBare quote = false := by obtain rfl | rfl := hquote <;> rfl
    have hspan : ([] ++ quote :: (behind ++ rest)).span isBare = ([], quote :: (behind ++ rest)) :=
      span_append (by simp) (by simpa using hstop)
    rw [List.nil_append] at hspan
    have hread := readLineText?_keyQuoting s rest
    rw [hwrite, List.cons_append] at hread ⊢
    rw [readName?, hspan]
    exact hread

/-- What a line may not begin with, and still be the line of a key. -/
theorem beginsKey_of_bare_or_quote {c : Char} (h : isBare c ∨ c = '"' ∨ c = '\'') :
    isSpace c = false ∧ c ≠ '[' ∧ ¬ (c = '#' ∨ c = '\n' ∨ c = '\r') := by
  have hother : [' ', '\t', '[', '#', '\n', '\r'].all (fun d => !decide (isBare d ∨ d = '"' ∨ d = '\'')) = true := by decide
  have hne : ∀ d ∈ [' ', '\t', '[', '#', '\n', '\r'], c ≠ d := by
    rintro d hd rfl
    have hd := List.all_eq_true.mp hother c hd
    rw [decide_eq_true h] at hd
    contradiction
  have hspace := hne ' ' (by decide)
  have htab := hne '\t' (by decide)
  refine ⟨by simp [isSpace, hspace, htab], hne '[' (by decide), ?_⟩
  rintro (heq | heq | heq)
  · exact hne '#' (by decide) heq
  · exact hne '\n' (by decide) heq
  · exact hne '\r' (by decide) heq

theorem skipSpace_writeKey (s rest : List Char) : skipSpace (writeKey s ++ rest) = writeKey s ++ rest := by
  obtain ⟨c, behind, hwrite, hc⟩ := exists_cons_writeKey s
  rw [hwrite, List.cons_append, skipSpace_cons (beginsKey_of_bare_or_quote hc).1]

theorem readKey?_writeKey (s rest : List Char) :
    readKey? (writeKey s ++ ' ' :: '=' :: rest) = some (⟨[], String.ofList s⟩, '=' :: rest) := by
  have hname := readName?_writeKey s (show ∀ c ∈ (' ' :: '=' :: rest).head?, isBare c = false by simp; rfl)
  rw [readKey?, maxDepth, readKeyWithin?, skipSpace_writeKey, hname]
  rfl

/-! ### Lines -/

theorem readLine?_pair {value : Toml} {s : List Char} (h : Writes value s) (key : String) (rest : List Char) :
    readLine? (writeKey key.toList ++ ' ' :: '=' :: ' ' :: (s ++ '\n' :: rest)) =
      some (.pair ⟨[], key⟩ value, '\n' :: rest) := by
  have hkey := readKey?_writeKey key.toList (' ' :: (s ++ '\n' :: rest))
  rw [String.ofList_toList] at hkey
  have hread := h.read rest
  obtain ⟨first, more, hfirst, hspace, -⟩ := h.begins
  have hskip : skipSpace (' ' :: (s ++ '\n' :: rest)) = s ++ '\n' :: rest := by
    rw [hfirst, List.cons_append]
    exact skipSpace_cons hspace _
  have hpair : readPair? (some ∘ skipSpace) (readValue? maxDepth)
      (writeKey key.toList ++ ' ' :: '=' :: ' ' :: (s ++ '\n' :: rest)) = some ((⟨[], key⟩, value), '\n' :: rest) := by
    rw [readPair?, hkey]
    change (readValue? maxDepth (skipSpace (' ' :: (s ++ '\n' :: rest))) >>= _) = _
    rw [hskip, hread]
    rfl
  have hline := skipSpace_writeKey key.toList (' ' :: '=' :: ' ' :: (s ++ '\n' :: rest))
  obtain ⟨c, behind, hwrite, hc⟩ := exists_cons_writeKey key.toList
  obtain ⟨-, hlist, hblank⟩ := beginsKey_of_bare_or_quote hc
  rw [hwrite, List.cons_append] at hpair hline ⊢
  rw [readLine?, hline]
  simp only [if_neg hlist, if_neg hblank, hpair, Option.map_some]

/-! ### Documents -/

/-- A draft and the text that is left make a document, however far the bound of the reader lies beyond the text. -/
def Reads (draft : Draft) (s : List Char) (root : Entries) : Prop :=
  ∀ bound, s.length < bound → readLines? draft bound s = some root

theorem reads_nil (draft : Draft) : Reads draft [] draft.root := by
  intro bound hbound
  obtain ⟨bound, rfl⟩ := Nat.exists_eq_add_one_of_ne_zero (Nat.ne_of_gt hbound)
  rfl

theorem reads_line {draft next : Draft} {front rest : List Char} {line : Line} {root : Entries}
    (hline : readLine? (front ++ '\n' :: rest) = some (line, '\n' :: rest)) (hadd : draft.add? line = some next)
    (hrest : Reads next rest root) : Reads draft (front ++ '\n' :: rest) root := by
  intro bound hbound
  rw [List.length_append, List.length_cons] at hbound
  obtain ⟨bound, rfl⟩ := Nat.exists_eq_add_one_of_ne_zero (show bound ≠ 0 by omega)
  rw [readLines?, hline]
  simp only [Option.bind_eq_bind, Option.bind_some, hadd]
  change readLines? next bound rest = some root
  exact hrest bound (by omega)

theorem reads_blank {draft : Draft} {rest : List Char} {root : Entries} (h : Reads draft rest root) :
    Reads draft ('\n' :: rest) root := by
  have hblank : readLine? ([] ++ '\n' :: rest) = some (.blank, '\n' :: rest) := rfl
  exact reads_line hblank rfl h

end NowPlaying.Toml
