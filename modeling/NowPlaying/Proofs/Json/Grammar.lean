import NowPlaying.Proofs.Json.Scalars

/-!
# The grammar of JSON

Lists and objects hold items with commas between them, blanks may stand between any two parts, and only so many lists and objects are open at a time. The members of an object are kept as they are written, and the object is what they are gathered to.

The reader accepts the texts of the grammar and no others. Its bound on the number of items refuses nothing, as there are never more items than characters.
-/

namespace NowPlaying.Json

open Number

/-! ### Values -/

/-- A text of blanks only. -/
def IsBlanks (s : List Char) : Prop := ∀ c ∈ s, isBlank c

section

variable {α : Type}

/-- Items with commas between them and blanks around each. -/
inductive IsItems (P : α → List Char → Prop) : List α → List Char → Prop
  | last {a : α} {before s after : List Char} (hbefore : IsBlanks before) (hitem : P a s) (hafter : IsBlanks after) :
      IsItems P [a] (before ++ s ++ after)
  | more {a : α} {items : List α} {before s after rest : List Char} (hbefore : IsBlanks before) (hitem : P a s)
      (hafter : IsBlanks after) (hrest : IsItems P items rest) : IsItems P (a :: items) (before ++ s ++ after ++ ',' :: rest)

/-- What stands between two brackets: blanks or some items. -/
inductive IsInside (P : α → List Char → Prop) : List α → List Char → Prop
  | blanks {s : List Char} (h : IsBlanks s) : IsInside P [] s
  | items {items : List α} {s : List Char} (h : IsItems P items s) : IsInside P items s

end

/-- A quoted name, a colon and a value, with blanks around the colon. -/
inductive IsMember (P : Json → List Char → Prop) : String × Json → List Char → Prop
  | intro {name : String} {json : Json} {quoted before after s : List Char} (hname : IsText name quoted)
      (hbefore : IsBlanks before) (hafter : IsBlanks after) (hvalue : P json s) :
      IsMember P (name, json) (quoted ++ before ++ ':' :: after ++ s)

/-- A value in which at most `depth` lists and objects are open at a time. -/
def IsValue : Nat → Json → List Char → Prop
  | 0, json, s => IsScalar json s
  | depth + 1, json, s =>
    IsScalar json s ∨
      (∃ items inside, json = .list items ∧ s = '[' :: inside ++ [']'] ∧ IsInside (IsValue depth) items inside) ∨
      ∃ members inside, json = .object (gather members) ∧ s = '{' :: inside ++ ['}'] ∧
        IsInside (IsMember (IsValue depth)) members inside

/-! ### Readers of items -/

/-- What an item begins with, so that neither blanks nor an end are taken for one. -/
def Begins (s : List Char) : Prop := ∃ c tail, s = c :: tail ∧ isBlank c = false ∧ c ≠ ']' ∧ c ≠ '}'

/-- The reader accepts the items of the grammar, with anything behind them that ends a value. -/
structure Reads {α : Type} (item : List Char → Option (α × List Char)) (P : α → List Char → Prop) : Prop where
  exists_front : ∀ {s rest a}, item s = some (a, rest) → ∃ front, s = front ++ rest ∧ P a front
  eq_some : ∀ {a s rest}, P a s → Ends rest → item (s ++ rest) = some (a, rest)
  begins : ∀ {a s}, P a s → Begins s

/-! ### Blanks -/

section

variable {s rest before after : List Char} {c : Char}

theorem exists_blanks (s : List Char) : ∃ before, IsBlanks before ∧ s = before ++ skipBlank s :=
  ⟨s.takeWhile isBlank, fun _ hc => List.mem_takeWhile_imp hc, List.takeWhile_append_dropWhile.symm⟩

theorem IsBlanks.skipBlank_append_cons (h : IsBlanks before) (hc : isBlank c = false) (rest : List Char) :
    skipBlank (before ++ c :: rest) = c :: rest := by
  rw [skipBlank, List.dropWhile_append_of_pos h, List.dropWhile_cons_of_neg (Bool.eq_false_iff.mp hc)]

theorem IsBlanks.skipBlank_eq_nil (h : IsBlanks s) : skipBlank s = [] := List.dropWhile_eq_nil_iff.mpr h

theorem Begins.append (h : Begins s) (rest : List Char) : Begins (s ++ rest) := by
  obtain ⟨c, tail, rfl, hc⟩ := h
  exact ⟨c, tail ++ rest, rfl, hc⟩

theorem Begins.skipBlank_append (h : Begins s) (hbefore : IsBlanks before) (rest : List Char) :
    skipBlank (before ++ (s ++ rest)) = s ++ rest := by
  obtain ⟨c, tail, rfl, hc, -⟩ := h
  exact hbefore.skipBlank_append_cons hc (tail ++ rest)

theorem ends_of_isBlank (h : isBlank c) (rest : List Char) : Ends (c :: rest) := by
  intro d hd
  obtain rfl := Option.some.inj hd
  simp only [isBlank, Bool.or_eq_true, decide_eq_true_eq] at h
  obtain ((rfl | rfl) | rfl) | rfl := h <;> decide

theorem IsBlanks.ends_append_cons (h : IsBlanks after) (hc : Ends (c :: rest)) : Ends (after ++ c :: rest) := by
  cases after with
  | nil => exact hc
  | cons d after => exact ends_of_isBlank (h d List.mem_cons_self) (after ++ c :: rest)

end

/-! ### Items in brackets -/

section

variable {α : Type} {item : List Char → Option (α × List Char)} {P : α → List Char → Prop} {close : Char} {items : List α}
  {s rest inside : List Char}

theorem IsItems.exists_begins (hP : ∀ {a s}, P a s → Begins s) (h : IsItems P items s) :
    ∃ before tail, IsBlanks before ∧ Begins tail ∧ s = before ++ tail := by
  cases h with
  | last hbefore hitem hafter => exact ⟨_, _, hbefore, (hP hitem).append _, List.append_assoc _ _ _⟩
  | @more a items before s after rest hbefore hitem hafter hrest =>
    exact ⟨before, s ++ (after ++ ',' :: rest), hbefore, (hP hitem).append _, by simp only [List.append_assoc]⟩

theorem Reads.exists_items (h : Reads item P) {bound : Nat} (hread : readItems? item close bound s = some (items, rest)) :
    ∃ inside, s = inside ++ close :: rest ∧ IsItems P items inside := by
  induction bound generalizing s items with
  | zero => contradiction
  | succ bound ih =>
    simp only [readItems?, Option.bind_eq_bind, Option.bind_eq_some_iff] at hread
    obtain ⟨⟨first, behind⟩, hfirst, hread⟩ := hread
    obtain ⟨before, hbefore, hs⟩ := exists_blanks s
    obtain ⟨front, hfront, hitem⟩ := h.exists_front hfirst
    obtain ⟨after, hafter, hbehind⟩ := exists_blanks behind
    rw [hfront, hbehind] at hs
    split at hread
    · next c next hnext =>
      rw [hnext] at hs
      split at hread
      · next hcomma =>
        obtain ⟨⟨more, last⟩, hmore, heq⟩ := Option.bind_eq_some_iff.mp hread
        obtain ⟨rfl, rfl⟩ := Prod.mk.inj (Option.some.inj heq)
        obtain ⟨inside, rfl, hinside⟩ := ih hmore
        refine ⟨_, ?_, .more hbefore hitem hafter hinside⟩
        rw [hs, hcomma]
        simp only [List.append_assoc, List.cons_append]
      · split at hread
        · next hclose =>
          obtain ⟨rfl, rfl⟩ := Prod.mk.inj (Option.some.inj hread)
          refine ⟨_, ?_, .last hbefore hitem hafter⟩
          rw [hs, hclose]
          simp only [List.append_assoc]
        · contradiction
    · contradiction

theorem Reads.readItems?_eq (h : Reads item P) (hclose : close = ']' ∨ close = '}') (hitems : IsItems P items inside)
    {bound : Nat} (hbound : inside.length ≤ bound) (rest : List Char) :
    readItems? item close bound (inside ++ close :: rest) = some (items, rest) := by
  have hblank : isBlank close = false := by obtain rfl | rfl := hclose <;> rfl
  have hcomma : close ≠ ',' := by obtain rfl | rfl := hclose <;> decide
  have hends : ∀ c, c = close ∨ c = ',' → ∀ rest, Ends (c :: rest) := by
    rintro c (rfl | rfl) rest d hd
    · obtain rfl := Option.some.inj hd
      obtain rfl | rfl := hclose <;> decide
    · obtain rfl := Option.some.inj hd
      decide
  induction hitems generalizing bound with
  | @last a before s after hbefore hitem hafter =>
    have hbegins := h.begins hitem
    obtain ⟨bound, rfl⟩ : ∃ less, bound = less + 1 := by
      obtain ⟨c, tail, rfl, -⟩ := hbegins
      simp only [List.length_append, List.length_cons] at hbound
      exact ⟨bound - 1, by omega⟩
    have hfirst := h.eq_some hitem (hafter.ends_append_cons (hends close (.inl rfl) rest))
    simp only [List.append_assoc, readItems?, hbegins.skipBlank_append hbefore, hfirst,
      hafter.skipBlank_append_cons hblank, Option.bind_eq_bind, Option.bind_some, if_neg hcomma, if_true]
  | @more a items before s after next hbefore hitem hafter hnext ih =>
    -- The item and the comma take two characters, and the step takes one of the bound.
    have hbegins := h.begins hitem
    obtain ⟨bound, rfl⟩ : ∃ less, bound = less + 1 := by
      simp only [List.length_append, List.length_cons] at hbound
      exact ⟨bound - 1, by omega⟩
    have hless : next.length ≤ bound := by
      simp only [List.length_append, List.length_cons] at hbound
      omega
    have hfirst := h.eq_some hitem (hafter.ends_append_cons (hends ',' (.inr rfl) (next ++ close :: rest)))
    have hcommaBlank : isBlank ',' = false := rfl
    simp only [List.append_assoc, List.cons_append, readItems?, hbegins.skipBlank_append hbefore, hfirst,
      hafter.skipBlank_append_cons hcommaBlank, Option.bind_eq_bind, Option.bind_some, if_true, ih hless]

theorem Reads.readBracket?_eq_some_iff (h : Reads item P) (hclose : close = ']' ∨ close = '}') :
    readBracket? item close s = some (items, rest) ↔ ∃ inside, s = inside ++ close :: rest ∧ IsInside P items inside := by
  constructor
  · intro hread
    unfold readBracket? at hread
    split at hread
    · next c behind hbehind =>
      split at hread
      · next hc =>
        obtain ⟨rfl, rfl⟩ := Prod.mk.inj (Option.some.inj hread)
        obtain ⟨before, hbefore, hs⟩ := exists_blanks s
        exact ⟨before, by rw [hs, hbehind, hc], .blanks hbefore⟩
      · obtain ⟨inside, hs, hitems⟩ := h.exists_items hread
        exact ⟨inside, hs, .items hitems⟩
    · contradiction
  · rintro ⟨inside, rfl, hinside⟩
    cases hinside with
    | blanks hblanks =>
      have hblank : isBlank close = false := by obtain rfl | rfl := hclose <;> rfl
      rw [readBracket?, hblanks.skipBlank_append_cons hblank]
      exact if_pos rfl
    | items hitems =>
      have hlength : inside.length ≤ (inside ++ close :: rest).length := by simp
      have hread := h.readItems?_eq hclose hitems hlength rest
      obtain ⟨before, tail, hbefore, hbegins, htail⟩ := hitems.exists_begins h.begins
      have hskip : skipBlank (inside ++ close :: rest) = tail ++ close :: rest := by
        rw [htail, List.append_assoc, hbegins.skipBlank_append hbefore]
      obtain ⟨c, more, rfl, -, hbracket, hbrace⟩ := hbegins
      have hne : c ≠ close := by
        obtain rfl | rfl := hclose
        · exact hbracket
        · exact hbrace
      rw [readBracket?, hskip, List.cons_append]
      simp only [if_neg hne]
      exact hread

theorem Reads.readBracket?_eq (h : Reads item P) (hclose : close = ']' ∨ close = '}') (hinside : IsInside P items inside)
    (rest : List Char) : readBracket? item close (inside ++ close :: rest) = some (items, rest) :=
  (h.readBracket?_eq_some_iff hclose).mpr ⟨inside, rfl, hinside⟩

end

/-! ### Readers of members and values -/

section

variable {value : List Char → Option (Json × List Char)} {P : Json → List Char → Prop} {json : Json} {s rest : List Char}

theorem IsScalar.head_ne (h : IsScalar json s) :
    ∃ c tail, s = c :: tail ∧ isBlank c = false ∧ c ∉ ['[', ']', '{', '}'] := by
  obtain ⟨c, tail, rfl, hc⟩ := h.exists_head
  refine ⟨c, tail, rfl, ?_⟩
  have hne (d : Char) (hdigit : isDigit d = false) (hother : d ∉ ['-', '"', 'n', 't', 'f']) : c ≠ d :=
    ne_of_isDigit_or_mem hc hdigit hother
  constructor
  · simp [isBlank, hne ' ' rfl, hne '\t' rfl, hne '\n' rfl, hne '\r' rfl]
  · simp [hne '[' rfl, hne ']' rfl, hne '{' rfl, hne '}' rfl]

theorem reads_scalar : Reads readScalar? IsScalar where
  exists_front := exists_isScalar
  eq_some := IsScalar.readScalar?_eq
  begins h := by
    obtain ⟨c, tail, rfl, hblank, hc⟩ := h.head_ne
    simp only [List.mem_cons, List.not_mem_nil, or_false, not_or] at hc
    exact ⟨c, tail, rfl, hblank, hc.2.1, hc.2.2.2⟩

theorem Reads.member (h : Reads value P) : Reads (readMember? value) (IsMember P) where
  exists_front {s rest member} hread := by
    unfold readMember? at hread
    split at hread
    · next tail =>
      simp only [Option.bind_eq_bind, Option.bind_eq_some_iff] at hread
      obtain ⟨⟨name, behind⟩, hname, hread⟩ := hread
      obtain ⟨units, spelled, rfl, hspells, hunits⟩ := readText?_eq_some_iff.mp hname
      obtain ⟨before, hbefore, hbehind⟩ := exists_blanks behind
      split at hread
      · next next hcolon =>
        obtain ⟨⟨json, last⟩, hjson, heq⟩ := Option.bind_eq_some_iff.mp hread
        obtain ⟨rfl, rfl⟩ := Prod.mk.inj (Option.some.inj heq)
        obtain ⟨after, hafter, hnext⟩ := exists_blanks next
        obtain ⟨front, hfront, hvalue⟩ := h.exists_front hjson
        refine ⟨_, ?_, .intro (.intro hspells hunits) hbefore hafter hvalue⟩
        rw [hbehind, hcolon, hnext, hfront]
        simp only [List.append_assoc, List.cons_append, List.nil_append]
      · contradiction
    · contradiction
  eq_some {member s rest} hmember hrest := by
    obtain ⟨hname, hbefore, hafter, hvalue⟩ := hmember
    next name json quoted before after s =>
    obtain ⟨tail, rfl, htext⟩ := hname.exists_readText?_eq
    have hcolon : isBlank ':' = false := rfl
    simp only [List.append_assoc, List.cons_append, readMember?, htext, hbefore.skipBlank_append_cons hcolon,
      (h.begins hvalue).skipBlank_append hafter, h.eq_some hvalue hrest, Option.bind_eq_bind, Option.bind_some]
  begins hmember := by
    obtain ⟨⟨hspells, hunits⟩, hbefore, hafter, hvalue⟩ := hmember
    exact ⟨'"', _, rfl, rfl, by decide, by decide⟩

theorem IsValue.begins {depth : Nat} (h : IsValue depth json s) : Begins s := by
  cases depth with
  | zero => exact reads_scalar.begins h
  | succ depth =>
    obtain hscalar | ⟨items, inside, rfl, rfl, -⟩ | ⟨members, inside, rfl, rfl, -⟩ := h
    · exact reads_scalar.begins hscalar
    · exact ⟨'[', _, rfl, rfl, by decide, by decide⟩
    · exact ⟨'{', _, rfl, rfl, by decide, by decide⟩

theorem Reads.exists_isValue {depth : Nat} (h : Reads (readValue? depth) (IsValue depth))
    (hread : readValue? (depth + 1) s = some (json, rest)) : ∃ front, s = front ++ rest ∧ IsValue (depth + 1) json front := by
  unfold readValue? at hread
  split at hread
  · contradiction
  · next deeper tail heq =>
    obtain rfl := Nat.succ.inj heq
    obtain ⟨⟨items, behind⟩, hitems, heq⟩ := Option.bind_eq_some_iff.mp hread
    obtain ⟨rfl, rfl⟩ := Prod.mk.inj (Option.some.inj heq)
    obtain ⟨inside, rfl, hinside⟩ := (h.readBracket?_eq_some_iff (.inl rfl)).mp hitems
    exact ⟨'[' :: inside ++ [']'], by simp, .inr (.inl ⟨items, inside, rfl, rfl, hinside⟩)⟩
  · next deeper tail heq =>
    obtain rfl := Nat.succ.inj heq
    obtain ⟨⟨members, behind⟩, hmembers, heq⟩ := Option.bind_eq_some_iff.mp hread
    obtain ⟨rfl, rfl⟩ := Prod.mk.inj (Option.some.inj heq)
    obtain ⟨inside, rfl, hinside⟩ := (h.member.readBracket?_eq_some_iff (.inr rfl)).mp hmembers
    exact ⟨'{' :: inside ++ ['}'], by simp, .inr (.inr ⟨members, inside, rfl, rfl, hinside⟩)⟩
  · obtain ⟨front, rfl, hscalar⟩ := exists_isScalar hread
    exact ⟨front, rfl, .inl hscalar⟩

theorem Reads.readValue?_eq {depth : Nat} (h : Reads (readValue? depth) (IsValue depth))
    (hvalue : IsValue (depth + 1) json s) (hrest : Ends rest) : readValue? (depth + 1) (s ++ rest) = some (json, rest) := by
  obtain hscalar | ⟨items, inside, rfl, rfl, hinside⟩ | ⟨members, inside, rfl, rfl, hinside⟩ := hvalue
  · have hread := hscalar.readScalar?_eq hrest
    obtain ⟨c, tail, rfl, -, hc⟩ := hscalar.head_ne
    simp only [List.mem_cons, List.not_mem_nil, or_false, not_or] at hc
    rw [List.cons_append] at hread ⊢
    rw [readValue?, hread]
    · exact fun _ heq => hc.1 (List.cons.inj heq).1
    · exact fun _ heq => hc.2.2.1 (List.cons.inj heq).1
  · simp only [List.cons_append, List.append_assoc, List.nil_append, readValue?,
      h.readBracket?_eq (.inl rfl) hinside rest, Option.bind_eq_bind, Option.bind_some]
  · simp only [List.cons_append, List.append_assoc, List.nil_append, readValue?,
      h.member.readBracket?_eq (.inr rfl) hinside rest, Option.bind_eq_bind, Option.bind_some]

theorem reads_value (depth : Nat) : Reads (readValue? depth) (IsValue depth) := by
  induction depth with
  | zero => exact reads_scalar
  | succ depth ih => exact ⟨ih.exists_isValue, ih.readValue?_eq, IsValue.begins⟩

/-- What is read is a value with blanks around it. -/
theorem read?_eq_some_iff {text : String} :
    read? text = some json ↔
      ∃ before s after, text.toList = before ++ s ++ after ∧ IsBlanks before ∧ IsBlanks after ∧ IsValue maxDepth json s := by
  simp only [read?, Option.bind_eq_bind, Option.bind_eq_some_iff, Prod.exists, Option.ite_none_right_eq_some,
    List.isEmpty_iff, Option.some.injEq]
  constructor
  · rintro ⟨found, behind, hread, hblank, rfl⟩
    obtain ⟨before, hbefore, htext⟩ := exists_blanks text.toList
    obtain ⟨s, hs, hvalue⟩ := (reads_value maxDepth).exists_front hread
    obtain ⟨after, hafter, hbehind⟩ := exists_blanks behind
    rw [hblank, List.append_nil] at hbehind
    exact ⟨before, s, behind, by rw [htext, hs, List.append_assoc], hbefore, hbehind ▸ hafter, hvalue⟩
  · rintro ⟨before, s, after, htext, hbefore, hafter, hvalue⟩
    have hends : Ends after := by
      cases after with
      | nil => exact fun c hc => absurd hc (Option.not_mem_none c)
      | cons c after => exact ends_of_isBlank (hafter c List.mem_cons_self) after
    refine ⟨json, after, ?_, hafter.skipBlank_eq_nil, rfl⟩
    rw [htext, List.append_assoc, ((reads_value maxDepth).begins hvalue).skipBlank_append hbefore]
    exact (reads_value maxDepth).eq_some hvalue hends

end

end NowPlaying.Json
