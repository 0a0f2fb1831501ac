import NowPlaying.Proofs.Template.Mark
import NowPlaying.Proofs.Text.Trim

/-!
# The grammar of formats

A format is texts and directives in turn, beginning and ending with a text that may be empty. No text holds an opener, and none in front of a directive ends with an opening brace. Between its double braces a directive has one name, or two with the second in parentheses and nothing but blanks behind them.

The main statement is that `tokenize` accepts exactly the formats that can be read in this way, that a format can be read in one way only, and that its tokens are those of the reading.
-/

namespace NowPlaying

namespace Template

open Text

/-! ### Readings -/

/-- A name with the blanks around it, as it stands between two marks. -/
structure IsBody (s : List Char) : Prop where
  unmarked : Unmarked s
  notBlank : ∃ c ∈ s, isBlank c = false

/-- A directive as it is written between its double braces. -/
inductive Written where
  | lookup (name : List Char)
  | call (helper argument blanks : List Char)

namespace Written

def inner : Written → List Char
  | .lookup name => name
  | .call helper argument blanks => helper ++ '(' :: (argument ++ ')' :: blanks)

def chars (directive : Written) : List Char := '{' :: '{' :: (directive.inner ++ ['}', '}'])

def token : Written → Token
  | .lookup name => .lookup (String.ofList (trim name))
  | .call helper argument _ => .call (String.ofList (trim helper)) (String.ofList (trim argument))

def WellFormed : Written → Prop
  | .lookup name => IsBody name ∧ name.getLast? ≠ some '}'
  | .call helper argument blanks => IsBody helper ∧ IsBody argument ∧ ∀ c ∈ blanks, isBlank c

theorem byteSize_chars (directive : Written) : byteSize directive.chars = 2 + byteSize directive.inner + 2 := by
  rw [chars, byteSize, byteSize, byteSize_append]
  change 1 + (1 + (_ + 2)) = _
  omega

theorem chars_append (directive : Written) (rest : List Char) :
    directive.chars ++ rest = Mark.opener.chars ++ (directive.inner ++ (Mark.closer.chars ++ rest)) := by
  simp only [chars, Mark.chars, List.append_assoc, List.cons_append, List.nil_append]

theorem inner_call_append (helper argument blanks rest : List Char) :
    (call helper argument blanks).inner ++ (Mark.closer.chars ++ rest) =
      helper ++ (Mark.paren.chars ++ (argument ++ (Mark.endParen.chars ++ (blanks ++ (Mark.closer.chars ++ rest))))) := by
  simp only [inner, Mark.chars, List.append_assoc, List.cons_append, List.nil_append]

theorem byteSize_inner_call (helper argument blanks : List Char) :
    byteSize (call helper argument blanks).inner = byteSize helper + 1 + byteSize argument + 1 + byteSize blanks := by
  rw [inner, byteSize_append, byteSize, byteSize_append, byteSize]
  change _ + (1 + (_ + (1 + _))) = _
  omega

end Written

/-- The directives of a format, each with the text in front of it, and the text behind the last one. -/
structure Reading where
  parts : List (List Char × Written)
  last : List Char

namespace Reading

def chars (reading : Reading) : List Char :=
  reading.parts.flatMap (fun part => part.1 ++ part.2.chars) ++ reading.last

def tokens (reading : Reading) : List Token :=
  reading.parts.flatMap (fun part => literal part.1 ++ [part.2.token]) ++ literal reading.last

structure WellFormed (reading : Reading) : Prop where
  texts : ∀ part ∈ reading.parts, Unopened part.1 ∧ part.1.getLast? ≠ some '{'
  directives : ∀ part ∈ reading.parts, part.2.WellFormed
  last : Unopened reading.last

/-- A text without directives. -/
def nil (last : List Char) : Reading := ⟨[], last⟩

/-- One more directive in front, behind a text. -/
def cons (text : List Char) (directive : Written) (reading : Reading) : Reading :=
  ⟨(text, directive) :: reading.parts, reading.last⟩

@[cases_eliminator]
theorem casesNilCons {motive : Reading → Prop} (nil : ∀ last, motive (nil last))
    (cons : ∀ text directive reading, motive (cons text directive reading)) (reading : Reading) : motive reading := by
  obtain ⟨parts, last⟩ := reading
  cases parts with
  | nil => exact nil last
  | cons part parts => exact cons part.1 part.2 ⟨parts, last⟩

@[induction_eliminator]
theorem inductionNilCons {motive : Reading → Prop} (nil : ∀ last, motive (nil last))
    (cons : ∀ text directive reading, motive reading → motive (cons text directive reading)) (reading : Reading) :
    motive reading := by
  obtain ⟨parts, last⟩ := reading
  induction parts with
  | nil => exact nil last
  | cons part parts ih => exact cons part.1 part.2 ⟨parts, last⟩ ih

@[simp] theorem chars_nil (last : List Char) : (nil last).chars = last := rfl

@[simp] theorem tokens_nil (last : List Char) : (nil last).tokens = literal last := rfl

theorem wellFormed_nil {last : List Char} : (nil last).WellFormed ↔ Unopened last := by
  constructor
  · exact fun h => h.last
  · exact fun h => ⟨by simp [nil], by simp [nil], h⟩

@[simp] theorem chars_cons (text : List Char) (directive : Written) (reading : Reading) :
    (cons text directive reading).chars = text ++ (directive.chars ++ reading.chars) := by
  simp only [chars, cons, List.flatMap_cons, List.append_assoc]

@[simp] theorem tokens_cons (text : List Char) (directive : Written) (reading : Reading) :
    (cons text directive reading).tokens = literal text ++ directive.token :: reading.tokens := by
  simp only [tokens, cons, List.flatMap_cons, List.append_assoc, List.cons_append, List.nil_append]

theorem wellFormed_cons {text : List Char} {directive : Written} {reading : Reading} :
    (cons text directive reading).WellFormed ↔
      (Unopened text ∧ text.getLast? ≠ some '{') ∧ directive.WellFormed ∧ reading.WellFormed := by
  constructor
  · intro h
    obtain ⟨htexts, hdirectives, hlast⟩ := h
    rw [cons, List.forall_mem_cons] at htexts hdirectives
    exact ⟨htexts.1, hdirectives.1, htexts.2, hdirectives.2, hlast⟩
  · intro h
    obtain ⟨htext, hdirective, htexts, hdirectives, hlast⟩ := h
    exact ⟨List.forall_mem_cons.mpr ⟨htext, htexts⟩, List.forall_mem_cons.mpr ⟨hdirective, hdirectives⟩, hlast⟩

end Reading

/-! ### Names and blanks -/

theorem trim_ne_nil_iff {s : List Char} : trim s ≠ [] ↔ ∃ c ∈ s, isBlank c = false := by
  rw [ne_eq, trim_eq_nil_iff]
  push Not
  simp only [Bool.not_eq_true]

theorem isBlank_of_mem_chars {mark : Mark} {c : Char} (h : c ∈ mark.chars) : isBlank c = false := by
  have hc : c = '{' ∨ c = '}' ∨ c = '(' ∨ c = ')' := by
    cases mark <;> simp [Mark.chars] at h <;> simp [h]
  obtain rfl | rfl | rfl | rfl := hc <;> rfl

/-- A character that is in no mark can be put at either end of a text. -/
theorem Unmarked.cons {c : Char} (hc : ∀ mark : Mark, c ∉ mark.chars) {s : List Char} (h : Unmarked s) : Unmarked (c :: s) := by
  intro mark hinside
  obtain hfront | hinside := List.infix_cons_iff.mp hinside
  · obtain hnil | ⟨rest, hchars, -⟩ := List.prefix_cons_iff.mp hfront
    · exact mark.chars_ne_nil hnil
    · exact hc mark (hchars ▸ List.mem_cons_self)
  · exact h mark hinside

theorem Unmarked.concat {c : Char} (hc : ∀ mark : Mark, c ∉ mark.chars) {s : List Char} (h : Unmarked s) : Unmarked (s ++ [c]) := by
  intro mark hinside
  obtain hend | hinside := List.infix_concat_iff.mp hinside
  · obtain hnil | ⟨front, hchars, -⟩ := List.suffix_concat_iff.mp hend
    · exact mark.chars_ne_nil hnil
    · exact hc mark (hchars ▸ List.mem_append_right front List.mem_cons_self)
  · exact h mark hinside

theorem unmarked_of_blank {s : List Char} (h : ∀ c ∈ s, isBlank c) : Unmarked s := by
  intro mark hinside
  obtain ⟨c, hc⟩ := List.exists_mem_of_ne_nil mark.chars mark.chars_ne_nil
  have hblank := h c (hinside.subset hc)
  rw [isBlank_of_mem_chars hc] at hblank
  contradiction

theorem getLast?_ne_of_blank {s : List Char} (h : ∀ c ∈ s, isBlank c) : s.getLast? ≠ Mark.closer.chars.head? := by
  intro hlast
  have hblank := h '}' (List.mem_of_getLast? hlast)
  rw [isBlank_of_mem_chars (show '}' ∈ Mark.closer.chars from List.mem_cons_self)] at hblank
  contradiction

theorem getLast?_ne_of_single {s : List Char} {mark : Mark} {c : Char} (hmark : mark.chars = [c]) (h : Unmarked s) :
    s.getLast? ≠ mark.chars.head? := by
  intro hlast
  rw [hmark] at hlast
  refine h mark ?_
  rw [hmark, List.singleton_infix_iff]
  exact List.mem_of_getLast? hlast

/-! ### The readers -/

theorem readCallEnd_eq_ok_iff {opener position : Nat} {token : Token} {s : List Char} {d : Directive} :
    readCallEnd opener position token s = .ok d ↔
      ∃ blanks, (∀ c ∈ blanks, isBlank c) ∧ s = blanks ++ (Mark.closer.chars ++ d.rest) ∧
        d.token = token ∧ d.next = position + byteSize blanks + 2 := by
  constructor
  · intro h
    unfold readCallEnd fault at h
    split at h
    · contradiction
    · next tail mark rest hfound =>
      obtain ⟨hs, -, -⟩ := upTo_markAt?_eq_some_iff.mp hfound
      cases mark with
      | closer =>
        dsimp only at h
        split at h
        · next hblank =>
          obtain rfl := Except.ok.inj h
          exact ⟨tail, List.all_eq_true.mp hblank, hs, rfl, rfl⟩
        · contradiction
      | opener => contradiction
      | paren => contradiction
      | endParen => contradiction
  · intro h
    obtain ⟨blanks, hblank, rfl, htoken, hnext⟩ := h
    rw [readCallEnd, upTo_markAt?_append .closer (unmarked_of_blank hblank) (getLast?_ne_of_blank hblank)]
    dsimp only
    rw [if_pos (List.all_eq_true.mpr hblank), ← htoken, ← hnext]

theorem readArgument_call {argument : List Char} (h : IsBody argument) (opener paren : Nat) (helper s : List Char) :
    readArgument opener paren helper (argument ++ (Mark.endParen.chars ++ s)) =
      readCallEnd opener (paren + 1 + byteSize argument + 1)
        (.call (String.ofList helper) (String.ofList (trim argument))) s := by
  rw [readArgument, upTo_markAt?_append .endParen h.unmarked (getLast?_ne_of_single rfl h.unmarked)]
  exact if_neg (trim_ne_nil_iff.mpr h.notBlank)

theorem readArgument_eq_ok_iff {opener paren : Nat} {helper s : List Char} {d : Directive} :
    readArgument opener paren helper s = .ok d ↔
      ∃ argument blanks, IsBody argument ∧ (∀ c ∈ blanks, isBlank c) ∧
        s = argument ++ (Mark.endParen.chars ++ (blanks ++ (Mark.closer.chars ++ d.rest))) ∧
        d.token = .call (String.ofList helper) (String.ofList (trim argument)) ∧
        d.next = paren + 1 + byteSize argument + 1 + byteSize blanks + 2 := by
  constructor
  · intro h
    unfold readArgument fault at h
    split at h
    · contradiction
    · next argument mark rest hfound =>
      obtain ⟨hs, hunmarked, -⟩ := upTo_markAt?_eq_some_iff.mp hfound
      cases mark with
      | endParen =>
        dsimp only at h
        split at h
        · contradiction
        · next hbody =>
          obtain ⟨blanks, hblank, hrest, htoken, hnext⟩ := readCallEnd_eq_ok_iff.mp h
          refine ⟨argument, blanks, ⟨hunmarked, trim_ne_nil_iff.mp hbody⟩, hblank, ?_, htoken, hnext⟩
          rw [← hrest]
          exact hs
      | opener => contradiction
      | closer => contradiction
      | paren => contradiction
  · intro h
    obtain ⟨argument, blanks, hbody, hblank, rfl, htoken, hnext⟩ := h
    rw [readArgument_call hbody]
    exact readCallEnd_eq_ok_iff.mpr ⟨blanks, hblank, rfl, htoken, hnext⟩

theorem readDirective_call {helper : List Char} (h : IsBody helper) (opener : Nat) (s : List Char) :
    readDirective opener (helper ++ (Mark.paren.chars ++ s)) =
      readArgument opener (opener + 2 + byteSize helper) (trim helper) s := by
  rw [readDirective, upTo_markAt?_append .paren h.unmarked (getLast?_ne_of_single rfl h.unmarked)]
  exact if_neg (trim_ne_nil_iff.mpr h.notBlank)

theorem readDirective_eq_ok_iff {opener : Nat} {s : List Char} {d : Directive} :
    readDirective opener s = .ok d ↔
      ∃ directive : Written, directive.WellFormed ∧ s = directive.inner ++ (Mark.closer.chars ++ d.rest) ∧
        d.token = directive.token ∧ d.next = opener + byteSize directive.chars := by
  constructor
  · intro h
    unfold readDirective fault at h
    split at h
    · contradiction
    · next name mark rest hfound =>
      obtain ⟨hs, hunmarked, hlast⟩ := upTo_markAt?_eq_some_iff.mp hfound
      cases mark with
      | closer =>
        dsimp only at h
        split at h
        · contradiction
        · next hbody =>
          obtain rfl := Except.ok.inj h
          refine ⟨.lookup name, ⟨⟨hunmarked, trim_ne_nil_iff.mp hbody⟩, hlast⟩, hs, rfl, ?_⟩
          rw [Written.byteSize_chars, Written.inner, ← Nat.add_assoc, ← Nat.add_assoc]
      | paren =>
        dsimp only at h
        split at h
        · contradiction
        · next hbody =>
          obtain ⟨argument, blanks, hargument, hblank, hrest, htoken, hnext⟩ := readArgument_eq_ok_iff.mp h
          refine ⟨.call name argument blanks, ⟨⟨hunmarked, trim_ne_nil_iff.mp hbody⟩, hargument, hblank⟩, ?_, htoken, ?_⟩
          · rw [hs, hrest, Written.inner_call_append]
          · rw [hnext, Written.byteSize_chars, Written.byteSize_inner_call]
            omega
      | opener => contradiction
      | endParen => contradiction
  · intro h
    obtain ⟨directive, hdirective, rfl, htoken, hnext⟩ := h
    cases directive with
    | lookup name =>
      obtain ⟨hbody, hlast⟩ := hdirective
      rw [Written.inner, readDirective, upTo_markAt?_append .closer hbody.unmarked hlast]
      dsimp only
      rw [if_neg (trim_ne_nil_iff.mpr hbody.notBlank)]
      rw [Written.byteSize_chars, Written.inner, ← Nat.add_assoc, ← Nat.add_assoc] at hnext
      rw [← hnext, show Token.lookup (String.ofList (trim name)) = d.token from htoken.symm]
    | call helper argument blanks =>
      obtain ⟨hhelper, hargument, hblank⟩ := hdirective
      rw [Written.inner_call_append, readDirective_call hhelper]
      refine readArgument_eq_ok_iff.mpr ⟨argument, blanks, hargument, hblank, rfl, htoken, ?_⟩
      rw [hnext, Written.byteSize_chars, Written.byteSize_inner_call]
      omega

/-- A directive that was read stands between the opener and the rest. -/
theorem opener_append_of_readDirective {opener : Nat} {s : List Char} {d : Directive}
    (h : readDirective opener s = .ok d) :
    ∃ directive : Written, directive.WellFormed ∧ Mark.opener.chars ++ s = directive.chars ++ d.rest ∧
      d.token = directive.token ∧ d.next = opener + byteSize directive.chars := by
  obtain ⟨directive, hdirective, rfl, htoken, hnext⟩ := readDirective_eq_ok_iff.mp h
  exact ⟨directive, hdirective, (directive.chars_append d.rest).symm, htoken, hnext⟩

/-! ### The scan -/

theorem scan_of_unopened {position : Nat} {s : List Char} (h : Unopened s) : scan position s = .ok (literal s) := by
  have hfound := upTo_openerAt?_eq_none_iff.mpr ⟨rfl, h⟩
  rw [scan]
  split
  · next text htext =>
    rw [hfound] at htext
    obtain ⟨rfl, -⟩ := Prod.mk.inj htext
    rfl
  · next text body htext =>
    rw [hfound] at htext
    simp at htext

/-- What the scan does at the first opener. -/
theorem scan_of_opener {position : Nat} {text body : List Char} (htext : Unopened text) (hlast : text.getLast? ≠ some '{') :
    scan position (text ++ (Mark.opener.chars ++ body)) =
      readDirective (position + byteSize text) body >>= fun d =>
        (scan d.next d.rest).map fun tokens => literal text ++ d.token :: tokens := by
  have hfound := upTo_openerAt?_append body htext hlast
  rw [scan]
  split
  · next text' htext' =>
    rw [hfound] at htext'
    simp at htext'
  · next text' body' htext' =>
    rw [hfound] at htext'
    obtain ⟨rfl, hbody⟩ := Prod.mk.inj htext'
    obtain rfl := Option.some.inj hbody
    split
    · next what hdirective => rw [hdirective]; rfl
    · next d hdirective =>
      rw [hdirective]
      change _ = (scan d.next d.rest).map fun tokens => literal text ++ d.token :: tokens
      split
      · next what hrest => rw [hrest]; rfl
      · next tokens hrest => rw [hrest]; rfl

theorem scan_eq_ok_iff {position : Nat} {s : List Char} {tokens : List Token} :
    scan position s = .ok tokens ↔
      ∃ reading : Reading, reading.WellFormed ∧ reading.chars = s ∧ reading.tokens = tokens := by
  constructor
  · intro h
    fun_induction scan position s generalizing tokens with
    | case1 position s text hopening =>
      obtain ⟨rfl, hunopened⟩ := upTo_openerAt?_eq_none_iff.mp hopening
      obtain rfl := Except.ok.inj h
      exact ⟨.nil text, Reading.wellFormed_nil.mpr hunopened, rfl, rfl⟩
    | case2 => contradiction
    | case3 => contradiction
    | case4 position s text body hopening d hdirective later hrest ih =>
      obtain ⟨rfl, htext⟩ := upTo_openerAt?_eq_some_iff.mp hopening
      obtain ⟨directive, hwritten, hbody, htoken, -⟩ := opener_append_of_readDirective hdirective
      obtain ⟨reading, hreading, hchars, htokens⟩ := ih hrest
      obtain rfl := Except.ok.inj h
      refine ⟨reading.cons text directive, Reading.wellFormed_cons.mpr ⟨htext, hwritten, hreading⟩, ?_, ?_⟩
      · rw [Reading.chars_cons, hchars, hbody]
      · rw [Reading.tokens_cons, htokens, htoken]
  · intro h
    obtain ⟨reading, hreading, rfl, rfl⟩ := h
    induction reading generalizing position with
    | nil last => exact scan_of_unopened hreading.last
    | cons text directive reading ih =>
      obtain ⟨⟨hunopened, hlast⟩, hwritten, hrest⟩ := Reading.wellFormed_cons.mp hreading
      let start := position + byteSize text
      have hdirective : readDirective start (directive.inner ++ (Mark.closer.chars ++ reading.chars)) =
          .ok ⟨directive.token, reading.chars, start + byteSize directive.chars⟩ :=
        readDirective_eq_ok_iff.mpr ⟨directive, hwritten, rfl, rfl, rfl⟩
      rw [Reading.chars_cons, Written.chars_append, scan_of_opener hunopened hlast, hdirective, Reading.tokens_cons]
      change (scan _ reading.chars).map _ = _
      rw [ih hrest]
      rfl

/-! ### One reading only -/

/-- The first mark of a text and what stands on its two sides are settled by the text. -/
theorem eq_of_append_mark (mark mark' : Mark) {text text' rest rest' : List Char}
    (htext : Unmarked text) (hlast : text.getLast? ≠ mark.chars.head?)
    (htext' : Unmarked text') (hlast' : text'.getLast? ≠ mark'.chars.head?)
    (h : text ++ (mark.chars ++ rest) = text' ++ (mark'.chars ++ rest')) : text = text' ∧ mark = mark' ∧ rest = rest' := by
  have hfound : upTo markAt? (text ++ (mark.chars ++ rest)) = _ := upTo_markAt?_append mark htext hlast
  rw [h, upTo_markAt?_append mark' htext' hlast'] at hfound
  simp only [Prod.mk.injEq, Option.some.injEq] at hfound
  exact ⟨hfound.1.symm, hfound.2.1.symm, hfound.2.2.symm⟩

theorem Written.eq_of_inner_append {directive other : Written} {rest rest' : List Char}
    (hdirective : directive.WellFormed) (hother : other.WellFormed)
    (h : directive.inner ++ (Mark.closer.chars ++ rest) = other.inner ++ (Mark.closer.chars ++ rest')) :
    directive = other ∧ rest = rest' := by
  have single {body : List Char} (mark : Mark) {c : Char} (hmark : mark.chars = [c]) (hbody : IsBody body) :
      body.getLast? ≠ mark.chars.head? := getLast?_ne_of_single hmark hbody.unmarked
  cases directive with
  | lookup name =>
    obtain ⟨hname, hlast⟩ := hdirective
    cases other with
    | lookup name' =>
      obtain ⟨hname', hlast'⟩ := hother
      obtain ⟨rfl, -, rfl⟩ := eq_of_append_mark .closer .closer hname.unmarked hlast hname'.unmarked hlast' h
      exact ⟨rfl, rfl⟩
    | call helper' argument' blanks' =>
      obtain ⟨hhelper', -, -⟩ := hother
      rw [inner_call_append] at h
      obtain ⟨-, hmark, -⟩ := eq_of_append_mark .closer .paren hname.unmarked hlast hhelper'.unmarked
        (single .paren rfl hhelper') h
      contradiction
  | call helper argument blanks =>
    obtain ⟨hhelper, hargument, hblank⟩ := hdirective
    rw [inner_call_append] at h
    cases other with
    | lookup name' =>
      obtain ⟨hname', hlast'⟩ := hother
      obtain ⟨-, hmark, -⟩ := eq_of_append_mark .paren .closer hhelper.unmarked (single .paren rfl hhelper)
        hname'.unmarked hlast' h
      contradiction
    | call helper' argument' blanks' =>
      obtain ⟨hhelper', hargument', hblank'⟩ := hother
      rw [inner_call_append] at h
      obtain ⟨rfl, -, hafter⟩ := eq_of_append_mark .paren .paren hhelper.unmarked (single .paren rfl hhelper)
        hhelper'.unmarked (single .paren rfl hhelper') h
      obtain ⟨rfl, -, hend⟩ := eq_of_append_mark .endParen .endParen hargument.unmarked (single .endParen rfl hargument)
        hargument'.unmarked (single .endParen rfl hargument') hafter
      obtain ⟨rfl, -, rfl⟩ := eq_of_append_mark .closer .closer (unmarked_of_blank hblank) (getLast?_ne_of_blank hblank)
        (unmarked_of_blank hblank') (getLast?_ne_of_blank hblank') hend
      exact ⟨rfl, rfl⟩

theorem eq_of_append_opener {text text' rest rest' : List Char}
    (htext : Unopened text ∧ text.getLast? ≠ some '{') (htext' : Unopened text' ∧ text'.getLast? ≠ some '{')
    (h : text ++ (Mark.opener.chars ++ rest) = text' ++ (Mark.opener.chars ++ rest')) : text = text' ∧ rest = rest' := by
  have hfound := upTo_openerAt?_append rest htext.1 htext.2
  rw [h, upTo_openerAt?_append rest' htext'.1 htext'.2] at hfound
  simp only [Prod.mk.injEq, Option.some.injEq] at hfound
  exact ⟨hfound.1.symm, hfound.2.symm⟩

theorem not_unopened_chars_cons (text : List Char) (directive : Written) (reading : Reading) :
    ¬ Unopened (reading.cons text directive).chars := by
  rw [Reading.chars_cons, Written.chars_append]
  exact fun h => h ⟨text, _, List.append_assoc ..⟩

theorem Reading.eq_of_chars_eq {reading other : Reading} (hreading : reading.WellFormed) (hother : other.WellFormed)
    (h : reading.chars = other.chars) : reading = other := by
  induction reading generalizing other with
  | nil last =>
    cases other with
    | nil last' => exact congrArg nil h
    | cons text' directive' other => exact absurd (h ▸ hreading.last) (not_unopened_chars_cons text' directive' other)
  | cons text directive reading ih =>
    cases other with
    | nil last' => exact absurd (h ▸ hother.last) (not_unopened_chars_cons text directive reading)
    | cons text' directive' other =>
      obtain ⟨htext, hdirective, hrest⟩ := wellFormed_cons.mp hreading
      obtain ⟨htext', hdirective', hrest'⟩ := wellFormed_cons.mp hother
      rw [chars_cons, chars_cons, Written.chars_append, Written.chars_append] at h
      obtain ⟨rfl, hinner⟩ := eq_of_append_opener htext htext' h
      obtain ⟨rfl, hchars⟩ := Written.eq_of_inner_append hdirective hdirective' hinner
      rw [ih hrest hrest' hchars]

/-! ### Tokenizing -/

/-- The reading takes up the whole format. -/
structure Reading.Spells (reading : Reading) (format : String) : Prop where
  wellFormed : reading.WellFormed
  chars : reading.chars = format.toList

end Template

theorem tokenize_eq_ok_iff {format : String} {tokens : List Token} :
    tokenize format = .ok tokens ↔ ∃ reading : Template.Reading, reading.Spells format ∧ reading.tokens = tokens := by
  rw [tokenize, Template.scan_eq_ok_iff]
  constructor
  · intro h
    obtain ⟨reading, hreading, hchars, htokens⟩ := h
    exact ⟨reading, ⟨hreading, hchars⟩, htokens⟩
  · intro h
    obtain ⟨reading, ⟨hreading, hchars⟩, htokens⟩ := h
    exact ⟨reading, hreading, hchars, htokens⟩

/-- A format that is a single directive. -/
theorem tokenize_directive {directive : Template.Written} (h : directive.WellFormed) :
    tokenize (String.ofList directive.chars) = .ok [directive.token] := by
  have hempty : Template.Unopened [] := Template.unmarked_nil.unopened
  refine tokenize_eq_ok_iff.mpr ⟨(Template.Reading.nil []).cons [] directive, ⟨?_, ?_⟩, ?_⟩
  · rw [Template.Reading.wellFormed_cons, Template.Reading.wellFormed_nil]
    exact ⟨⟨hempty, by simp⟩, h, hempty⟩
  · rw [Template.Reading.chars_cons, Template.Reading.chars_nil, String.toList_ofList, List.nil_append, List.append_nil]
  · rw [Template.Reading.tokens_cons]
    rfl

theorem tokenize_eq_error_iff {format : String} :
    (∃ what, tokenize format = .error what) ↔ ∀ reading : Template.Reading, ¬ reading.Spells format := by
  constructor
  · intro h reading hspells
    obtain ⟨what, hwhat⟩ := h
    have hok := tokenize_eq_ok_iff.mpr ⟨reading, hspells, rfl⟩
    rw [hwhat] at hok
    contradiction
  · intro hnone
    cases htokens : tokenize format with
    | error what => exact ⟨what, rfl⟩
    | ok tokens =>
      obtain ⟨reading, hspells, -⟩ := tokenize_eq_ok_iff.mp htokens
      exact absurd hspells (hnone reading)

/-- A format is accepted exactly when it has a reading, it has no second one, and its tokens are those of the reading. -/
theorem tokenize_iff_unique_reading (format : String) :
    (∀ tokens, tokenize format = .ok tokens ↔
      ∃ reading : Template.Reading, reading.Spells format ∧ reading.tokens = tokens) ∧
    (∀ reading other : Template.Reading, reading.Spells format → other.Spells format → reading = other) ∧
    ((∃ what, tokenize format = .error what) ↔ ∀ reading : Template.Reading, ¬ reading.Spells format) := by
  refine ⟨fun tokens => tokenize_eq_ok_iff, ?_, tokenize_eq_error_iff⟩
  intro reading other hreading hother
  apply Template.Reading.eq_of_chars_eq hreading.wellFormed hother.wellFormed
  rw [hreading.chars, hother.chars]

/-- The first two closing braces end the directive, and what is left of a run of braces is text. -/
example : tokenize "\x7b\x7ba \x7d\x7d\x7d(" = .ok [.lookup "a", .literal "\x7d("] := by decide +kernel

end NowPlaying
