import Mathlib.Data.List.Chain
import NowPlaying.Proofs.Template.Grammar
import NowPlaying.Template

/-!
# Tokens spelled out again

The tokens of a format are well formed: texts hold no opener and stand between directives, names are trimmed and without marks. Spelling such tokens gives a format with the same tokens again, with one exception. A name that ends with a closing brace was kept apart from the closing braces by a blank, and the spelling leaves blanks out.

That nothing else can go wrong is read off the grammar. That the exception always does is a matter of length: the spelling of a reading is never longer than the format, and shorter where such a name occurs.
-/

namespace NowPlaying

open Template Text

/-! ### Well-formed tokens -/

/-- A name as a token holds it. -/
structure IsName (name : String) : Prop where
  nonempty : name ≠ ""
  trimmed : trim name.toList = name.toList
  unmarked : Unmarked name.toList

namespace Token

def WellFormed : Token → Prop
  | .literal text => text ≠ "" ∧ Unopened text.toList
  | .lookup name => IsName name
  | .call helper argument => IsName helper ∧ IsName argument

/-- The second token may stand right behind the first one. -/
def Precedes : Token → Token → Prop
  | .literal _, .literal _ => False
  | .literal text, _ => text.toList.getLast? ≠ some '{'
  | _, _ => True

def IsDirective : Token → Prop
  | .literal _ => False
  | _ => True

/-- The token is a lookup of a name that ends with a closing brace. -/
def EndsInBrace : Token → Prop
  | .lookup name => name.toList.getLast? = some '}'
  | _ => False

end Token

structure WellFormedTokens (tokens : List Token) : Prop where
  each : ∀ token ∈ tokens, token.WellFormed
  chain : tokens.IsChain Token.Precedes

/-- The format that spells the tokens one after the other. -/
def spell (tokens : List Token) : String := String.join (tokens.map Token.spelling)

theorem toList_spell (tokens : List Token) : (spell tokens).toList = tokens.flatMap fun token => token.spelling.toList := by
  rw [spell, String.toList_join, List.flatMap_map]

theorem toList_spell_cons (token : Token) (tokens : List Token) :
    (spell (token :: tokens)).toList = token.spelling.toList ++ (spell tokens).toList := by
  rw [toList_spell, toList_spell, List.flatMap_cons]

theorem wellFormedTokens_cons {token : Token} {tokens : List Token} :
    WellFormedTokens (token :: tokens) ↔
      token.WellFormed ∧ (∀ next ∈ tokens.head?, token.Precedes next) ∧ WellFormedTokens tokens := by
  constructor
  · intro h
    obtain ⟨heach, hchain⟩ := h
    rw [List.forall_mem_cons] at heach
    rw [List.isChain_cons] at hchain
    exact ⟨heach.1, hchain.1, heach.2, hchain.2⟩
  · intro h
    obtain ⟨htoken, hnext, heach, hchain⟩ := h
    exact ⟨List.forall_mem_cons.mpr ⟨htoken, heach⟩, List.isChain_cons.mpr ⟨hnext, hchain⟩⟩

/-! ### Names -/

theorem isName_trim {body : List Char} (h : IsBody body) : IsName (String.ofList (trim body)) := by
  refine ⟨?_, ?_, ?_⟩
  · intro hempty
    have hnil : trim body = [] := by simpa using congrArg String.toList hempty
    exact trim_ne_nil_iff.mpr h.notBlank hnil
  · rw [String.toList_ofList, trim_trim]
  · rw [String.toList_ofList]
    exact h.unmarked.of_infix (trim_isInfix body)

theorem IsName.isBody {name : String} (h : IsName name) : IsBody name.toList := by
  refine ⟨h.unmarked, trim_ne_nil_iff.mp ?_⟩
  rw [h.trimmed]
  intro hnil
  exact h.nonempty (String.toList_eq_nil_iff.mp hnil)

theorem Template.Written.WellFormed.token_wellFormed {directive : Written} (h : directive.WellFormed) :
    directive.token.WellFormed := by
  cases directive with
  | lookup name => exact isName_trim h.1
  | call helper argument blanks => exact ⟨isName_trim h.1, isName_trim h.2.1⟩

theorem Template.Written.token_isDirective (directive : Written) : directive.token.IsDirective := by
  cases directive <;> trivial

theorem Token.IsDirective.precedes {token : Token} (h : token.IsDirective) (next : Token) : token.Precedes next := by
  cases token with
  | literal text => exact absurd h id
  | lookup name => trivial
  | call helper argument => trivial

/-! ### Every format has well-formed tokens -/

theorem wellFormedTokens_nil : WellFormedTokens [] := ⟨by simp, .nil⟩

theorem wellFormedTokens_literal_append {text : List Char} {tokens : List Token} (htext : Unopened text)
    (hnext : ∀ next ∈ tokens.head?, next.IsDirective ∧ text.getLast? ≠ some '{') (htokens : WellFormedTokens tokens) :
    WellFormedTokens (literal text ++ tokens) := by
  by_cases hnil : text = []
  · rw [literal, if_pos hnil]
    exact htokens
  · rw [literal, if_neg hnil, List.singleton_append, wellFormedTokens_cons]
    refine ⟨⟨?_, ?_⟩, ?_, htokens⟩
    · simpa using hnil
    · rw [String.toList_ofList]
      exact htext
    · intro next hmem
      obtain ⟨hdirective, hlast⟩ := hnext next hmem
      cases next with
      | literal other => exact absurd hdirective id
      | lookup name => simpa [Token.Precedes] using hlast
      | call helper argument => simpa [Token.Precedes] using hlast

theorem Template.Reading.WellFormed.wellFormedTokens {reading : Reading} (h : reading.WellFormed) :
    WellFormedTokens reading.tokens := by
  induction reading with
  | nil last =>
    have hlast := wellFormedTokens_literal_append h.last (by simp) wellFormedTokens_nil
    rwa [List.append_nil] at hlast
  | cons text directive reading ih =>
    obtain ⟨htext, hdirective, hrest⟩ := wellFormed_cons.mp h
    have hnext := directive.token_isDirective
    rw [tokens_cons]
    refine wellFormedTokens_literal_append htext.1 ?_ ?_
    · intro next hmem
      obtain rfl : directive.token = next := by simpa using hmem
      exact ⟨hnext, htext.2⟩
    · rw [wellFormedTokens_cons]
      exact ⟨hdirective.token_wellFormed, fun next _ => hnext.precedes next, ih hrest⟩

theorem wellFormedTokens_of_tokenize {format : String} {tokens : List Token} (h : tokenize format = .ok tokens) :
    WellFormedTokens tokens := by
  obtain ⟨reading, hspells, rfl⟩ := tokenize_eq_ok_iff.mp h
  exact hspells.wellFormed.wellFormedTokens

theorem Template.wellFormed (template : Template) {token : Token} (h : token ∈ template.tokens) : token.WellFormed :=
  (wellFormedTokens_of_tokenize template.read).each token h

/-! ### Reading a spelling -/

/-- A directive without blanks, for a token whose name does not run into the closing braces. -/
theorem Token.exists_written {token : Token} (htoken : token.WellFormed) (hdirective : token.IsDirective)
    (hbrace : ¬ token.EndsInBrace) :
    ∃ directive : Written, directive.WellFormed ∧ directive.chars = token.spelling.toList ∧ directive.token = token := by
  cases token with
  | literal text => exact absurd hdirective id
  | lookup name =>
    refine ⟨.lookup name.toList, ⟨htoken.isBody, hbrace⟩, ?_, ?_⟩
    · simp [Written.chars, Written.inner, spelling]
    · rw [Written.token, htoken.trimmed, String.ofList_toList]
  | call helper argument =>
    obtain ⟨hhelper, hargument⟩ := htoken
    refine ⟨.call helper.toList argument.toList [], ⟨hhelper.isBody, hargument.isBody, by simp⟩, ?_, ?_⟩
    · simp [Written.chars, Written.inner, spelling]
    · rw [Written.token, hhelper.trimmed, hargument.trimmed, String.ofList_toList, String.ofList_toList]

theorem literal_eq_nil_of_precedes {text : String} {later : List Char} {tokens : List Token}
    (h : ∀ next ∈ (literal later ++ tokens).head?, (Token.literal text).Precedes next) : later = [] := by
  by_contra hlater
  rw [literal, if_neg hlater] at h
  exact h (.literal (String.ofList later)) rfl

/-- A reading whose tokens may stand behind a text begins with no text of its own. -/
theorem exists_reading_literal {text : String} {reading : Reading} (htext : (Token.literal text).WellFormed)
    (hnext : ∀ next ∈ reading.tokens.head?, (Token.literal text).Precedes next) (hreading : reading.WellFormed) :
    ∃ longer : Reading, longer.WellFormed ∧ longer.chars = text.toList ++ reading.chars ∧
      longer.tokens = .literal text :: reading.tokens := by
  obtain ⟨hnonempty, hunopened⟩ := htext
  have hliteral : literal text.toList = [.literal text] := by
    rw [literal, if_neg (by simpa using hnonempty), String.ofList_toList]
  cases reading with
  | nil last =>
    rw [Reading.tokens_nil, ← List.append_nil (literal last)] at hnext
    obtain rfl := literal_eq_nil_of_precedes hnext
    exact ⟨.nil text.toList, Reading.wellFormed_nil.mpr hunopened, (List.append_nil _).symm, hliteral⟩
  | cons later directive reading =>
    obtain ⟨-, hdirective, hrest⟩ := Reading.wellFormed_cons.mp hreading
    rw [Reading.tokens_cons] at hnext
    obtain rfl := literal_eq_nil_of_precedes hnext
    have hlast : text.toList.getLast? ≠ some '{' := by
      have hprecedes := hnext directive.token rfl
      cases directive <;> exact hprecedes
    refine ⟨reading.cons text.toList directive, Reading.wellFormed_cons.mpr ⟨⟨hunopened, hlast⟩, hdirective, hrest⟩, ?_, ?_⟩
    · rw [Reading.chars_cons, Reading.chars_cons, List.nil_append]
    · rw [Reading.tokens_cons, Reading.tokens_cons, hliteral]
      rfl

theorem exists_reading_of_wellFormedTokens {tokens : List Token} (h : WellFormedTokens tokens)
    (hbrace : ∀ token ∈ tokens, ¬ token.EndsInBrace) :
    ∃ reading : Reading, reading.WellFormed ∧ reading.chars = (spell tokens).toList ∧ reading.tokens = tokens := by
  induction tokens with
  | nil => exact ⟨.nil [], Reading.wellFormed_nil.mpr unmarked_nil.unopened, rfl, rfl⟩
  | cons token tokens ih =>
    obtain ⟨htoken, hnext, htokens⟩ := wellFormedTokens_cons.mp h
    rw [List.forall_mem_cons] at hbrace
    obtain ⟨reading, hreading, hchars, rfl⟩ := ih htokens hbrace.2
    rw [toList_spell_cons, ← hchars]
    by_cases hdirective : token.IsDirective
    · obtain ⟨directive, hwritten, hspelling, rfl⟩ := token.exists_written htoken hdirective hbrace.1
      refine ⟨reading.cons [] directive, Reading.wellFormed_cons.mpr ⟨?_, hwritten, hreading⟩, ?_, ?_⟩
      · exact ⟨unmarked_nil.unopened, by simp⟩
      · rw [Reading.chars_cons, hspelling, List.nil_append]
      · rw [Reading.tokens_cons, literal, if_pos rfl, List.nil_append]
    · cases token with
      | literal text => exact exists_reading_literal htoken hnext hreading
      | lookup name => exact absurd trivial hdirective
      | call helper argument => exact absurd trivial hdirective

/-! ### What a spelling leaves out -/

theorem length_spelling_lookup (name : List Char) :
    (Token.lookup (String.ofList name)).spelling.toList.length = name.length + 4 := by
  simp [Token.spelling]

theorem Template.Written.length_spelling_le (directive : Written) :
    directive.token.spelling.toList.length ≤ directive.chars.length := by
  cases directive with
  | lookup name =>
    have hname := (trim_isInfix name).length_le
    rw [token, length_spelling_lookup]
    simp only [chars, inner, List.length_cons, List.length_append, List.length_nil]
    omega
  | call helper argument blanks =>
    have hhelper := (trim_isInfix helper).length_le
    have hargument := (trim_isInfix argument).length_le
    simp only [token, Token.spelling, String.toList_append, String.toList_ofList, chars, inner, List.length_cons,
      List.length_append, List.length_nil]
    change 2 + _ + 1 + _ + 3 ≤ _
    omega

/-- A name that ends with a closing brace had a blank behind it. -/
theorem Template.Written.length_spelling_lt {directive : Written} (hdirective : directive.WellFormed)
    (hbrace : directive.token.EndsInBrace) : directive.token.spelling.toList.length < directive.chars.length := by
  cases directive with
  | call helper argument blanks => exact absurd hbrace id
  | lookup name =>
    have hshorter : (trim name).length < name.length := by
      refine lt_of_le_of_ne (trim_isInfix name).length_le fun hlength => ?_
      have hsame := (trim_isInfix name).eq_of_length hlength
      rw [token, Token.EndsInBrace, String.toList_ofList, hsame] at hbrace
      exact hdirective.2 hbrace
    rw [token, length_spelling_lookup]
    simp only [chars, inner, List.length_cons, List.length_append, List.length_nil]
    omega

theorem toList_spell_literal_append (text : List Char) (tokens : List Token) :
    (spell (literal text ++ tokens)).toList = text ++ (spell tokens).toList := by
  by_cases hnil : text = []
  · rw [literal, if_pos hnil, hnil]
    rfl
  · rw [literal, if_neg hnil, List.singleton_append, toList_spell_cons, Token.spelling, String.toList_ofList]

theorem Template.Reading.toList_spell_tokens_nil (last : List Char) : (spell (nil last).tokens).toList = last := by
  have hlast := toList_spell_literal_append last []
  rw [List.append_nil] at hlast
  exact hlast.trans (List.append_nil last)

theorem Template.Reading.toList_spell_tokens_cons (text : List Char) (directive : Written) (reading : Reading) :
    (spell (reading.cons text directive).tokens).toList =
      text ++ (directive.token.spelling.toList ++ (spell reading.tokens).toList) := by
  rw [tokens_cons, toList_spell_literal_append, toList_spell_cons]

theorem Template.Reading.length_spell_le (reading : Reading) :
    (spell reading.tokens).toList.length ≤ reading.chars.length := by
  induction reading with
  | nil last =>
    rw [toList_spell_tokens_nil, chars_nil]
  | cons text directive reading ih =>
    have hdirective := directive.length_spelling_le
    rw [toList_spell_tokens_cons, chars_cons]
    simp only [List.length_append]
    omega

theorem Template.Reading.length_spell_lt {reading : Reading} (hreading : reading.WellFormed) {token : Token}
    (htoken : token ∈ reading.tokens) (hbrace : token.EndsInBrace) :
    (spell reading.tokens).toList.length < reading.chars.length := by
  have hliteral {text : List Char} (hmem : token ∈ literal text) : False := by
    rw [literal] at hmem
    split at hmem
    · simp at hmem
    · obtain rfl := List.mem_singleton.mp hmem
      exact hbrace
  induction reading with
  | nil last => exact (hliteral htoken).elim
  | cons text directive reading ih =>
    obtain ⟨-, hdirective, hrest⟩ := wellFormed_cons.mp hreading
    have hle := directive.length_spelling_le
    have hrestLe := reading.length_spell_le
    rw [tokens_cons, List.mem_append, List.mem_cons] at htoken
    rw [toList_spell_tokens_cons, chars_cons]
    simp only [List.length_append]
    rcases htoken with hmem | rfl | hmem
    · exact (hliteral hmem).elim
    · have hlt := Written.length_spelling_lt hdirective hbrace
      omega
    · have hlt := ih hrest hmem
      omega

/-- Tokens of a format are well formed, and well-formed tokens are the tokens of their spelling exactly when no name that is looked up ends with a closing brace. -/
theorem tokenize_spell_iff :
    (∀ format tokens, tokenize format = .ok tokens → WellFormedTokens tokens) ∧
    ∀ tokens, WellFormedTokens tokens →
      (tokenize (spell tokens) = .ok tokens ↔ ∀ name, .lookup name ∈ tokens → name.toList.getLast? ≠ some '}') := by
  refine ⟨fun format tokens => wellFormedTokens_of_tokenize, fun tokens htokens => ?_⟩
  constructor
  · intro h name hmem hbrace
    obtain ⟨reading, ⟨hreading, hchars⟩, rfl⟩ := tokenize_eq_ok_iff.mp h
    have hlt := reading.length_spell_lt hreading hmem hbrace
    rw [hchars] at hlt
    exact absurd hlt (lt_irrefl _)
  · intro h
    have hbrace : ∀ token ∈ tokens, ¬ token.EndsInBrace := by
      intro token hmem hends
      cases token with
      | literal text => exact hends
      | lookup name => exact h name hmem hends
      | call helper argument => exact hends
    obtain ⟨reading, hreading, hchars, hsame⟩ := exists_reading_of_wellFormedTokens htokens hbrace
    exact tokenize_eq_ok_iff.mpr ⟨reading, ⟨hreading, hchars⟩, hsame⟩

/-- Without the blank behind it, a name that ends with a closing brace loses the brace to the text. -/
example : tokenize (spell [.lookup "a\x7d"]) = .ok [.lookup "a", .literal "\x7d"] := by decide +kernel

end NowPlaying
