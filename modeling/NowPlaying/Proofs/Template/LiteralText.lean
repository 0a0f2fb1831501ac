import NowPlaying.Proofs.Template.Concatenation
import NowPlaying.Proofs.Template.Names

/-!
# Literal text is never a directive

Where no name of a format has a value, the output is the literal text of the format, piece by piece. No piece holds an opener, and none can make one with what follows it: the reading takes the first two of several braces for the opener, so no piece in front of a directive ends with an opening brace. The output is therefore text throughout, and expanding it once more gives it back.
-/

namespace NowPlaying

open Template Text

/-- The text that stands in a format for itself. -/
def Token.text? : Token → Option String
  | .literal text => some text
  | _ => none

def literalText (tokens : List Token) : String := String.join (tokens.filterMap Token.text?)

/-! ### Pieces without openers -/

namespace Template

theorem Unopened.append {text rest : List Char} (htext : Unopened text) (hlast : text.getLast? ≠ some '{')
    (hrest : Unopened rest) : Unopened (text ++ rest) := by
  have hseam : ¬ Mark.opener.Straddles text rest := by
    rintro ⟨c, hmark, hend, -⟩
    obtain rfl : '{' = c := (List.cons.inj hmark).1
    exact hlast hend
  have hnone := upTo_append (clear_openerAt?_iff.mpr ⟨htext, hseam⟩)
  rw [upTo_openerAt?_eq_none_iff.mpr ⟨rfl, hrest⟩] at hnone
  exact (upTo_openerAt?_eq_none_iff.mp hnone).2

theorem literalText_literal_append (text : List Char) (tokens : List Token) :
    literalText (literal text ++ tokens) = String.ofList text ++ literalText tokens := by
  rw [literal]
  split
  · next hnil =>
    rw [hnil, List.nil_append, String.ofList_nil, String.empty_append]
  · exact String.join_cons

theorem literalText_literal (text : List Char) : literalText (literal text) = String.ofList text := by
  have hpiece := literalText_literal_append text []
  rw [List.append_nil] at hpiece
  exact hpiece.trans String.append_empty

theorem literalText_directive_cons (directive : Written) (tokens : List Token) :
    literalText (directive.token :: tokens) = literalText tokens := by
  cases directive <;> rfl

theorem Reading.WellFormed.unopened_literalText {reading : Reading} (h : reading.WellFormed) :
    Unopened (literalText reading.tokens).toList := by
  induction reading with
  | nil last =>
    rw [tokens_nil, literalText_literal, String.toList_ofList]
    exact wellFormed_nil.mp h
  | cons text directive reading ih =>
    obtain ⟨⟨htext, hlast⟩, -, hrest⟩ := wellFormed_cons.mp h
    rw [tokens_cons, literalText_literal_append, literalText_directive_cons, String.toList_append, String.toList_ofList]
    exact htext.append hlast (ih hrest)

end Template

/-! ### Output without values -/

theorem contribution_of_absent {token : Token} {context : Context}
    (h : ∀ name, token.name? = some name → context.get? name = none) (registry : Registry) :
    token.contribution registry context = token.text?.getD "" := by
  cases token with
  | literal text => rfl
  | lookup name => exact Token.contribution_of_get?_eq_none rfl (h name rfl) registry
  | call helper argument => exact Token.contribution_of_get?_eq_none rfl (h argument rfl) registry

theorem contributions_of_absent {tokens : List Token} {context : Context}
    (h : ∀ name ∈ namesOf tokens, context.get? name = none) (registry : Registry) :
    contributions registry context tokens = literalText tokens := by
  have htoken : ∀ token ∈ tokens, token.contribution registry context = token.text?.getD "" := by
    intro token hmem
    refine contribution_of_absent (fun name hname => ?_) registry
    exact h name (mem_namesOf_iff.mpr ⟨token, hmem, hname⟩)
  rw [contributions, List.map_congr_left htoken, literalText]
  clear h htoken
  induction tokens with
  | nil => rfl
  | cons token tokens ih =>
    rw [List.map_cons, String.join_cons, ih]
    cases htext : token.text? with
    | none => rw [List.filterMap_cons_none htext, Option.getD_none, String.empty_append]
    | some text => rw [List.filterMap_cons_some htext, String.join_cons, Option.getD_some]

/-- A format without an opener is its own output. -/
theorem expand_of_unopened {output : String} (h : Unopened output.toList) (registry : Registry) (context : Context) :
    (Engine.mk registry none).expand output context = .ok output := by
  have hnames : namesOf (literal output.toList) = [] := by
    rw [literal]
    split <;> rfl
  have hcalls : ∀ helper argument, .call helper argument ∉ literal output.toList := by
    intro helper argument
    rw [literal]
    split <;> simp
  rw [expand_of_tokenize registry context (scan_of_unopened h), render_eq_ok_iff]
  refine ⟨fun helper argument hcall => absurd hcall (hcalls helper argument), ?_⟩
  rw [contributions_of_absent (by simp [hnames]), literalText_literal, String.ofList_toList]

/-- Where no name of a format has a value, the output is the literal text of the format. It holds no opener, also where directives have vanished, and is its own output in every context and under every registry. -/
theorem expand_without_values {registry : Registry} {context : Context} {format output : String}
    (habsent : ∀ template, Template.parse format = .ok template → ∀ name ∈ template.names, context.get? name = none)
    (h : (Engine.mk registry none).expand format context = .ok output) :
    (∃ tokens, tokenize format = .ok tokens ∧ output = String.join (tokens.filterMap Token.text?)) ∧
    Unopened output.toList ∧
    ∀ (other : Registry) (context' : Context), (Engine.mk other none).expand output context' = .ok output := by
  obtain ⟨tokens, htokens⟩ : ∃ tokens, tokenize format = .ok tokens := by
    rw [Engine.expand_eq_unlessFailed, unlessFailed_eq_ok_iff, Option.or_eq_none_iff, Option.or_eq_none_iff] at h
    exact syntaxError?_eq_none_iff.mp h.1.1.2
  rw [expand_of_tokenize registry context htokens, render_eq_ok_iff] at h
  obtain ⟨-, rfl⟩ := h
  rw [contributions_of_absent (habsent _ (Template.parse_of_tokenize htokens))]
  obtain ⟨reading, hspells, rfl⟩ := tokenize_eq_ok_iff.mp htokens
  have hunopened := hspells.wellFormed.unopened_literalText
  exact ⟨⟨reading.tokens, htokens, rfl⟩, hunopened, fun other context' => expand_of_unopened hunopened other context'⟩

/-- Of three braces the first two are the opener, so the text in front of it ends before them. -/
theorem expand_without_values_braces :
    (Engine.mk Registry.builtIn none).expand "\x7d\x7b\x7ba\x7d\x7d\x7d\x7b\x7b\x7bb\x7d\x7d\x7b" NameMap.empty = .ok "\x7d\x7d\x7b" ∧
      ∀ registry context, (Engine.mk registry none).expand "\x7d\x7d\x7b" context = .ok "\x7d\x7d\x7b" := by
  have h : (Engine.mk Registry.builtIn none).expand "\x7d\x7b\x7ba\x7d\x7d\x7d\x7b\x7b\x7bb\x7d\x7d\x7b" NameMap.empty =
      .ok "\x7d\x7d\x7b" := by
    have htokens : tokenize "\x7d\x7b\x7ba\x7d\x7d\x7d\x7b\x7b\x7bb\x7d\x7d\x7b" =
        .ok [.literal "\x7d", .lookup "a", .literal "\x7d", .lookup "\x7bb", .literal "\x7b"] := by decide +kernel
    rw [expand_of_tokenize _ _ htokens]
    rfl
  exact ⟨h, (expand_without_values (fun _ _ _ _ => rfl) h).2.2⟩

end NowPlaying
