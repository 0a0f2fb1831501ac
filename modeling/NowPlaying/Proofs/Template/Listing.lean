import NowPlaying.Proofs.Template.Description
import NowPlaying.Proofs.Text.Quoted

/-!
# Listings tell formats apart

The description of a token says which token it is: its first letter tells the kind, quoted text can be read back, and since names hold no parentheses a call shows where its helper and its argument end, marked or not. So formats with the same listing have the same tokens.
-/

namespace NowPlaying

open Template Text

namespace Token

/-- The letter that the description of a token begins with. -/
def initial : Token → Char
  | .literal _ => 't'
  | .lookup _ => 'v'
  | .call _ _ => 'f'

theorem head?_describe (registry : Registry) (token : Token) : (token.describe registry).toList.head? = some token.initial := by
  cases token with
  | literal text => rw [describe, String.toList_append]; rfl
  | lookup name => rw [describe, String.toList_append]; rfl
  | call helper argument => simp only [describe, String.toList_append]; rfl

theorem toList_describe_call (registry : Registry) (helper argument : String) :
    ((call helper argument).describe registry).toList =
      "function  ".toList ++ (helper.toList ++ (Mark.paren.chars ++ (argument.toList ++ (Mark.endParen.chars ++
        (if registry.contains helper then "" else unknownMark).toList)))) := by
  simp only [describe, String.toList_append, List.append_assoc]
  rfl

/-- Only well-formed calls are told apart: a helper with a parenthesis in its name could take over a part of the argument. -/
theorem describe_inj {registry : Registry} {token other : Token} (htoken : token.WellFormed) (hother : other.WellFormed)
    (h : token.describe registry = other.describe registry) : token = other := by
  have hinitial : token.initial = other.initial := by
    have hhead := congrArg (fun line => line.toList.head?) h
    simp only [head?_describe] at hhead
    exact Option.some.inj hhead
  cases token with
  | literal text =>
    cases other with
    | literal text' => exact congrArg literal (quoted_injective (String.append_right_inj _ |>.mp h))
    | lookup | call => simp [initial] at hinitial
  | lookup name =>
    cases other with
    | lookup name' => exact congrArg lookup (String.append_right_inj _ |>.mp h)
    | literal | call => simp [initial] at hinitial
  | call helper argument =>
    cases other with
    | call helper' argument' =>
      obtain ⟨hhelper, hargument⟩ := htoken
      obtain ⟨hhelper', hargument'⟩ := hother
      have hlist := congrArg String.toList h
      rw [toList_describe_call, toList_describe_call, List.append_cancel_left_eq] at hlist
      obtain ⟨hsame, -, hbehind⟩ := eq_of_append_mark .paren .paren
        hhelper.unmarked (getLast?_ne_of_single rfl hhelper.unmarked)
        hhelper'.unmarked (getLast?_ne_of_single rfl hhelper'.unmarked) hlist
      obtain ⟨hsame', -, -⟩ := eq_of_append_mark .endParen .endParen
        hargument.unmarked (getLast?_ne_of_single rfl hargument.unmarked)
        hargument'.unmarked (getLast?_ne_of_single rfl hargument'.unmarked) hbehind
      rw [String.toList_injective hsame, String.toList_injective hsame']
    | literal | lookup => simp [initial] at hinitial

end Token

theorem eq_of_map_describe_eq {registry : Registry} {tokens others : List Token} (htokens : ∀ token ∈ tokens, token.WellFormed)
    (hothers : ∀ token ∈ others, token.WellFormed)
    (h : tokens.map (Token.describe registry) = others.map (Token.describe registry)) : tokens = others := by
  induction tokens generalizing others with
  | nil => exact (List.map_eq_nil_iff.mp h.symm).symm
  | cons token tokens ih =>
    cases others with
    | nil => contradiction
    | cons other others =>
      rw [List.forall_mem_cons] at htokens hothers
      obtain ⟨hfirst, hrest⟩ := List.cons.inj h
      rw [Token.describe_inj htokens.1 hothers.1 hfirst, ih htokens.2 hothers.2 hrest]

/-- Tokens of formats are told apart by their descriptions. So two formats that are listed alike have the same tokens, and are rendered alike in every context. -/
theorem listing_tells_formats_apart (engine : Engine) :
    (∀ (format format' : String) (tokens tokens' : List Token),
      tokenize format = .ok tokens → tokenize format' = .ok tokens' →
      ∀ token ∈ tokens, ∀ token' ∈ tokens',
        token.describe engine.registry = token'.describe engine.registry → token = token') ∧
    ∀ (format format' : String) (template template' : Template),
      engine.compile format = .ok template → engine.compile format' = .ok template' →
      template.lines engine.registry = template'.lines engine.registry →
        template.tokens = template'.tokens ∧ ∀ context, engine.expand format context = engine.expand format' context := by
  constructor
  · intro format format' tokens tokens' htokens htokens' token hmem token' hmem' hline
    have hwellFormed := (wellFormedTokens_of_tokenize htokens).each token hmem
    have hwellFormed' := (wellFormedTokens_of_tokenize htokens').each token' hmem'
    exact Token.describe_inj hwellFormed hwellFormed' hline
  · intro format format' template template' hcompile hcompile' hlines
    have htokens : template.tokens = template'.tokens :=
      eq_of_map_describe_eq (fun _ hmem => template.wellFormed hmem) (fun _ hmem => template'.wellFormed hmem) hlines
    refine ⟨htokens, fun context => ?_⟩
    rw [Engine.expand_eq_render hcompile, Engine.expand_eq_render hcompile']
    exact congrArg (render engine.registry context) htokens

/-- Blanks around names are not listed, and formats that differ in nothing else are rendered alike. -/
theorem listing_tells_formats_apart_blanks :
    let format := "\t\"\x7b\x7b no ( a ) \x7d\x7d"
    let format' := "\t\"\x7b\x7bno(a)\x7d\x7d"
    ∃ template template', (Engine.withLimit none).compile format = .ok template ∧
      (Engine.withLimit none).compile format' = .ok template' ∧
      template.lines Registry.builtIn = ["text      \"\\t\\\"\"", "function  no(a)  (unknown helper)"] ∧
      template.lines Registry.builtIn = template'.lines Registry.builtIn ∧
      (∀ token ∈ template.tokens, token.describe Registry.builtIn = "function  no(a)  (unknown helper)" → token = .call "no" "a") ∧
      ∀ context, (Engine.withLimit none).expand format context = (Engine.withLimit none).expand format' context := by
  intro format format'
  have htokens : tokenize format = .ok [.literal "\t\"", .call "no" "a"] := by decide +kernel
  have htokens' : tokenize format' = .ok [.literal "\t\"", .call "no" "a"] := by decide +kernel
  have hcompile : (Engine.withLimit none).compile format = .ok ⟨_, _, htokens⟩ := Template.parse_of_tokenize htokens
  have hcompile' : (Engine.withLimit none).compile format' = .ok ⟨_, _, htokens'⟩ := Template.parse_of_tokenize htokens'
  obtain ⟨htoken, hlines⟩ := listing_tells_formats_apart (Engine.withLimit none)
  refine ⟨_, _, hcompile, hcompile', by rfl, rfl, fun token hmem hline => ?_, (hlines _ _ _ _ hcompile hcompile' rfl).2⟩
  exact htoken _ _ _ _ htokens htokens' token hmem (.call "no" "a") (by simp) hline

end NowPlaying
