import NowPlaying.Proofs.FirstFailure
import NowPlaying.Template

/-!
# What a rendering is

Rendering fails when a call asks for a helper that is not registered, and only then: with the first such helper, whatever the context holds. Otherwise the output is made of one piece for each token, in order. A value enters the output as its display form or as what a helper makes of it, and is not looked at again.
-/

namespace NowPlaying

/-! ### Single tokens -/

namespace Token

/-- The helper that the token calls in vain. -/
def unknown? (registry : Registry) : Token → Option String
  | .call helper _ => if (registry.get? helper).isNone then some helper else none
  | _ => none

/-- What a token puts into the output where its helper is registered. -/
def contribution (registry : Registry) (context : Context) : Token → String
  | .literal text => text
  | .lookup name =>
    match context.get? name with
    | some value => value.display
    | none => ""
  | .call helper argument =>
    match registry.get? helper, context.get? argument with
    | some found, some value =>
      match found.apply value with
      | some text => text
      | none => ""
    | _, _ => ""

theorem unknown?_eq_some_iff {registry : Registry} {token : Token} {name : String} :
    token.unknown? registry = some name ↔ ∃ argument, token = .call name argument ∧ registry.get? name = none := by
  cases token with
  | literal text => simp [unknown?]
  | lookup other => simp [unknown?]
  | call helper argument =>
    simp only [unknown?, Option.isNone_iff_eq_none, Option.ite_none_right_eq_some, Option.some.injEq, call.injEq]
    constructor
    · intro h
      obtain ⟨hnone, rfl⟩ := h
      exact ⟨argument, ⟨rfl, rfl⟩, hnone⟩
    · intro h
      obtain ⟨argument, ⟨rfl, rfl⟩, hnone⟩ := h
      exact ⟨hnone, rfl⟩

theorem unknown?_eq_none_iff {registry : Registry} {token : Token} :
    token.unknown? registry = none ↔ ∀ helper argument, token = .call helper argument → registry.get? helper ≠ none := by
  rw [Option.eq_none_iff_forall_ne_some]
  constructor
  · intro h helper argument htoken hnone
    exact h helper (unknown?_eq_some_iff.mpr ⟨argument, htoken, hnone⟩)
  · intro h name hname
    obtain ⟨argument, htoken, hnone⟩ := unknown?_eq_some_iff.mp hname
    exact h name argument htoken hnone

theorem render_eq_unlessFailed (registry : Registry) (context : Context) (token : Token) :
    token.render registry context =
      unlessFailed ((token.unknown? registry).map .unknownHelper) (token.contribution registry context) := by
  cases token with
  | literal text => rfl
  | lookup name =>
    simp only [render, unknown?, contribution]
    cases context.get? name <;> rfl
  | call helper argument =>
    rw [render, unknown?, contribution]
    cases registry.get? helper with
    | none => rfl
    | some found =>
      cases context.get? argument with
      | none => rfl
      | some value =>
        simp only [Option.bind_some, Option.isNone_some, Bool.false_eq_true, if_false, Option.map_none, unlessFailed_none]
        cases found.apply value <;> rfl

end Token

/-! ### Token lists -/

/-- The first helper that is called in vain. -/
def firstUnknown? (registry : Registry) (tokens : List Token) : Option String :=
  tokens.findSome? (Token.unknown? registry)

/-- The contributions of the tokens, in order. -/
def contributions (registry : Registry) (context : Context) (tokens : List Token) : String :=
  String.join (tokens.map (Token.contribution registry context))

theorem render_cons (registry : Registry) (context : Context) (token : Token) (tokens : List Token) :
    render registry context (token :: tokens) =
      token.render registry context >>= fun text => (render registry context tokens).map (text ++ ·) := by
  rw [render, render, List.mapM_cons]
  cases token.render registry context with
  | error what => rfl
  | ok text =>
    cases tokens.mapM (Token.render registry context) with
    | error what => rfl
    | ok texts => exact congrArg Except.ok String.join_cons

theorem render_eq_unlessFailed (registry : Registry) (context : Context) (tokens : List Token) :
    render registry context tokens =
      unlessFailed ((firstUnknown? registry tokens).map .unknownHelper) (contributions registry context tokens) := by
  induction tokens with
  | nil => exact congrArg Except.ok String.join_nil
  | cons token tokens ih =>
    rw [render_cons, Token.render_eq_unlessFailed, ih]
    rw [unlessFailed_bind_map, contributions, contributions, List.map_cons, String.join_cons]
    rw [firstUnknown?, firstUnknown?, findSome?_cons_eq_or, Option.map_or]

theorem firstUnknown?_append (registry : Registry) (tokens more : List Token) :
    firstUnknown? registry (tokens ++ more) = (firstUnknown? registry tokens).or (firstUnknown? registry more) :=
  List.findSome?_append

theorem contributions_append (registry : Registry) (context : Context) (tokens more : List Token) :
    contributions registry context (tokens ++ more) =
      contributions registry context tokens ++ contributions registry context more := by
  rw [contributions, List.map_append, String.join_append]
  rfl

theorem firstUnknown?_eq_none_iff {registry : Registry} {tokens : List Token} :
    firstUnknown? registry tokens = none ↔
      ∀ helper argument, .call helper argument ∈ tokens → registry.get? helper ≠ none := by
  rw [firstUnknown?, List.findSome?_eq_none_iff]
  simp only [Token.unknown?_eq_none_iff]
  constructor
  · intro h helper argument hmem
    exact h _ hmem helper argument rfl
  · intro h token hmem helper argument htoken
    exact h helper argument (htoken ▸ hmem)

theorem firstUnknown?_eq_some_iff {registry : Registry} {tokens : List Token} {name : String} :
    firstUnknown? registry tokens = some name ↔
      ∃ before argument after, tokens = before ++ .call name argument :: after ∧ registry.get? name = none ∧
        firstUnknown? registry before = none := by
  rw [firstUnknown?, List.findSome?_eq_some_iff]
  constructor
  · intro h
    obtain ⟨before, token, after, htokens, htoken, hbefore⟩ := h
    obtain ⟨argument, rfl, hnone⟩ := Token.unknown?_eq_some_iff.mp htoken
    exact ⟨before, argument, after, htokens, hnone, List.findSome?_eq_none_iff.mpr hbefore⟩
  · intro h
    obtain ⟨before, argument, after, htokens, hnone, hbefore⟩ := h
    refine ⟨before, _, after, htokens, ?_, List.findSome?_eq_none_iff.mp hbefore⟩
    exact Token.unknown?_eq_some_iff.mpr ⟨argument, rfl, hnone⟩

theorem render_eq_ok_iff {registry : Registry} {context : Context} {tokens : List Token} {output : String} :
    render registry context tokens = .ok output ↔
      (∀ helper argument, .call helper argument ∈ tokens → registry.get? helper ≠ none) ∧
        output = contributions registry context tokens := by
  rw [render_eq_unlessFailed, unlessFailed_eq_ok_iff, Option.map_eq_none_iff, firstUnknown?_eq_none_iff]

theorem render_eq_unknownHelper_iff {registry : Registry} {context : Context} {tokens : List Token} {name : String} :
    render registry context tokens = .error (.unknownHelper name) ↔ firstUnknown? registry tokens = some name := by
  rw [render_eq_unlessFailed, unlessFailed_eq_error_iff]
  cases firstUnknown? registry tokens <;> simp

theorem render_append (registry : Registry) (context : Context) (tokens more : List Token) :
    render registry context (tokens ++ more) =
      render registry context tokens >>= fun text => (render registry context more).map (text ++ ·) := by
  simp only [render_eq_unlessFailed, firstUnknown?_append, contributions_append, Option.map_or]
  rw [unlessFailed_bind_map]

/-- Rendering fails exactly when a helper is called in vain, and names the first one. Otherwise it gives the contributions of the tokens, in order, and two lists of tokens are rendered one after the other. -/
theorem render_eq_join_contributions (registry : Registry) (context : Context) (tokens : List Token) :
    (∀ name, render registry context tokens = .error (.unknownHelper name) ↔
      ∃ before argument after, tokens = before ++ .call name argument :: after ∧ registry.get? name = none ∧
        ∀ helper argument, .call helper argument ∈ before → registry.get? helper ≠ none) ∧
    (∀ output, render registry context tokens = .ok output ↔
      (∀ helper argument, .call helper argument ∈ tokens → registry.get? helper ≠ none) ∧
        output = String.join (tokens.map (Token.contribution registry context))) ∧
    ∀ more, render registry context (tokens ++ more) =
      match render registry context tokens, render registry context more with
      | .error error, _ => .error error
      | .ok _, .error error => .error error
      | .ok text, .ok rest => .ok (text ++ rest) := by
  refine ⟨fun name => ?_, fun output => render_eq_ok_iff, fun more => ?_⟩
  · rw [render_eq_unknownHelper_iff, firstUnknown?_eq_some_iff]
    simp only [firstUnknown?_eq_none_iff]
  · rw [render_append]
    cases render registry context tokens with
    | error error => rfl
    | ok text => cases render registry context more <;> rfl

/-- What a value shows is text, also where it looks like a directive. -/
example : render Registry.builtIn (NameMap.empty.insert "k" (.text "\x7b\x7bk\x7d\x7d")) [.lookup "k", .call "lc" "absent"] =
    .ok "\x7b\x7bk\x7d\x7d" := by
  rfl

end NowPlaying
