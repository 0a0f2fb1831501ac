import NowPlaying.Proofs.Template.Rendering

/-!
# What is wrong with a format

A format is compiled in two steps, its length against the limit and then its tokens, and rendering looks for the helpers. Each step has an error of its own, which it finds in the format alone, and the first of them ends the work.
-/

namespace NowPlaying

/-- The tokens of a format. A malformed one has none. -/
def tokensOf (format : String) : List Token :=
  match tokenize format with
  | .ok tokens => tokens
  | .error _ => []

/-! ### Errors -/

/-- What is wrong with the length. -/
def lengthError? (limit : Option Nat) (format : String) : Option FormatError :=
  match limit with
  | some limit => if limit < format.utf8ByteSize then some (.tooLong format.utf8ByteSize limit) else none
  | none => none

/-- What is wrong with the directives. -/
def syntaxError? (format : String) : Option FormatError :=
  match tokenize format with
  | .ok _ => none
  | .error what => some (.malformed what)

/-- What is wrong with the helpers. -/
def helperError? (registry : Registry) (format : String) : Option FormatError :=
  (firstUnknown? registry (tokensOf format)).map .unknownHelper

theorem syntaxError?_eq_none_iff {format : String} : syntaxError? format = none ↔ ∃ tokens, tokenize format = .ok tokens := by
  rw [syntaxError?]
  cases tokenize format <;> simp

theorem syntaxError?_eq_some_iff {format : String} {error : FormatError} :
    syntaxError? format = some error ↔ ∃ what, tokenize format = .error what ∧ error = .malformed what := by
  rw [syntaxError?]
  cases tokenize format <;> simp [eq_comm]

/-! ### Templates -/

theorem map_tokens_parse (format : String) :
    (Template.parse format).map Template.tokens = unlessFailed (syntaxError? format) (tokensOf format) := by
  rw [Template.parse, syntaxError?, tokensOf]
  split
  · next what hwhat => simp only [hwhat]; rfl
  · next tokens htokens => simp only [htokens]; rfl

theorem Template.parse_of_tokenize {source : String} {tokens : List Token} (h : tokenize source = .ok tokens) :
    Template.parse source = .ok ⟨source, tokens, h⟩ := by
  rw [Template.parse]
  split
  · next what hwhat =>
    rw [hwhat] at h
    contradiction
  · next found hfound =>
    obtain rfl := Except.ok.inj (hfound.symm.trans h)
    rfl

theorem Template.parse_ne_tooLong (source : String) (length limit : Nat) : parse source ≠ .error (.tooLong length limit) := by
  rw [parse]
  split <;> simp

namespace Engine

/-- A limit that a format keeps makes no difference. -/
theorem compile_eq_parse {engine : Engine} {format : String} (h : lengthError? engine.limit format = none) :
    engine.compile format = Template.parse format := by
  unfold compile
  unfold lengthError? at h
  cases hlimit : engine.limit with
  | none => rfl
  | some limit =>
    simp only [hlimit, ite_eq_right_iff, reduceCtorEq, imp_false] at h
    exact if_neg h

theorem map_tokens_compile (engine : Engine) (format : String) :
    (engine.compile format).map Template.tokens =
      unlessFailed ((lengthError? engine.limit format).or (syntaxError? format)) (tokensOf format) := by
  unfold compile lengthError?
  cases engine.limit with
  | none => exact map_tokens_parse format
  | some limit =>
    by_cases hlong : limit < format.utf8ByteSize
    · simp only [if_pos hlong]
      rfl
    · simp only [if_neg hlong]
      exact map_tokens_parse format

theorem compile_eq_error_iff {engine : Engine} {format : String} {error : FormatError} :
    engine.compile format = .error error ↔ (lengthError? engine.limit format).or (syntaxError? format) = some error := by
  rw [← unlessFailed_eq_error_iff, ← map_tokens_compile]
  cases engine.compile format <;> simp [Except.map]

theorem expand_eq_render {engine : Engine} {format : String} {template : Template} (h : engine.compile format = .ok template)
    (context : Context) : engine.expand format context = engine.render template context := by
  rw [expand, h]
  rfl

theorem expand_eq_bind (engine : Engine) (format : String) (context : Context) :
    engine.expand format context = (engine.compile format).map Template.tokens >>= NowPlaying.render engine.registry context := by
  rw [expand]
  cases engine.compile format <;> rfl

theorem expand_eq_unlessFailed (engine : Engine) (format : String) (context : Context) :
    engine.expand format context =
      unlessFailed (((lengthError? engine.limit format).or (syntaxError? format)).or (helperError? engine.registry format))
        (contributions engine.registry context (tokensOf format)) := by
  rw [expand_eq_bind, map_tokens_compile]
  exact unlessFailed_bind_unlessFailed (render_eq_unlessFailed engine.registry context (tokensOf format))

end Engine

end NowPlaying
