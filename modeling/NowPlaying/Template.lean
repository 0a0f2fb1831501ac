import NowPlaying.Helper
import NowPlaying.Template.Token

/-!
# Templates

A template is a format together with its tokens. Rendering replaces every directive by what it stands for in a context: a name that is missing, or a helper that does not take the value, leaves nothing. Only a helper that is not registered is an error, and then nothing at all is rendered.

An engine compiles and renders with one registry and, where one is set, one limit on the length of formats in bytes.
-/

namespace NowPlaying

/-! ### Rendering -/

/-- What a token contributes to the output. -/
def Token.render (registry : Registry) (context : Context) : Token → Except FormatError String
  | .literal text => .ok text
  | .lookup name => .ok (((context.get? name).map Value.display).getD "")
  | .call helper argument =>
    match registry.get? helper with
    | none => .error (.unknownHelper helper)
    | some found => .ok (((context.get? argument).bind found.apply).getD "")

def render (registry : Registry) (context : Context) (tokens : List Token) : Except FormatError String :=
  (tokens.mapM (Token.render registry context)).map String.join

/-! ### Templates -/

structure Template where
  source : String
  tokens : List Token
  read : tokenize source = .ok tokens

namespace Template

def parse (source : String) : Except FormatError Template :=
  match read : tokenize source with
  | .error what => .error (.malformed what)
  | .ok tokens => .ok ⟨source, tokens, read⟩

/-- The names that are read, each at its first use. -/
def namesOf (tokens : List Token) : List String := (tokens.filterMap Token.name?).eraseDups

def names (template : Template) : List String := namesOf template.tokens

def render (template : Template) (registry : Registry) (context : Context) : Except FormatError String :=
  NowPlaying.render registry context template.tokens

end Template

/-! ### Engines -/

structure Engine where
  registry : Registry
  limit : Option Nat

namespace Engine

/-- The built-in helpers with a limit, or with none. -/
def withLimit (limit : Option Nat) : Engine := ⟨Registry.builtIn, limit⟩

def compile (engine : Engine) (format : String) : Except FormatError Template :=
  match engine.limit with
  | some limit =>
    if limit < format.utf8ByteSize then .error (.tooLong format.utf8ByteSize limit)
    else Template.parse format
  | none => Template.parse format

def render (engine : Engine) (template : Template) (context : Context) : Except FormatError String :=
  template.render engine.registry context

def expand (engine : Engine) (format : String) (context : Context) : Except FormatError String := do
  engine.render (← engine.compile format) context

end Engine

end NowPlaying
