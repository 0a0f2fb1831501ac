import NowPlaying.Template.Error
import NowPlaying.Text.Blank
import NowPlaying.Text.Size

/-!
# Tokens of a format

A format is literal text with directives between double braces: a name to look up, or a call of a helper with one name as its argument. In literal text only `{{` means something; inside a directive `{{`, `}}` and both parentheses do. Names are trimmed and never empty.

`tokenize` reads a format from left to right, one directive at a time, and stops at the first fault.
-/

namespace NowPlaying

open Text

inductive Token where
  | literal (text : String)
  | lookup (name : String)
  | call (helper argument : String)
  deriving DecidableEq, Repr

namespace Token

/-- The token as a format spells it, without blanks around names. -/
def spelling : Token → String
  | .literal text => text
  | .lookup name => "\x7b\x7b" ++ name ++ "\x7d\x7d"
  | .call helper argument => "\x7b\x7b" ++ helper ++ "(" ++ argument ++ ")\x7d\x7d"

/-- The name a token reads from the context. -/
def name? : Token → Option String
  | .literal _ => none
  | .lookup name => some name
  | .call _ argument => some argument

end Token

/-! ### Marks -/

namespace Template

inductive Mark where
  | opener
  | closer
  | paren
  | endParen
  deriving DecidableEq, Repr

/-- The mark a text begins with inside a directive, and the rest. -/
def markAt? : List Char → Option (Mark × List Char)
  | '{' :: '{' :: rest => some (.opener, rest)
  | '}' :: '}' :: rest => some (.closer, rest)
  | '(' :: rest => some (.paren, rest)
  | ')' :: rest => some (.endParen, rest)
  | _ => none

/-- What follows the opener a text begins with. -/
def openerAt? : List Char → Option (List Char)
  | '{' :: '{' :: rest => some rest
  | _ => none

/-- The text before the first place where `here` finds something, and what it finds there. -/
def upTo {α : Type} (here : List Char → Option α) : List Char → List Char × Option α
  | [] => ([], none)
  | c :: rest =>
    match here (c :: rest) with
    | some found => ([], some found)
    | none =>
      let later := upTo here rest
      (c :: later.1, later.2)

/-! ### Directives -/

/-- A directive that has been read: its token, the text after it and the position of that text. -/
structure Directive where
  token : Token
  rest : List Char
  next : Nat

def fault (position : Nat) (fault : Fault) : Except Malformed Directive := .error ⟨position, fault⟩

/-- After the closing parenthesis of a call, which ends before `position`. -/
def readCallEnd (opener position : Nat) (token : Token) (s : List Char) : Except Malformed Directive :=
  match upTo markAt? s with
  | (_, none) => fault opener .unclosedDirective
  | (tail, some (mark, rest)) =>
    let here := position + byteSize tail
    match mark with
    | .opener => fault here .nestedOpener
    | .paren => fault here .strayParen
    | .endParen => fault here .strayEndParen
    | .closer =>
      if tail.all isBlank then .ok ⟨token, rest, here + 2⟩
      else fault (position + byteSize (tail.takeWhile isBlank)) .textAfterCall

/-- After the opening parenthesis at `paren`. -/
def readArgument (opener paren : Nat) (helper : List Char) (s : List Char) : Except Malformed Directive :=
  match upTo markAt? s with
  | (_, none) => fault paren .unclosedCall
  | (argument, some (mark, rest)) =>
    let here := paren + 1 + byteSize argument
    match mark with
    | .opener => fault here .nestedOpener
    | .closer => fault here .closerInCall
    | .paren => fault here .strayParen
    | .endParen =>
      if trim argument = [] then fault here .missingArgument
      else
        readCallEnd opener (here + 1)
          (.call (String.ofList helper) (String.ofList (trim argument))) rest

/-- After the opening braces at `opener`. -/
def readDirective (opener : Nat) (s : List Char) : Except Malformed Directive :=
  match upTo markAt? s with
  | (_, none) => fault opener .unclosedDirective
  | (name, some (mark, rest)) =>
    let here := opener + 2 + byteSize name
    match mark with
    | .opener => fault here .nestedOpener
    | .endParen => fault here .strayEndParen
    | .closer =>
      if trim name = [] then fault here .emptyExpression
      else .ok ⟨.lookup (String.ofList (trim name)), rest, here + 2⟩
    | .paren =>
      if trim name = [] then fault here .missingHelper
      else readArgument opener here (trim name) rest

/-! ### Every directive shortens the text -/

theorem openerAt?_length {s rest : List Char} (h : openerAt? s = some rest) : rest.length < s.length := by
  unfold openerAt? at h
  split at h
  · simp only [Option.some.injEq] at h
    subst h
    simp only [List.length_cons]
    omega
  · simp at h

theorem markAt?_length {s rest : List Char} {mark : Mark} (h : markAt? s = some (mark, rest)) :
    rest.length < s.length := by
  unfold markAt? at h
  split at h <;> simp only [Option.some.injEq, Prod.mk.injEq, reduceCtorEq] at h <;>
    (obtain ⟨-, rfl⟩ := h; simp only [List.length_cons]; omega)

theorem upTo_length {α : Type} {here : List Char → Option α} (size : α → Nat)
    (shorter : ∀ {s found}, here s = some found → size found < s.length)
    {s text : List Char} {found : α} (h : upTo here s = (text, some found)) : size found < s.length := by
  induction s generalizing text with
  | nil => simp [upTo] at h
  | cons c rest ih =>
    simp only [upTo] at h
    split at h
    · next eq =>
      simp only [Prod.mk.injEq, Option.some.injEq] at h
      exact h.2 ▸ shorter eq
    · simp only [Prod.mk.injEq] at h
      have := @ih (upTo here rest).1 (by rw [← h.2])
      simp only [List.length_cons]
      omega

theorem upTo_markAt?_length {s text rest : List Char} {mark : Mark}
    (h : upTo markAt? s = (text, some (mark, rest))) : rest.length < s.length :=
  upTo_length (fun found => found.2.length) (fun h => markAt?_length h) h

theorem readCallEnd_length {opener position : Nat} {token : Token} {s : List Char} {d : Directive}
    (h : readCallEnd opener position token s = .ok d) : d.rest.length < s.length := by
  unfold readCallEnd fault at h
  split at h
  · simp at h
  · next eq =>
    have := upTo_markAt?_length eq
    dsimp only at h
    split at h <;> try contradiction
    split at h
    · simp only [Except.ok.injEq] at h
      exact h ▸ this
    · simp at h

theorem readArgument_length {opener paren : Nat} {helper s : List Char} {d : Directive}
    (h : readArgument opener paren helper s = .ok d) : d.rest.length < s.length := by
  unfold readArgument fault at h
  split at h
  · simp at h
  · next eq =>
    have := upTo_markAt?_length eq
    dsimp only at h
    split at h <;> try contradiction
    split at h
    · simp at h
    · exact Nat.lt_trans (readCallEnd_length h) this

theorem readDirective_length {opener : Nat} {s : List Char} {d : Directive}
    (h : readDirective opener s = .ok d) : d.rest.length < s.length := by
  unfold readDirective fault at h
  split at h
  · simp at h
  · next eq =>
    have := upTo_markAt?_length eq
    dsimp only at h
    split at h <;> try contradiction
    · split at h
      · simp at h
      · simp only [Except.ok.injEq] at h
        exact h ▸ this
    · split at h
      · simp at h
      · exact Nat.lt_trans (readArgument_length h) this

/-! ### The scan -/

/-- Literal text as a token, unless there is none. -/
def literal (text : List Char) : List Token :=
  if text = [] then [] else [.literal (String.ofList text)]

/-- The tokens of a text that begins at a byte position. -/
def scan (position : Nat) (s : List Char) : Except Malformed (List Token) :=
  match _opening : upTo openerAt? s with
  | (text, none) => .ok (literal text)
  | (text, some body) =>
    match _directive : readDirective (position + byteSize text) body with
    | .error what => .error what
    | .ok d =>
      match scan d.next d.rest with
      | .error what => .error what
      | .ok tokens => .ok (literal text ++ d.token :: tokens)
termination_by s.length
decreasing_by
  have := upTo_length List.length (fun h => openerAt?_length h) _opening
  have := readDirective_length _directive
  omega

end Template

def tokenize (format : String) : Except Malformed (List Token) := Template.scan 0 format.toList

end NowPlaying
