/-!
# Arguments

The words of a command line are options and plain words. An option has a long name behind two dashes and may have a letter behind one; letters may stand together. A value follows its option, as the next word, behind an equals sign, or right behind the letter. Behind a lone double dash every word is plain. What is not accepted stops the reading at once, so a request for information is granted only where nothing in front of it is wrong.
-/

namespace NowPlaying.CommandLine

/-- How an option is given. -/
inductive Arity where
  /-- Without a value, at most once. -/
  | switch
  /-- Without a value, any number of times. -/
  | count
  /-- With a value, at most once. -/
  | value
  /-- With a value, any number of times. -/
  | values
  /-- Without a value, and instead of running anything. -/
  | information
  deriving DecidableEq, Repr

structure Flag where
  long : String
  letter : Option Char
  arity : Arity
  /-- The values that the option takes. -/
  accepts : String → Bool

def Flag.takesValue (flag : Flag) : Bool := flag.arity = .value || flag.arity = .values

def Flag.repeats (flag : Flag) : Bool := flag.arity = .count || flag.arity = .values

/-- What one level of a command line accepts. -/
structure Level where
  flags : List Flag
  /-- Whether the first plain word ends the level and names what comes next. -/
  stopsAtWord : Bool
  /-- The plain words that the level takes behind a number of them. -/
  acceptsWord : Nat → String → Bool
  /-- Whether a negative number counts as a plain word until there is one. -/
  takesNegative : Bool

/-- Why a command line is not run. -/
inductive Stop where
  | misuse
  | information
  deriving DecidableEq, Repr

/-- What has been found on a level: the options with their values, and the plain words. -/
structure Found where
  options : List (String × String)
  words : List String

namespace Found

def nothing : Found := ⟨[], []⟩

def all (found : Found) (long : String) : List String :=
  found.options.filterMap fun (name, value) => if name = long then some value else none

def value? (found : Found) (long : String) : Option String := (found.all long).head?

def has (found : Found) (long : String) : Bool := !(found.all long).isEmpty

/-- One more option, which may be given and takes the value. -/
def option (found : Found) (flag : Flag) (value : String) : Except Stop Found :=
  if (found.has flag.long && !flag.repeats) || !flag.accepts value then .error .misuse
  else .ok { found with options := found.options ++ [(flag.long, value)] }

/-- One more plain word, which the level takes. -/
def word (level : Level) (found : Found) (word : String) : Except Stop Found :=
  if level.acceptsWord found.words.length word then .ok { found with words := found.words ++ [word] }
  else .error .misuse

end Found

/-! ### Single words -/

inductive Word where
  | doubleDash
  | long (name : String) (value : Option String)
  | letters (letters : List Char)
  | plain

def Word.read (arg : String) : Word :=
  match arg.toList with
  | ['-', '-'] => .doubleDash
  | '-' :: '-' :: rest =>
    match rest.span (· ≠ '=') with
    | (name, []) => .long (String.ofList name) none
    | (name, _ :: value) => .long (String.ofList name) (some (String.ofList value))
  | '-' :: c :: rest => .letters (c :: rest)
  | _ => .plain

/-- Digits, at most one point, and at most one letter for a power, which does not end the word. -/
def looksNumeric (first pointSeen powerSeen : Bool) : List Char → Bool
  | [] => true
  | c :: rest =>
    if c.isDigit then looksNumeric false pointSeen powerSeen rest
    else if c = '.' then !first && !pointSeen && !powerSeen && looksNumeric false true powerSeen rest
    else if c = 'e' ∨ c = 'E' then
      !first && !powerSeen && !rest.isEmpty && looksNumeric false pointSeen true rest
    else false

/-- A cluster of letters: options without a value, and perhaps at last one with a value. A flag that still waits for its value comes second. -/
def readLetters (flags : List Flag) (found : Found) : List Char → Except Stop (Found × Option Flag)
  | [] => .ok (found, none)
  | c :: rest =>
    match flags.find? (·.letter = some c) with
    | none => .error .misuse
    | some flag =>
      if flag.arity = .information then .error .information
      else if flag.takesValue then
        match rest with
        | [] => .ok (found, some flag)
        | '=' :: value => (found.option flag (String.ofList value)).map (·, none)
        | value => (found.option flag (String.ofList value)).map (·, none)
      else
        match found.option flag "" with
        | .error stop => .error stop
        | .ok found => readLetters flags found rest

def readLong (flags : List Flag) (found : Found) (name : String) (value : Option String) :
    Except Stop (Found × Option Flag) :=
  match flags.find? (·.long = name) with
  | none => .error .misuse
  | some flag =>
    match flag.takesValue, value with
    | true, some value => (found.option flag value).map (·, none)
    | true, none => .ok (found, some flag)
    | false, none =>
      if flag.arity = .information then .error .information else (found.option flag "").map (·, none)
    | false, some _ => .error .misuse

/-! ### Levels -/

/-- Reads a level. Where it stops at a word, that word and the rest come second. -/
def Level.read (level : Level) (found : Found) (waiting : Option Flag) :
    List String → Except Stop (Found × List String)
  | [] => if waiting.isSome then .error .misuse else .ok (found, [])
  | arg :: rest =>
    let plain : Except Stop (Found × List String) :=
      match waiting with
      | some flag =>
        match found.option flag arg with
        | .error stop => .error stop
        | .ok found => level.read found none rest
      | none =>
        if level.stopsAtWord then .ok (found, arg :: rest)
        else
          match found.word level arg with
          | .error stop => .error stop
          | .ok found => level.read found none rest
    match Word.read arg with
    | .plain => plain
    | .doubleDash =>
      if waiting.isSome || level.stopsAtWord then .error .misuse
      else (rest.foldlM (Found.word level) found).map (·, [])
    | .long name value =>
      if waiting.isSome then .error .misuse
      else
        match readLong level.flags found name value with
        | .error stop => .error stop
        | .ok (found, waiting) => level.read found waiting rest
    | .letters letters =>
      if level.takesNegative && found.words.isEmpty && looksNumeric true false false letters then plain
      else if waiting.isSome then .error .misuse
      else
        match readLetters level.flags found letters with
        | .error stop => .error stop
        | .ok (found, waiting) => level.read found waiting rest

end NowPlaying.CommandLine
