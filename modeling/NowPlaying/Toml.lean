import NowPlaying.NameMap
import NowPlaying.Number.Double

/-!
# TOML documents

A document is a table. Tables remember how they came to be, because that decides what may still be added to them: a header may open a table that so far was only on the way to another header, once; a dotted key may extend tables that dotted keys made, and takes over tables that were only on the way to a header; nothing extends a table written in braces. The tables of an array of tables are kept with the latest in front, which is the one that headers and keys reach.
-/

namespace NowPlaying

/-- How a table came to be. -/
inductive TableOrigin where
  /-- Opened by its own header, or the document itself. -/
  | header
  /-- On the way to the table of a header, and to nothing else. -/
  | implied
  /-- On the way to the value of a dotted key. -/
  | dotted
  /-- Written in braces. -/
  | braces
  deriving DecidableEq, Repr

inductive Toml where
  | text (value : String)
  | integer (value : Int)
  | float (value : Double)
  /-- A numeral that no number answers to, because it is too large or has digits that its base lacks. -/
  | numberless
  | bool (value : Bool)
  /-- A date, a time of day, or both, in normal form. -/
  | date (normal : String)
  | list (items : List Toml)
  | table (origin : TableOrigin) (entries : List (String × Toml))
  | tables (latest : List (String × Toml)) (earlier : List (List (String × Toml)))

namespace Toml

instance : Inhabited Toml := ⟨.bool false⟩

abbrev Entries := List (String × Toml)

/-! ### Soundness -/

mutual

/-- Whether every numeral in a value has its number. -/
def isSound : Toml → Bool
  | .numberless => false
  | .list items => areSound items
  | .table _ entries => entriesSound entries
  | .tables latest earlier => entriesSound latest && tablesSound earlier
  | _ => true

def areSound : List Toml → Bool
  | [] => true
  | item :: rest => item.isSound && areSound rest

def entriesSound : List (String × Toml) → Bool
  | [] => true
  | (_, value) :: rest => value.isSound && entriesSound rest

def tablesSound : List (List (String × Toml)) → Bool
  | [] => true
  | entries :: rest => entriesSound entries && tablesSound rest

end

/-! ### Entries -/

/-- Replaces what stands under a key, or refuses. -/
def alter (key : String) (change : Option Toml → Option Toml) (entries : Entries) : Option Entries :=
  (change (entries.lookup key)).map fun value => NowPlaying.Entries.insert key value entries

def define (key : String) (value : Toml) : Entries → Option Entries :=
  alter key fun
    | none => some value
    | some _ => none

/-! ### Headers -/

/-- Changes the table that a path of headers leads to. Tables that are missing on the way are implied. -/
def within (path : List String) (change : Entries → Option Entries) (entries : Entries) : Option Entries :=
  match path with
  | [] => change entries
  | key :: path =>
    entries |> alter key fun
      | none => (within path change []).map (table .implied)
      | some (table origin inner) =>
        if origin = .braces then none else (within path change inner).map (table origin)
      | some (tables latest earlier) => (within path change latest).map (tables · earlier)
      | some _ => none

/-- The table of a header, opened for the first time. -/
def openTable (key : String) : Entries → Option Entries :=
  alter key fun
    | none => some (table .header [])
    | some (table .implied inner) => some (table .header inner)
    | some _ => none

/-- One more table for the array of tables of a header. -/
def appendTable (key : String) : Entries → Option Entries :=
  alter key fun
    | none => some (tables [] [])
    | some (tables latest earlier) => some (tables [] (latest :: earlier))
    | some _ => none

/-! ### Dotted keys -/

/-- Changes the table that the front of a dotted key leads to. That table and those on the way belong to dotted keys, or were only implied by headers and belong to dotted keys from then on. -/
def withinDotted (path : List String) (change : Entries → Option Entries) (entries : Entries) : Option Entries :=
  match path with
  | [] => change entries
  | key :: path =>
    entries |> alter key fun
      | none => (withinDotted path change []).map (table .dotted)
      | some (table origin inner) =>
        if origin = .dotted ∨ origin = .implied then (withinDotted path change inner).map (table .dotted)
        else none
      | some (tables latest earlier) =>
        if path = [] then none else (withinDotted path change latest).map (tables · earlier)
      | some _ => none

/-- A key as it is written: at least one name, with dots between the names. -/
structure Key where
  front : List String
  last : String
  deriving DecidableEq, Repr

def assign (key : Key) (value : Toml) : Entries → Option Entries :=
  withinDotted key.front (define key.last value)

end Toml

end NowPlaying
