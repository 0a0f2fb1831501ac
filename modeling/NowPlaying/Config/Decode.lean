import NowPlaying.Config
import NowPlaying.Toml.Reader

/-!
# Configurations from TOML

The tables `format`, `logging`, `metadata` and `presets` are read, and keys that are not known are passed over; their numerals still have to have numbers. A table with fixed keys may also be given as an array of the values in the order of the keys, and nothing is asked of what follows these. A date in the place of a table counts as a table with one entry.
-/

namespace NowPlaying.Config

/-- The key that a date has when it is taken for a table. -/
def dateKey : String := "$__toml_private_datetime"

/-- The entries of a table with any keys. -/
def entries? : Toml → Option Toml.Entries
  | .table _ entries => some entries
  | .date normal => some [(dateKey, .text normal)]
  | _ => none

/-- Entries whose values are sound under all but the known keys. -/
def passOver? (known : List String) (entries : Toml.Entries) : Option Toml.Entries :=
  if entries.all fun (key, value) => key ∈ known || value.isSound then some entries else none

/-- The entries of a table with fixed keys. -/
def fields? (keys : List String) : Toml → Option Toml.Entries
  | .list items => some (keys.zip items)
  | .tables latest earlier =>
    some (keys.zip ((latest :: earlier).reverse.map (Toml.table .header)))
  | value => entries? value >>= passOver? keys

/-- Decodes what stands under a key, if anything does. -/
def field? {α : Type} (key : String) (decode : Toml → Option α) (absent : α) (entries : Toml.Entries) :
    Option α :=
  match entries.lookup key with
  | some value => decode value
  | none => some absent

def text? : Toml → Option String
  | .text value => some value
  | _ => none

/-- Texts under any keys. -/
def texts? (value : Toml) : Option (NameMap String) := do
  let entries ← entries? value
  let texts ← entries.mapM fun (name, value) => (text? value).map (name, ·)
  some (NameMap.ofList texts)

/-- A length of at most 64 bits. -/
def length? : Toml → Option (Option Nat)
  | .integer n => if 0 ≤ n ∧ n < (Nat.pow 2 64 : Nat) then some (some n.toNat) else none
  | _ => none

def ofEntries? (entries : Toml.Entries) : Option Config := do
  let entries ← passOver? ["format", "logging", "metadata", "presets"] entries
  let limit ← entries |> field? "format"
    (fun value => fields? ["max_length"] value >>= field? "max_length" length? none) default.limit
  let level ← entries |> field? "logging"
    (fun value => fields? ["level"] value >>= field? "level" text? default.level) default.level
  let aliases ← entries |> field? "metadata"
    (fun value => fields? ["aliases"] value >>= field? "aliases" texts? default.aliases) default.aliases
  let presets ← entries |> field? "presets" texts? default.presets
  some ⟨limit, level, aliases, presets⟩

/-! ### Reading -/

/-- Why a text is no configuration. -/
inductive Rejection where
  | notToml
  | invalid (violation : Violation)
  deriving DecidableEq, Repr

def read (s : String) : Except Rejection Config :=
  match Toml.read? s >>= ofEntries? with
  | none => .error .notToml
  | some config =>
    match config.violation? with
    | some violation => .error (.invalid violation)
    | none => .ok config

end NowPlaying.Config
