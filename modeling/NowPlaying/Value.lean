import NowPlaying.Json

/-!
# Values of a context

A player reports texts, lists of texts, 64-bit integers and doubles under its names; everything else is kept as the JSON value that it came as. The display form is what a format shows for a value and what the case helpers work on.
-/

namespace NowPlaying

open Number

inductive Value where
  | text (value : String)
  | texts (items : List String)
  | integer (value : Int64)
  | float (value : Double)
  | other (json : Json)

namespace Value

/-- Doubles are positional from one ten-thousandth up to sixteen digits, and ties go up. -/
def layout : Layout := ⟨-4, 15, false, .up⟩

def display : Value → String
  | .text value => value
  | .texts items => ", ".intercalate items
  | .integer value => String.ofList (digitsOfInt value.toInt)
  | .float value => String.ofList (value.write layout)
  | .other json => json.compact

def typeName : Value → String
  | .text _ => "text"
  | .texts _ => "text list"
  | .integer _ => "integer"
  | .float _ => "float"
  | .other _ => "opaque"

end Value

def Json.isText : Json → Bool
  | .text _ => true
  | _ => false

def Json.text? : Json → Option String
  | .text value => some value
  | _ => none

/-- A list whose items are all JSON texts is the list of these texts. An integer that needs the 64th bit becomes the nearest double. -/
def Value.ofJson : Json → Value
  | .text value => .text value
  | .integer value =>
    match toInt64? value with
    | some n => .integer n
    | none => .float (Double.ofInt value)
  | .float value => .float value
  | .list items => if items.all Json.isText then .texts (items.filterMap Json.text?) else .other (.list items)
  | json => .other json

end NowPlaying
