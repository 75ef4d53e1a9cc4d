import IngressControl.Decimal.Doubles
import IngressControl.Text.Printable

/-!
# Values that do not fit a type

A document can be well formed and still not hold what is asked of it. A `Mismatch` says what was
found and what was wanted; its text is the same for every document format but for the layout of
floating point numbers.
-/

namespace IngressControl

/-- A value met where one of another type was wanted. -/
inductive Found where
  | integer (n : Int)
  | float (x : Float)
  | boolean (b : Bool)
  | text (s : String)
  | null
  | map
  | sequence

/-- Why a well-formed value was not taken. -/
inductive Mismatch where
  /-- A record lacks a field that has no default. -/
  | missingField (name : String)
  /-- A record has a field twice. -/
  | duplicateField (name : String)
  /-- A value is of another type. -/
  | invalidType (found : Found) (expected : String)
  /-- A value has the right type, but lies out of its range. -/
  | invalidValue (found : Found) (expected : String)
  /-- A record written as a list ends before a field that has no default. -/
  | invalidLength (length : Nat) (expected : String)

/-- The text of a value that was found. -/
def Found.description (layout : Decimal.FloatLayout) : Found → String
  | .integer n => "integer `" ++ String.ofList (Decimal.ofInt n) ++ "`"
  | .float x => "floating point `" ++ String.ofList (layout.text x) ++ "`"
  | .boolean b => if b then "boolean `true`" else "boolean `false`"
  | .text s => "string " ++ String.ofList (Quoted.text s)
  | .null => "null"
  | .map => "map"
  | .sequence => "sequence"

/-- The text of a mismatch. -/
def Mismatch.message (layout : Decimal.FloatLayout) : Mismatch → String
  | .missingField name => "missing field `" ++ name ++ "`"
  | .duplicateField name => "duplicate field `" ++ name ++ "`"
  | .invalidType found expected =>
    "invalid type: " ++ found.description layout ++ ", expected " ++ expected
  | .invalidValue found expected =>
    "invalid value: " ++ found.description layout ++ ", expected " ++ expected
  | .invalidLength length expected =>
    "invalid length " ++ String.ofList (Decimal.ofNat length) ++ ", expected " ++ expected

end IngressControl
