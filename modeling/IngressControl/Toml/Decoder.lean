import IngressControl.IntegerRange
import IngressControl.Mismatch
import IngressControl.Toml.Item

/-!
# Taking values out of TOML documents

A decoder takes a value of a type out of an item. A record starts from its defaults, and each entry
of a table sets the field of its name, in the order of the document; entries without a field do
not matter. A list sets the fields in their order.
-/

namespace IngressControl.Toml

/-- Takes a value out of an item. -/
abbrev Decoder (α : Type) := Item → Except Mismatch α

/-- An item as something found where another type was wanted. -/
def Item.found : Item → Found
  | .text s => .text s
  | .integer n => .integer n
  | .float x => .float x
  | .boolean b => .boolean b
  | .moment => .map
  | .list _ => .sequence
  | .table _ _ => .map
  | .tables _ => .sequence

/-- Refuses an item. -/
def refuse (expected : String) (v : Item) : Except Mismatch α :=
  .error (.invalidType v.found expected)

namespace Decoder

/-- Takes an integer of a range. -/
def integer (range : IntegerRange α) : Decoder α
  | .integer n =>
    match range.ofInt? n with
    | some a => .ok a
    | none => .error (.invalidValue (.integer n) range.name)
  | v => refuse range.name v

/-- Takes a double; an integer counts as the double nearest to it. -/
def float : Decoder Float
  | .float x => .ok x
  | .integer n => .ok (Float.ofInt n)
  | v => refuse "f64" v

/-- Takes a truth value. -/
def flag : Decoder Bool
  | .boolean b => .ok b
  | v => refuse "a boolean" v

/-- Takes a text. -/
def text : Decoder String
  | .text s => .ok s
  | v => refuse "a string" v

/-- Takes the path of a file. -/
def path : Decoder String
  | .text s => .ok s
  | v => refuse "path string" v

end Decoder

/-- A field of a record: its name, and how an item sets it. -/
structure Field (ρ : Type) where
  name : String
  set : Item → ρ → Except Mismatch ρ

/-- The field that holds what a decoder takes. -/
def Field.of (name : String) (decoder : Decoder α) (put : α → ρ → ρ) : Field ρ where
  name := name
  set v r := (decoder v).map fun a => put a r

/-- Sets the fields that the entries of a table name. -/
def Field.setNamed (fields : List (Field ρ)) : Entries → ρ → Except Mismatch ρ
  | [], r => .ok r
  | (name, v) :: rest, r =>
    match fields.find? (·.name = name) with
    | none => setNamed fields rest r
    | some field =>
      match field.set v r with
      | .error e => .error e
      | .ok r => setNamed fields rest r

/-- Sets the fields in their order; items behind the last field do not matter. -/
def Field.setOrdered : List (Field ρ) → List Item → ρ → Except Mismatch ρ
  | field :: fields, v :: rest, r =>
    match field.set v r with
    | .error e => .error e
    | .ok r => setOrdered fields rest r
  | _, _, r => .ok r

/-- Takes a record with some defaults. A date counts as a table without entries of a field. -/
def Decoder.record (name : String) (fields : List (Field ρ)) (defaults : ρ) : Decoder ρ
  | .table _ entries => Field.setNamed fields entries defaults
  | .list items => Field.setOrdered fields items defaults
  | .tables reversed => Field.setOrdered fields (reversed.reverse.map (.table .header)) defaults
  | .moment => .ok defaults
  | v => refuse ("struct " ++ name) v

/-- How doubles are laid out in messages about TOML documents: with all their places. -/
def floatLayout : Decimal.FloatLayout where
  positional _ := true
  nan := "NaN"
  infinity := "inf"

end IngressControl.Toml
