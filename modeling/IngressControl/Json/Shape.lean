import IngressControl.IntegerRange
import IngressControl.Json.Skip
import IngressControl.Json.Writer

/-!
# Shapes of JSON documents

A `Shape` describes how the values of a type stand in JSON, once for reading and once for writing.
A record is written as an object with its fields in order. It is read from an object with its
fields in any order, other keys being skipped, or from a list of its fields in order. A field is
required, or has a default for the case that it is absent, or is optional: then it is left out
when absent, and `null` counts as absent.
-/

namespace IngressControl.Json

mutual

/-- How the values of a type stand in JSON. -/
inductive Shape : Type → Type 1 where
  | integer {α : Type} (range : IntegerRange α) : Shape α
  | flag : Shape Bool
  | text : Shape String
  | list {α : Type} (item : Shape α) : Shape (List α)
  /-- A record and the fields it is made of. -/
  | record {α β γ : Type} (name : String) (fields : Fields β γ) (build : β → α) (parts : α → β)
      (build_parts : ∀ a, build (parts a) = a) : Shape α

/-- How a field stands in a record. -/
inductive Field : Type → Type 1 where
  | required {α : Type} (value : Shape α) : Field α
  | defaulted {α : Type} (default : α) (value : Shape α) : Field α
  | optional {α : Type} (value : Shape α) : Field (Option α)

/-- The fields of a record in order: the type of their values, and the type of what has been
gathered of them while the record is being read. -/
inductive Fields : Type → Type → Type 1 where
  | nil : Fields Unit Unit
  | cons {α β γ : Type} (name : String) (field : Field α) (rest : Fields β γ) :
      Fields (α × β) (Option α × γ)

end

/-! ## Writing -/

mutual

/-- The text of a value. -/
def Shape.write : {α : Type} → Shape α → α → List Char
  | _, .integer range, a => Decimal.ofInt (range.toInt a)
  | _, .flag, b => boolean b
  | _, .text, s => quoted s
  | _, .list item, as => Json.list (as.map item.write)
  | _, .record _ fields _ parts _, a => object (fields.write (parts a))

/-- The text of a field's value, unless it is left out. -/
def Field.write? : {α : Type} → Field α → α → Option (List Char)
  | _, .required value, a => some (value.write a)
  | _, .defaulted _ value, a => some (value.write a)
  | _, .optional value, a => a.map value.write

/-- The members of a record's object. -/
def Fields.write : {β γ : Type} → Fields β γ → β → List (String × List Char)
  | _, _, .nil, _ => []
  | _, _, .cons name field rest, (a, b) =>
    match field.write? a with
    | some text => (name, text) :: rest.write b
    | none => rest.write b

end

/-! ## Reading -/

/-- The value of a field that is absent. -/
def Field.absent? : {α : Type} → Field α → Option α
  | _, .required _ => none
  | _, .defaulted default _ => some default
  | _, .optional _ => some none

/-- The number of fields. -/
def Fields.count : {β γ : Type} → Fields β γ → Nat
  | _, _, .nil => 0
  | _, _, .cons _ _ rest => rest.count + 1

/-- Nothing gathered yet. -/
def Fields.start : {β γ : Type} → Fields β γ → γ
  | _, _, .nil => ()
  | _, _, .cons _ _ rest => (none, rest.start)

/-- The values of all fields, once the record has ended; the first field that is absent and has
no default is missing. -/
def Fields.finish : {β γ : Type} → Fields β γ → γ → Except Problem β
  | _, _, .nil, _ => .ok ()
  | _, _, .cons name field rest, (gathered, others) =>
    match gathered <|> field.absent? with
    | none => .error (.mismatch (.missingField name))
    | some a =>
      match rest.finish others with
      | .ok b => .ok (a, b)
      | .error e => .error e

/-- The name of a record and the number of its fields, as messages give them. -/
def recordLength (name : String) (count : Nat) : String :=
  "struct " ++ name ++ " with " ++ String.ofList (Decimal.ofNat count) ++
    (if count = 1 then " element" else " elements")

/-- Takes an integer off the front. -/
def integer (range : IntegerRange α) : Reader α := fun cs =>
  match trimmed cs with
  | [] => .error .truncated
  | c :: cs =>
    if c = '-' ∨ c.isDigit then
      match number (c :: cs) with
      | .error e => .error e
      | .ok (.float x, _) => .error (.mismatch (.invalidType (.float x) range.name))
      | .ok (.integer n, cs) =>
        match range.ofInt? n with
        | some a => .ok (a, cs)
        | none => .error (.mismatch (.invalidValue (.integer n) range.name))
    else refuse range.name (c :: cs)

/-- Takes a truth value off the front. -/
def flag : Reader Bool := fun cs =>
  match trimmed cs with
  | [] => .error .truncated
  | 't' :: cs => (word ['r', 'u', 'e'] cs).map (true, ·)
  | 'f' :: cs => (word ['a', 'l', 's', 'e'] cs).map (false, ·)
  | cs => refuse "a boolean" cs

/-- Takes a string off the front. -/
def text : Reader String := fun cs =>
  match trimmed cs with
  | [] => .error .truncated
  | '"' :: cs => string cs
  | cs => refuse "a string" cs

/-- Takes a list off the front. -/
def listOf (item : Reader α) : Reader (List α) := fun cs =>
  match trimmed cs with
  | [] => .error .truncated
  | '[' :: cs => elements item ('[' :: cs) [] cs
  | cs => refuse "a sequence" cs

/-- Takes a record off the front, in one of its two forms. -/
def recordOf (name : String) (ordered : Reader β) (start : γ) (member : String → γ → Reader γ)
    (finish : γ → Except Problem β) : Reader β := fun cs =>
  match trimmed cs with
  | [] => .error .truncated
  | '[' :: cs =>
    match ordered cs with
    | .error e => .error e
    | .ok (b, cs) =>
      match trimmed cs with
      | [] => .error .truncated
      | c :: cs => if c = ']' then .ok (b, cs) else .error .malformed
  | '{' :: cs =>
    match members member ('{' :: cs) true start cs with
    | .error e => .error e
    | .ok (gathered, cs) =>
      match finish gathered with
      | .error e => .error e
      | .ok b => .ok (b, cs)
  | cs => refuse ("struct " ++ name) cs

/-- Takes a value that may be `null` off the front. -/
def optionOf (value : Reader α) : Reader (Option α) := fun cs =>
  match trimmed cs with
  | 'n' :: cs => (word ['u', 'l', 'l'] cs).map (none, ·)
  | cs =>
    match value cs with
    | .ok (a, cs) => .ok (some a, cs)
    | .error e => .error e

mutual

/-- Takes a value off the front. -/
def Shape.read : {α : Type} → Shape α → Reader α
  | _, .integer range => Json.integer range
  | _, .flag => Json.flag
  | _, .text => Json.text
  | _, .list item => listOf item.read
  | _, .record name fields build _ _ => fun cs =>
    match recordOf name (fields.ordered (recordLength name fields.count) 0) fields.start
        fields.member fields.finish cs with
    | .ok (b, cs) => .ok (build b, cs)
    | .error e => .error e

/-- Takes the value of a field off the front. -/
def Field.read : {α : Type} → Field α → Reader α
  | _, .required value => value.read
  | _, .defaulted _ value => value.read
  | _, .optional value => optionOf value.read

/-- Takes the rest of a member off the front, behind its key: the colon and the value of the field
of that name, which must not have been there before, or any value if there is no such field. -/
def Fields.member : {β γ : Type} → Fields β γ → String → γ → Reader γ
  | _, _, .nil, _, _ => fun cs =>
    match colon cs with
    | .error e => .error e
    | .ok cs =>
      match skip cs with
      | .error e => .error e
      | .ok cs => .ok ((), cs)
  | _, _, .cons name field rest, key, (gathered, others) => fun cs =>
    if name = key then
      if gathered.isSome then .error (.mismatch (.duplicateField name))
      else
        match colon cs with
        | .error e => .error e
        | .ok cs =>
          match field.read cs with
          | .error e => .error e
          | .ok (a, cs) => .ok ((some a, others), cs)
    else
      match rest.member key others cs with
      | .error e => .error e
      | .ok (others, cs) => .ok ((gathered, others), cs)

/-- Takes the fields off the front of a list, `index` of them having been taken. Those with a
default may be missing at its end. -/
def Fields.ordered : {β γ : Type} → Fields β γ → String → (index : Nat) → Reader β
  | _, _, .nil, _, _ => fun cs => .ok ((), cs)
  | _, _, .cons _ field rest, expected, index => fun cs =>
    match nextElement (index = 0) cs with
    | .error e => .error e
    | .ok (.stop _) =>
      match field.absent? with
      | none => .error (.mismatch (.invalidLength index expected))
      | some a =>
        match rest.ordered expected (index + 1) cs with
        | .error e => .error e
        | .ok (b, cs) => .ok ((a, b), cs)
    | .ok (.go _ cs) =>
      match field.read cs with
      | .error e => .error e
      | .ok (a, cs) =>
        match rest.ordered expected (index + 1) cs with
        | .error e => .error e
        | .ok (b, cs) => .ok ((a, b), cs)

end

/-- The value that a whole text stands for. -/
def Shape.parse (shape : Shape α) (content : String) : Except Problem α :=
  match shape.read content.toList with
  | .error e => .error e
  | .ok (a, rest) => if trimmed rest = [] then .ok a else .error .malformed

/-- The whole text of a value. -/
def Shape.render (shape : Shape α) (a : α) : String := String.ofList (shape.write a)

/-- How doubles are laid out in messages about JSON texts. -/
def floatLayout : Decimal.FloatLayout where
  positional e := -5 ≤ e && e ≤ 15
  nan := "NaN"
  infinity := "inf"

end IngressControl.Json
