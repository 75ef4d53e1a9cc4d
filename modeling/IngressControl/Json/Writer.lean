import IngressControl.Decimal.Digits
import IngressControl.Text.Hex

/-!
# Writing JSON

Texts without spaces. Inside strings only the quote, the backslash and the characters below
U+0020 are escaped.
-/

namespace IngressControl.Json

/-- How one character of a string is written. -/
def escaped (c : Char) : List Char :=
  match c with
  | '"' => ['\\', '"']
  | '\\' => ['\\', '\\']
  | '\x08' => ['\\', 'b']
  | '\x0c' => ['\\', 'f']
  | '\n' => ['\\', 'n']
  | '\r' => ['\\', 'r']
  | '\t' => ['\\', 't']
  | c => if c.toNat < 0x20 then ['\\', 'u', '0', '0', Hex.digit (c.toNat / 16), Hex.digit c.toNat]
    else [c]

/-- A string with its quotes. -/
def quoted (s : String) : List Char := '"' :: s.toList.flatMap escaped ++ ['"']

/-- The literals of truth values. -/
def boolean (b : Bool) : List Char :=
  if b then ['t', 'r', 'u', 'e'] else ['f', 'a', 'l', 's', 'e']

/-- The literal for what is absent. -/
def null : List Char := ['n', 'u', 'l', 'l']

/-- The text of a value that may be absent. -/
def orNull (write : α → List Char) : Option α → List Char
  | none => null
  | some a => write a

/-- Texts with a comma between any two. -/
def separated : List (List Char) → List Char
  | [] => []
  | [item] => item
  | item :: items => item ++ ',' :: separated items

/-- A list of written values. -/
def list (items : List (List Char)) : List Char := '[' :: separated items ++ [']']

/-- A member of an object, from its key and its written value. -/
def member (m : String × List Char) : List Char := quoted m.1 ++ ':' :: m.2

/-- An object, from its keys and written values. -/
def object (ms : List (String × List Char)) : List Char := '{' :: separated (ms.map member) ++ ['}']

end IngressControl.Json
