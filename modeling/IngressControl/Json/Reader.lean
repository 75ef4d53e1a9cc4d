import IngressControl.Mismatch
import IngressControl.Text.Hex

/-!
# Reading JSON from left to right

A reader takes a value off the front of a text. It goes through the text once, so the first
problem met decides the answer: a value that does not fit, a character that cannot stand where it
stands, or the end of the text in the middle of a value.

Loops are bounded by the text itself: each turn takes at least one character.
-/

namespace IngressControl.Json

/-- Why a text is no JSON text of the wanted type. -/
inductive Problem where
  /-- A value is well formed, but does not fit. -/
  | mismatch (m : Mismatch)
  /-- A character stands where it cannot. -/
  | malformed
  /-- The text ends too early. -/
  | truncated

/-- Takes a value off the front of a text. -/
abbrev Reader (α : Type) := List Char → Except Problem (α × List Char)

/-- The white space of JSON. -/
def isSpace (c : Char) : Bool := c = ' ' || c = '\n' || c = '\t' || c = '\r'

/-- The text behind white space. -/
def trimmed (cs : List Char) : List Char := cs.dropWhile isSpace

/-- Takes the given word off the front. -/
def word : (expected : List Char) → List Char → Except Problem (List Char)
  | [], cs => .ok cs
  | _ :: _, [] => .error .truncated
  | e :: expected, c :: cs => if e = c then word expected cs else .error .malformed

/-! ## Strings -/

/-- Takes four hexadecimal digits off the front. Fewer than four bytes are an early end. -/
def codeUnit : Reader Nat := fun cs =>
  match cs.take 4 |>.mapM Hex.value? with
  | some [a, b, c, d] => .ok (((a * 16 + b) * 16 + c) * 16 + d, cs.drop 4)
  | _ => .error (if (String.ofList (cs.take 4)).utf8ByteSize < 4 then .truncated else .malformed)

/-- The character of a pair of surrogates. -/
def surrogatePair (high low : Nat) : Char :=
  Char.ofNat (0x10000 + (high - 0xd800) * 0x400 + (low - 0xdc00))

/-- Takes the rest of an escape off the front, behind the backslash. A surrogate has to stand in a
pair. -/
def escape : Reader Char
  | [] => .error .truncated
  | '"' :: cs => .ok ('"', cs)
  | '\\' :: cs => .ok ('\\', cs)
  | '/' :: cs => .ok ('/', cs)
  | 'b' :: cs => .ok ('\x08', cs)
  | 'f' :: cs => .ok ('\x0c', cs)
  | 'n' :: cs => .ok ('\n', cs)
  | 'r' :: cs => .ok ('\r', cs)
  | 't' :: cs => .ok ('\t', cs)
  | 'u' :: cs => do
    let (high, cs) ← codeUnit cs
    if 0xdc00 ≤ high ∧ high ≤ 0xdfff then .error .malformed
    else if 0xd800 ≤ high ∧ high ≤ 0xdbff then
      let cs ← word ['\\', 'u'] cs
      let (low, cs) ← codeUnit cs
      if 0xdc00 ≤ low ∧ low ≤ 0xdfff then .ok (surrogatePair high low, cs)
      else .error .malformed
    else .ok (Char.ofNat high, cs)
  | _ :: _ => .error .malformed

/-- Takes the characters of a string up to its closing quote off the front, in `bound` turns at
most; `taken` holds those in front of them, the last one first. -/
def characters : (bound taken : List Char) → Reader (List Char)
  | _ :: bound, taken, c :: cs =>
    if c = '"' then .ok (taken.reverse, cs)
    else if c = '\\' then
      match escape cs with
      | .ok (c, cs) => characters bound (c :: taken) cs
      | .error e => .error e
    else if c.toNat < 0x20 then .error .malformed
    else characters bound (c :: taken) cs
  | _, _, _ => .error .truncated

/-- Takes the rest of a string off the front, behind its opening quote. -/
def string : Reader String := fun cs =>
  match characters cs [] cs with
  | .ok (taken, cs) => .ok (String.ofList taken, cs)
  | .error e => .error e

/-! ## Lists and objects -/

/-- Where a list or an object goes on: it ends, or an element or a key follows. -/
inductive Turn (κ : Type) where
  /-- The closing bracket was taken. -/
  | stop (rest : List Char)
  /-- What stands in front of the next value. -/
  | go (head : κ) (rest : List Char)

/-- Moves to the next element of a list. -/
def nextElement (first : Bool) (cs : List Char) : Except Problem (Turn Unit) :=
  match trimmed cs with
  | [] => .error .truncated
  | c :: cs =>
    if c = ']' then .ok (.stop cs)
    else if first then .ok (.go () (c :: cs))
    else if c = ',' then
      match trimmed cs with
      | [] => .error .truncated
      | c :: cs => if c = ']' then .error .malformed else .ok (.go () (c :: cs))
    else .error .malformed

/-- Takes a key off the front of a text that begins with `c`. -/
def key (c : Char) (cs : List Char) : Except Problem (Turn String) :=
  if c = '"' then
    match string cs with
    | .ok (name, cs) => .ok (.go name cs)
    | .error e => .error e
  else .error .malformed

/-- Moves behind the next key of an object. -/
def nextKey (first : Bool) (cs : List Char) : Except Problem (Turn String) :=
  match trimmed cs with
  | [] => .error .truncated
  | c :: cs =>
    if c = '}' then .ok (.stop cs)
    else if first then key c cs
    else if c = ',' then
      match trimmed cs with
      | [] => .error .truncated
      | c :: cs => key c cs
    else .error .malformed

/-- Takes the colon between a key and its value off the front. -/
def colon (cs : List Char) : Except Problem (List Char) :=
  match trimmed cs with
  | [] => .error .truncated
  | c :: cs => if c = ':' then .ok cs else .error .malformed

/-- Takes the elements of a list up to its closing bracket off the front. -/
def elements (item : Reader α) : (bound : List Char) → (taken : List α) → Reader (List α)
  | [], _, _ => .error .truncated
  | _ :: bound, taken, cs =>
    match nextElement taken.isEmpty cs with
    | .error e => .error e
    | .ok (.stop cs) => .ok (taken.reverse, cs)
    | .ok (.go _ cs) =>
      match item cs with
      | .error e => .error e
      | .ok (a, cs) => elements item bound (a :: taken) cs

/-- Takes the members of an object up to its closing brace off the front. Each key goes to
`member`, which takes the rest of the member and updates what has been gathered. -/
def members (member : String → σ → Reader σ) :
    (bound : List Char) → (first : Bool) → σ → Reader σ
  | [], _, _, _ => .error .truncated
  | _ :: bound, first, gathered, cs =>
    match nextKey first cs with
    | .error e => .error e
    | .ok (.stop cs) => .ok (gathered, cs)
    | .ok (.go name cs) =>
      match member name gathered cs with
      | .error e => .error e
      | .ok (gathered, cs) => members member bound false gathered cs

end IngressControl.Json
