import IngressControl.Json.Number

/-!
# Values that nobody asked for

The value of an unknown key has to be a JSON value, but nothing is made of it: its numbers have no
range, its escapes may leave surrogates without a partner, and it may be nested to any depth,
because the brackets that are open are kept in a list. A number that the end of the text cuts off
is malformed here, whatever it lacks.
-/

namespace IngressControl.Json

/-- A bracket that is open. -/
inductive Bracket where
  | list
  | object

/-- Takes the rest of an escape off the front, behind the backslash. -/
def skipEscape : List Char → Except Problem (List Char)
  | [] => .error .truncated
  | c :: cs =>
    if c = 'u' then (codeUnit cs).map Prod.snd
    else if c ∈ ['"', '\\', '/', 'b', 'f', 'n', 'r', 't'] then .ok cs
    else .error .malformed

/-- Takes the rest of a string off the front, behind its opening quote. -/
def skipString : (bound : List Char) → List Char → Except Problem (List Char)
  | _ :: bound, c :: cs =>
    if c = '"' then .ok cs
    else if c = '\\' then
      match skipEscape cs with
      | .ok cs => skipString bound cs
      | .error e => .error e
    else if c.toNat < 0x20 then .error .malformed
    else skipString bound cs
  | _, _ => .error .truncated

/-- Takes a number off the front. -/
def skipNumber (cs : List Char) : Except Problem (List Char) :=
  let unsigned := match cs with
    | '-' :: cs => cs
    | cs => cs
  let rest : Except Problem (List Char) := do
    let (_, cs) ← wholeDigits unsigned
    let (_, cs) ← fractionDigits cs
    let (_, cs) ← exponent cs
    return cs
  match rest with
  | .ok cs => .ok cs
  | .error _ => .error .malformed

/-- Takes the key of a member and its colon off the front. -/
def skipKey (cs : List Char) : Except Problem (List Char) :=
  match trimmed cs with
  | [] => .error .truncated
  | c :: cs =>
    if c = '"' then
      match skipString cs cs with
      | .ok cs => colon cs
      | .error e => .error e
    else .error .malformed

/-- What has been skipped up to some place of a text. -/
inductive Skipped where
  /-- A value is due; the brackets around it are open, the innermost first. -/
  | due (opened : List Bracket) (rest : List Char)
  /-- The innermost bracket is open, and holds nothing yet when `fresh`. -/
  | inside (fresh : Bool) (innermost : Bracket) (outer : List Bracket) (rest : List Char)
  /-- The whole value has been taken. -/
  | done (rest : List Char)

/-- The place behind a value with the given brackets around it. -/
def Skipped.behind (opened : List Bracket) (rest : List Char) : Skipped :=
  match opened with
  | [] => .done rest
  | innermost :: outer => .inside false innermost outer rest

/-- Takes a scalar off the front, or opens a bracket. -/
def skipOpening (opened : List Bracket) (cs : List Char) : Except Problem Skipped :=
  match trimmed cs with
  | [] => .error .truncated
  | c :: cs =>
    if c = '[' then .ok (.inside true .list opened cs)
    else if c = '{' then .ok (.inside true .object opened cs)
    else Except.map (Skipped.behind opened) <|
      if c = 'n' then word ['u', 'l', 'l'] cs
      else if c = 't' then word ['r', 'u', 'e'] cs
      else if c = 'f' then word ['a', 'l', 's', 'e'] cs
      else if c = '"' then skipString cs cs
      else skipNumber (c :: cs)

/-- Moves to the place of the next value inside a bracket. -/
def Bracket.next (innermost : Bracket) (outer : List Bracket) (cs : List Char) :
    Except Problem Skipped :=
  match innermost with
  | .list => .ok (.due (.list :: outer) cs)
  | .object =>
    match skipKey cs with
    | .ok cs => .ok (.due (.object :: outer) cs)
    | .error e => .error e

/-- Closes the innermost bracket, or moves to its next value. -/
def skipInside (fresh : Bool) (innermost : Bracket) (outer : List Bracket) (cs : List Char) :
    Except Problem Skipped :=
  match trimmed cs, innermost with
  | [], _ => .error .truncated
  | ']' :: cs, .list => .ok (.behind outer cs)
  | '}' :: cs, .object => .ok (.behind outer cs)
  | c :: cs, _ =>
    if fresh then innermost.next outer (c :: cs)
    else if c = ',' then innermost.next outer cs
    else .error .malformed

/-- One move over the text. -/
def Skipped.step : Skipped → Except Problem Skipped
  | .due opened cs => skipOpening opened cs
  | .inside fresh innermost outer cs => skipInside fresh innermost outer cs
  | .done cs => .ok (.done cs)

/-- Moves until the whole value has been taken. Two moves take at least one character. -/
def Skipped.run : (bound : List Char) → Skipped → Except Problem (List Char)
  | _, .done rest => .ok rest
  | [], _ => .error .truncated
  | _ :: bound, place => do
    let place ← place.step
    let place ← place.step
    place.run bound

/-- Takes a value off the front and makes nothing of it. -/
def skip (cs : List Char) : Except Problem (List Char) := Skipped.run cs (.due [] cs)

end IngressControl.Json
