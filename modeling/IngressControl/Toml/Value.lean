import IngressControl.Toml.Number

/-!
# Keys and values of TOML

A key is a row of names with dots between them, each bare or quoted. Lists may spread over lines
and end with a comma; tables between braces may not. Lists and braces nest to a limit, and so do
the names of a key.
-/

namespace IngressControl.Toml

/-- How deep lists and braces may nest, and how many names a key may have. -/
def deepest : Nat := 79

/-! ## Keys -/

/-- Whether a character may stand in a name without quotes. -/
def isBare (c : Char) : Bool := c.isAlphanum || c = '-' || c = '_'

/-- Takes one name of a key. -/
def name : Reader String := fun cs =>
  match cs.takeWhile isBare with
  | [] => (shortString cs).map fun (s, rest) => (String.ofList s, rest)
  | bare => some (String.ofList bare, cs.dropWhile isBare)

/-- Takes the names of a key, with blanks around each. -/
def names : (limit : Nat) → Reader (List String)
  | 0, _ => none
  | limit + 1, cs =>
    match name (trimmed cs) with
    | none => none
    | some (s, cs) =>
      match trimmed cs with
      | '.' :: cs => (names limit cs).map fun (ss, rest) => (s :: ss, rest)
      | cs => some ([s], cs)

/-- Takes a key. -/
def key : Reader Key := fun cs =>
  match names deepest cs with
  | none => none
  | some (parts, rest) => parts.getLast?.map fun last => (⟨parts.dropLast, last⟩, rest)

/-! ## Values -/

/-- Takes a key and its value. -/
def pair (value : Reader Item) : Reader (Key × Item) := fun cs =>
  match key cs with
  | some (k, '=' :: cs) => (value (trimmed cs)).map fun (v, rest) => ((k, v), rest)
  | _ => none

/-- Takes the elements of a list up to its closing bracket. -/
def elements (value : Reader Item) : (bound : List Char) → (taken : List Item) → Reader (List Item)
  | [], _, _ => none
  | _ :: bound, taken, cs =>
    match trimmedLines false cs with
    | ']' :: cs => some (taken.reverse, cs)
    | cs =>
      match value cs with
      | none => none
      | some (v, cs) =>
        match trimmedLines false cs with
        | ',' :: cs => elements value bound (v :: taken) cs
        | ']' :: cs => some ((v :: taken).reverse, cs)
        | _ => none

/-- Takes the members of a table up to its closing brace. -/
def members (value : Reader Item) : (bound : List Char) → Entries → Reader Entries
  | [], _, _ => none
  | _ :: bound, entries, cs =>
    match pair value cs with
    | none => none
    | some ((k, v), cs) =>
      match entries.add k v, trimmed cs with
      | some entries, ',' :: cs => members value bound entries cs
      | some entries, '}' :: cs => some (entries, cs)
      | _, _ => none

/-- Takes a table behind its opening brace. -/
def braces (value : Reader Item) : Reader Entries := fun cs =>
  match trimmed cs with
  | '}' :: rest => some ([], rest)
  | cs => members value cs [] cs

/-- Takes a value that is neither a list nor a table. -/
def scalar : Reader Item := fun cs =>
  match cs with
  | 't' :: 'r' :: 'u' :: 'e' :: rest => some (.boolean true, rest)
  | 'f' :: 'a' :: 'l' :: 's' :: 'e' :: rest => some (.boolean false, rest)
  | c :: _ =>
    if c = '"' ∨ c = '\x27' then (string cs).map fun (s, rest) => (.text (String.ofList s), rest)
    else numberOrMoment cs
  | [] => none

/-- Takes a value with at most `depth` lists and tables in one another. -/
def value : (depth : Nat) → Reader Item
  | 0, cs => scalar cs
  | depth + 1, '[' :: cs =>
    (elements (value depth) ('[' :: cs) [] cs).map fun (items, rest) => (.list items, rest)
  | depth + 1, '{' :: cs =>
    (braces (value depth) cs).map fun (entries, rest) => (.table .braces entries, rest)
  | _ + 1, cs => scalar cs

end IngressControl.Toml
