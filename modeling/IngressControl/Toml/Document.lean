import IngressControl.Toml.Value

/-!
# Reading TOML documents

A document is a row of lines, each with a header, a key and its value, or neither. The pairs up to
the first header belong to the document's outermost table, all others to the header above them. A
text may begin with a byte order mark.
-/

namespace IngressControl.Toml

/-- What a line says. -/
inductive Line where
  | empty
  | heading (h : Heading)
  | pair (k : Key) (v : Item)

/-- Takes what a line says, without the end of the line. -/
def line : Reader Line := fun cs =>
  match trimmed cs with
  | [] => some (.empty, [])
  | '[' :: '[' :: rest =>
    match key rest with
    | some (k, ']' :: ']' :: rest) => some (.heading ⟨k, true⟩, rest)
    | _ => none
  | '[' :: rest =>
    match key rest with
    | some (k, ']' :: rest) => some (.heading ⟨k, false⟩, rest)
    | _ => none
  | c :: rest =>
    if c = '#' ∨ c = '\n' ∨ c = '\r' then some (.empty, c :: rest)
    else (pair (value deepest) (c :: rest)).map fun ((k, v), rest) => (.pair k v, rest)

/-- All lines of a text; each takes a character at least. -/
def lines : (bound : List Char) → List Char → Option (List Line)
  | _, [] => some []
  | [], _ => none
  | _ :: bound, cs =>
    match line cs with
    | none => none
    | some (l, cs) =>
      match restOfLine cs with
      | none => none
      | some cs => (lines bound cs).map (l :: ·)

/-- The pairs above the first header, and the parts under headers. -/
def sections : List Line → List (Key × Item) × List Section
  | [] => ([], [])
  | .empty :: rest => sections rest
  | .pair k v :: rest => ((k, v) :: (sections rest).1, (sections rest).2)
  | .heading h :: rest => ([], ⟨h, (sections rest).1⟩ :: (sections rest).2)

/-- The text behind a byte order mark. -/
def behindMark : List Char → List Char
  | '\ufeff' :: cs => cs
  | cs => cs

/-- The outermost table of a document, or nothing when the text is not well formed. -/
def parse (content : String) : Option Entries :=
  let cs := behindMark content.toList
  match lines cs cs with
  | none => none
  | some ls =>
    match Entries.addAll [] (sections ls).1 with
    | none => none
    | some top => top.addSections (sections ls).2

end IngressControl.Toml
