/-!
# TOML documents

What stands under the keys of a document, and how tables grow. A table can be written in several
places: a header opens it, other headers name it on their way, and dotted keys reach into it. Which
of these may follow which depends on how the table came to be, so each table carries its origin.
-/

namespace IngressControl.Toml

/-- How a table came to be. -/
inductive Origin where
  /-- By a header of its own. -/
  | header
  /-- On the way of another table's header. -/
  | implied
  /-- On the way of a dotted key. -/
  | dotted
  /-- Between braces. -/
  | braces
deriving DecidableEq

/-- What stands under a key. -/
inductive Item where
  | text (s : String)
  | integer (n : Int)
  | float (x : Float)
  | boolean (b : Bool)
  /-- A date, a time of day, or both. -/
  | moment
  | list (items : List Item)
  | table (origin : Origin) (entries : List (String × Item))
  /-- A list of tables, each with a header of its own, the last one first. -/
  | tables (reversed : List (List (String × Item)))

/-- The keys of a table with what stands under them, in the order of the document. -/
abbrev Entries := List (String × Item)

/-- A key: the names on the way to a table, and a name in it. -/
structure Key where
  path : List String
  name : String

/-- Puts another item under a key that is there. -/
def Entries.replace (entries : Entries) (name : String) (v : Item) : Entries :=
  entries.map fun e => if e.1 = name then (name, v) else e

/-- Whether a path leads into a table. One of a dotted key does not lead into a table that has a
header, and none leads into a table between braces. -/
def Origin.isOpen (dotted : Bool) : Origin → Bool
  | .header => !dotted
  | .implied => true
  | .dotted => true
  | .braces => false

/-- Changes the table that a path leads to, starting at a table with the given origin and entries.
Tables that are missing on the way are made; a list of tables stands for its last one. -/
def Entries.alter (dotted : Bool) (change : Origin → Entries → Option Entries) :
    (path : List String) → Origin → Entries → Option Entries
  | [], origin, entries => change origin entries
  | name :: path, _, entries =>
    match entries.lookup name with
    | none =>
      let origin := if dotted then .dotted else .implied
      match Entries.alter dotted change path origin [] with
      | none => none
      | some inner => some (entries ++ [(name, .table origin inner)])
    | some (.table origin inner) =>
      if origin.isOpen dotted then
        match Entries.alter dotted change path origin inner with
        | none => none
        | some inner => some (entries.replace name (.table origin inner))
      else none
    | some (.tables (last :: earlier)) =>
      match Entries.alter dotted change path .header last with
      | none => none
      | some last => some (entries.replace name (.tables (last :: earlier)))
    | some _ => none

/-- Puts an item under a new key. A key with dots has to lead to a table that dots have made. -/
def Entries.add (entries : Entries) (key : Key) (v : Item) : Option Entries :=
  let put (origin : Origin) (inner : Entries) : Option Entries :=
    if (key.path ≠ [] ∧ origin ≠ .dotted) ∨ (inner.lookup key.name).isSome then none
    else some (inner ++ [(key.name, v)])
  entries.alter true put key.path .header

/-- Puts several items under new keys, one after the other. -/
def Entries.addAll : (entries : Entries) → List (Key × Item) → Option Entries
  | entries, [] => some entries
  | entries, (key, v) :: rest =>
    match entries.add key v with
    | none => none
    | some entries => entries.addAll rest

/-- A header: of a table, or of the next table in a list. -/
structure Heading where
  key : Key
  isElement : Bool

/-- A part of a document under one header. -/
structure Section where
  heading : Heading
  pairs : List (Key × Item)

/-- Adds a part under a header to a document. A table that other headers have named before is
completed, and moves behind its neighbours. -/
def Entries.addSection (document : Entries) (s : Section) : Option Entries :=
  let name := s.heading.key.name
  let put (_ : Origin) (outer : Entries) : Option Entries :=
    match s.heading.isElement, outer.lookup name with
    | false, none =>
      (Entries.addAll [] s.pairs).map fun inner => outer ++ [(name, .table .header inner)]
    | false, some (.table .implied inner) =>
      (Entries.addAll inner s.pairs).map fun inner =>
        outer.filter (·.1 ≠ name) ++ [(name, .table .header inner)]
    | true, none =>
      (Entries.addAll [] s.pairs).map fun element => outer ++ [(name, .tables [element])]
    | true, some (.tables earlier) =>
      (Entries.addAll [] s.pairs).map fun element => outer.replace name (.tables (element :: earlier))
    | _, some _ => none
  document.alter false put s.heading.key.path .header

/-- Adds the parts of a document in order. -/
def Entries.addSections : (document : Entries) → List Section → Option Entries
  | document, [] => some document
  | document, s :: rest =>
    match document.addSection s with
    | none => none
    | some document => document.addSections rest

end IngressControl.Toml
