import IngressControl.Text.Hex

/-!
# Blanks, comments and strings of TOML

A reader takes something off the front of a text, or fails; failures are not told apart. Lines end
with a line feed, with or without a carriage return in front of it, and neither may stand alone in
a line.

A string stands on one line between single quotes of its kind, or on several lines between triple
ones. Double quotes admit escapes, single quotes (apostrophes) take everything as it is.
-/

namespace IngressControl.Toml

/-- Takes something off the front of a text. -/
abbrev Reader (α : Type) := List Char → Option (α × List Char)

/-! ## Blanks and comments -/

/-- Whether a character separates words in a line. -/
def isGap (c : Char) : Bool := c = ' ' || c = '\t'

/-- The text behind blanks. -/
def trimmed (cs : List Char) : List Char := cs.dropWhile isGap

/-- Whether a character may stand in a comment. -/
def isCommentary (c : Char) : Bool := c = '\t' || ' ' ≤ c

/-- The text behind the end of a line, if one stands at the front. -/
def lineEnd : List Char → Option (List Char)
  | '\n' :: cs => some cs
  | '\r' :: '\n' :: cs => some cs
  | _ => none

/-- The text behind the rest of a line that holds nothing but blanks and a comment. -/
def restOfLine (cs : List Char) : Option (List Char) :=
  let cs :=
    match trimmed cs with
    | '#' :: cs => cs.dropWhile isCommentary
    | cs => cs
  if cs = [] then some [] else lineEnd cs

/-- The text behind blanks, line ends and comments, from inside a comment or not. -/
def trimmedLines : (inComment : Bool) → List Char → List Char
  | _, [] => []
  | _, '\n' :: cs => trimmedLines false cs
  | _, '\r' :: '\n' :: cs => trimmedLines false cs
  | true, c :: cs => if isCommentary c then trimmedLines true cs else c :: cs
  | false, c :: cs =>
    if c = '#' then trimmedLines true cs else if isGap c then trimmedLines false cs else c :: cs

/-- The text behind blanks and line ends. -/
def unindented : List Char → List Char
  | [] => []
  | '\n' :: cs => unindented cs
  | '\r' :: '\n' :: cs => unindented cs
  | c :: cs => if isGap c then unindented cs else c :: cs

/-! ## Strings -/

/-- Takes the character of a code point given by some number of hexadecimal digits. -/
def codePoint (count : Nat) : Reader Char := fun cs =>
  match (cs.take count).mapM Hex.value? with
  | none => none
  | some digits =>
    let code := digits.foldl (fun n d => 16 * n + d) 0
    if digits.length = count ∧ code.isValidChar then some (Char.ofNat code, cs.drop count) else none

/-- Takes the rest of an escape, behind the backslash. -/
def escape : Reader Char
  | 'b' :: cs => some ('\x08', cs)
  | 't' :: cs => some ('\t', cs)
  | 'n' :: cs => some ('\n', cs)
  | 'f' :: cs => some ('\x0c', cs)
  | 'r' :: cs => some ('\r', cs)
  | '"' :: cs => some ('"', cs)
  | '\\' :: cs => some ('\\', cs)
  | 'u' :: cs => codePoint 4 cs
  | 'U' :: cs => codePoint 8 cs
  | _ => none

/-- Whether a character may stand in a string as it is, quotes and backslashes apart. -/
def isTextual (c : Char) : Bool := c = '\t' || (' ' ≤ c && c ≠ '\x7f')

/-- Takes the rest of a string on one line, behind its opening quote. -/
def lineText (quote : Char) : (bound taken : List Char) → Reader (List Char)
  | _ :: bound, taken, c :: cs =>
    if c = quote then some (taken.reverse, cs)
    else if c = '\\' ∧ quote = '"' then
      match escape cs with
      | none => none
      | some (c, cs) => lineText quote bound (c :: taken) cs
    else if isTextual c then lineText quote bound (c :: taken) cs
    else none
  | _, _, _ => none

/-- Takes the rest of a string on several lines, behind its opening quotes. Of more than three quotes
in a row the last three close the string, but at most two in front of them belong to it. A
backslash at the end of a line joins the lines. -/
def blockText (quote : Char) : (bound taken : List Char) → Reader (List Char)
  | _ :: bound, taken, c :: cs =>
    if c = quote then
      let run := ((c :: cs).takeWhile (· = quote)).length
      if run < 3 then
        blockText quote bound (List.replicate run quote ++ taken) ((c :: cs).drop run)
      else
        let kept := min 2 (run - 3)
        some ((List.replicate kept quote ++ taken).reverse, (c :: cs).drop (kept + 3))
    else if c = '\\' ∧ quote = '"' then
      match lineEnd (trimmed cs) with
      | some cs => blockText quote bound taken (unindented cs)
      | none =>
        match escape cs with
        | none => none
        | some (c, cs) => blockText quote bound (c :: taken) cs
    else if isTextual c then blockText quote bound (c :: taken) cs
    else
      match lineEnd (c :: cs) with
      | none => none
      | some cs => blockText quote bound ('\n' :: taken) cs
  | _, _, _ => none

/-- A line end right behind the opening quotes does not count. -/
def behindLineEnd (cs : List Char) : List Char := (lineEnd cs).getD cs

/-- Takes a string on one line. -/
def shortString : Reader (List Char)
  | '"' :: cs => lineText '"' cs [] cs
  | '\x27' :: cs => lineText '\x27' cs [] cs
  | _ => none

/-- Takes a string of any kind. -/
def string : Reader (List Char)
  | '"' :: '"' :: '"' :: cs => blockText '"' cs [] (behindLineEnd cs)
  | '\x27' :: '\x27' :: '\x27' :: cs => blockText '\x27' cs [] (behindLineEnd cs)
  | cs => shortString cs

end IngressControl.Toml
