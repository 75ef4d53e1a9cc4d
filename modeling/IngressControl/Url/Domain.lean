import IngressControl.Text.Composition
import IngressControl.Url.Domain.Direction
import IngressControl.Url.Domain.Joiner
import IngressControl.Url.Domain.Mapping
import IngressControl.Url.Domain.Punycode

/-!
# Domain names

Any domain name has a form in ASCII. The characters of a name are first written as they have to be and
composed. A label beyond ASCII is then encoded behind the mark `xn--`; a label that has the mark
already has to be the encoding of such a label. All labels must have only characters that stand for
themselves and that have no meaning of their own in a URL; no label begins with a combining mark,
joiners stand where they make a difference, and a name with letters that run from right to left
keeps to one direction in each label.
-/

namespace IngressControl.Domain

/-- Whether a character may not stand in a domain name: control characters, the space and those
that have a meaning of their own in a URL. -/
def isForbidden (c : Char) : Bool :=
  c ≤ ' ' || ['\x7f', '%', '#', '/', ':', '<', '>', '?', '@', '[', '\\', ']', '^', '|'].contains c

/-- Whether a text is in ASCII. -/
def isAscii (cs : List Char) : Bool := cs.all fun c => c.toNat < 128

/-- What stands in front of an encoded label. -/
def mark : List Char := ['x', 'n', '-', '-']

/-- The label that an encoded one stands for: one beyond ASCII, and composed. -/
def decoded? (cs : List Char) : Option (List Char) :=
  match Punycode.decode? cs with
  | none => none
  | some label =>
    if isAscii cs ∧ !isAscii label ∧ !mark.isPrefixOf label ∧ label.all isWritten ∧
        Composition.normalize label = label then some label
    else none

/-- The label that a written one stands for. -/
def label? (cs : List Char) : Option (List Char) :=
  if mark.isPrefixOf cs then decoded? (cs.drop mark.length) else some cs

/-- Whether a label may stand in a domain name. -/
def isLabel (label : List Char) : Bool :=
  !label.any isForbidden && !(label.head?.map isMark).getD false && Joiner.areSensible [] label

/-- A label in ASCII. -/
def asciiLabel (label : List Char) : List Char :=
  if isAscii label then label else mark ++ Punycode.encode label

/-- The labels of a domain name in their written form. -/
def written? (cs : List Char) : Option (List (List Char)) :=
  (cs.mapM writtenAs?).map fun pieces => splitAt '.' (Composition.normalize pieces.flatten)

/-- The ASCII form of a domain name. -/
def toAscii? (cs : List Char) : Option (List Char) := do
  let written ← written? cs
  let labels ← written.mapM label?
  let isTwoWay := labels.any fun label => label.any fun c => (Direction.of c).isRightward
  if labels.all isLabel ∧ (!isTwoWay ∨ labels.all Direction.isConsistent) then
    return joinWith '.' (labels.map asciiLabel)
  else none

end IngressControl.Domain
