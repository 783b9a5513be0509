import ChatRelay.HostName.Label
import ChatRelay.HostName.Punycode

/-!
# Host names

A name is brought to its one spelling and cut into labels; a label that begins with `xn--` stands
for another one.  In the name's ASCII form every label with characters beyond ASCII is written in
Punycode behind that beginning.

* `labels?`  the labels that a text spells;
* `ascii?`   the ASCII form of the name that a text spells.
-/

namespace ChatRelay.HostName

open Text

/-- the beginning of a label that stands for another one -/
def encodedStart : List Char := "xn--".toList

/-- whether a label that was written in ASCII may be meant: it has characters beyond ASCII, and it
is in the spelling that names have -/
def isEncodable (label : List Char) : Bool := !label.all isAscii && isPlain label

/-- the label that a part of a name stands for -/
def labelOf? (part : List Char) : Option (List Char) :=
  match afterStart? encodedStart part with
  | none => some part
  | some cs => if 2000 < cs.length then none else (Punycode.decode? cs).filter isEncodable

/-- the labels that a text spells, none where it is no name -/
def labels? (cs : List Char) : Option (List (List Char)) := do
  let labels ← (split (· = '.') (← plain? cs)).mapM labelOf?
  if labels.all isWellFormed && (!labels.flatten.any isLeftward || labels.all isDirected) then
    return labels
  else none

/-- a label in ASCII, written so that it reads back -/
def asciiLabel? (label : List Char) : Option (List Char) :=
  if label.all isAscii then some label
  else if 1000 < label.length then none
  else
    let digits := Punycode.encode label
    if (Punycode.decode? digits).filter isEncodable = some label then some (encodedStart ++ digits)
    else none

/-- the ASCII form of the name that a text spells -/
def ascii? (cs : List Char) : Option (List Char) := do
  return glue '.' (← (← labels? cs).mapM asciiLabel?)

end ChatRelay.HostName
