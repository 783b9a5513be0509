import ChatRelay.HostName.MappingTable
import ChatRelay.Text.Composition

/-!
# What host names make of characters

Spellings of a name that are meant alike come to one: letters lose their case, wide and styled
letters their style, and characters that nobody sees are left out.  Some characters may not stand in
a name at all.

* `plain?`    a text in the one spelling that names have;
* `isPlain`   whether a text has that spelling.
-/

namespace ChatRelay.HostName

open Text

/-- what becomes of the characters of a run -/
inductive Image where
  | itself
  | forbidden
  | leftOut
  | shifted (distance : Int)
  | alternating
  | spelled (chars : List Char)
  deriving DecidableEq, Repr

/-- what a word of the table tells -/
def Image.ofWord : List Char → Image
  | ['v'] => .itself
  | ['i'] => .leftOut
  | ['~'] => .alternating
  | '+' :: cs => .shifted (upperHexNumber cs)
  | '-' :: cs => .shifted (-(upperHexNumber cs : Int))
  | '=' :: cs => .spelled (spelledChars cs)
  | _ => .forbidden

/-- the characters that a character of a run becomes, which begins at `start` -/
def Image.chars? (start : Nat) (c : Char) : Image → Option (List Char)
  | .itself => some [c]
  | .forbidden => none
  | .leftOut => some []
  | .shifted distance => some [Char.ofNat ((c.toNat : Int) + distance).toNat]
  | .alternating => some [if (c.toNat - start) % 2 = 0 then Char.ofNat (c.toNat + 1) else c]
  | .spelled chars => some chars

/-- the runs of characters beyond ASCII with the same image -/
def images : Runs Image := .ofTable Image.ofWord mappingTable

/-- what a character becomes, none if it may not stand in a name -/
def charImage? (c : Char) : Option (List Char) :=
  if isAscii c then some [c.toLower]
  else (images.find? c.toNat).bind fun (start, image) => image.chars? start c

/-- a text in the one spelling that names have -/
def plain? (cs : List Char) : Option (List Char) := do
  return compose (← cs.mapM charImage?).flatten

/-- whether a text is in the one spelling that names have -/
def isPlain (cs : List Char) : Bool := cs.all (fun c => charImage? c = some [c]) && compose cs = cs

end ChatRelay.HostName
