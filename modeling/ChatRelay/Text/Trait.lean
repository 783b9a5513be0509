import ChatRelay.Text.Runs
import ChatRelay.Text.TraitTable

/-!
# Traits of characters

What a text is checked for beyond its single characters hangs on traits of these: the direction they
are written in, how letters of a cursive script join, which of them are marks on the character
before, and the order that several marks on one character have.

* `Trait.of`  the traits of a character.
-/

namespace ChatRelay.Text

/-- whether a character belongs to ASCII -/
def isAscii (c : Char) : Bool := c.toNat < 0x80

/-- the direction that a character is written in -/
inductive Direction where
  | rightward
  | leftward
  | digit
  | leftwardDigit
  | neutral
  | inherited
  deriving DecidableEq, Repr

/-- the sides on which a character joins its neighbours; `passed` ones are not looked at -/
inductive Joining where
  | none
  | both
  | before
  | behind
  | passed
  deriving DecidableEq, Repr

/-- the traits of a character; `place` is its place among the marks of one character, zero for a
character that begins anew -/
structure Trait where
  direction : Direction := .neutral
  joining : Joining := .none
  isMark : Bool := false
  place : Nat := 0
  deriving DecidableEq, Repr

namespace Trait

/-- the direction that a letter of the table stands for -/
def directionOf : Char → Direction
  | 'l' => .rightward
  | 'r' => .leftward
  | 'd' => .digit
  | 'g' => .leftwardDigit
  | 'm' => .inherited
  | _ => .neutral

/-- traits with what a character of a word in the table adds to them -/
def add (t : Trait) (c : Char) : Trait :=
  match c with
  | 'w' => { t with joining := .both }
  | 'y' => { t with joining := .before }
  | 'z' => { t with joining := .behind }
  | 't' => { t with joining := .passed }
  | 'k' => { t with isMark := true }
  | c => if c.isDigit then { t with place := 10 * t.place + (c.toNat - 48) } else t

/-- the traits that a word of the table tells -/
def ofWord : List Char → Trait
  | [] => {}
  | c :: cs => cs.foldl add { direction := directionOf c }

/-- the runs of characters beyond ASCII with the same traits -/
def runs : Runs Trait := .ofTable ofWord traitTable

/-- the traits of a character of ASCII: letters and digits have a direction, and none is a mark -/
def ofAscii (c : Char) : Trait :=
  { direction := if c.isDigit then .digit else if c.isAlpha then .rightward else .neutral }

/-- the traits of a character -/
def of (c : Char) : Trait :=
  if isAscii c then ofAscii c else ((runs.find? c.toNat).map (·.2)).getD {}

theorem of_ascii {c : Char} (h : isAscii c = true) : of c = ofAscii c := by rw [of, if_pos h]

end Trait
end ChatRelay.Text
