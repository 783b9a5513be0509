import ChatRelay.Text.Cut

/-!
# Tables of code points

A table is written as words with blanks between them.  A word begins with a code point in upper-case
hexadecimal; what follows says something of the run of code points from there to the next word.

* `Runs.ofTable`  the runs that a written table speaks of;
* `Runs.find?`    the run that a code point lies in.
-/

namespace ChatRelay.Text

/-- the value of a digit in upper-case hexadecimal -/
def upperHexDigit? (c : Char) : Option Nat :=
  if c.isDigit then some (c.toNat - 48)
  else if 'A' ≤ c && c ≤ 'F' then some (c.toNat - 55)
  else none

/-- the number that digits in upper-case hexadecimal spell -/
def upperHexNumber (cs : List Char) : Nat :=
  cs.foldl (fun n c => 16 * n + (upperHexDigit? c).getD 0) 0

/-- the characters whose code points are spelled with dots between them -/
def spelledChars (cs : List Char) : List Char :=
  (split (· = '.') cs).map fun part => Char.ofNat (upperHexNumber part)

/-- code points in ascending order, each with what holds from it to the next one -/
abbrev Runs (α : Type) := List (Nat × α)

namespace Runs

variable {α : Type}

/-- the run that a word of a table speaks of -/
def ofWord (read : List Char → α) (word : List Char) : Nat × α :=
  let isDigit c := (upperHexDigit? c).isSome
  (upperHexNumber (word.takeWhile isDigit), read (word.dropWhile isDigit))

/-- the runs of a written table -/
def ofTable (read : List Char → α) (table : String) : Runs α :=
  ((split (fun c => c = ' ' || c = '\n') table.toList).filter (!·.isEmpty)).map (ofWord read)

/-- where the run of a code point begins and what holds in it -/
def find? (n : Nat) : Runs α → Option (Nat × α)
  | [] => none
  | run :: runs =>
    if n < run.1 then none
    else
      match find? n runs with
      | some later => some later
      | none => some run

end Runs
end ChatRelay.Text
