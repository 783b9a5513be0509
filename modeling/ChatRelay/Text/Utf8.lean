/-!
# Bytes as characters

A byte sequence is read as a list of symbols: `some c` is a character, `none` a stretch of bytes
that belongs to none (the longest start of a character that its next byte breaks off, or a byte
that can start nothing).

* `symbols`   reads every byte sequence;
* `ofString`  the symbols of a text;
* `lenient`   the text of a byte sequence with U+FFFD for every stretch that is no character;
* `strict?`   the text of a byte sequence that holds characters only.
-/

namespace ChatRelay.Text

/-- a character, or a stretch of bytes that is no character -/
abbrev Symbol := Option Char

namespace Utf8

/-- where the reader stands: between characters, or with `need` bytes of one still to come, the
next of them between `low` and `high` -/
inductive State where
  | ground
  | inside (value need low high : Nat)
  deriving DecidableEq, Repr

/-- the first byte of a character -/
def lead (b : Nat) : List Symbol × State :=
  if b < 0x80 then ([some (Char.ofNat b)], .ground)
  else if b < 0xC2 then ([none], .ground)
  else if b < 0xE0 then ([], .inside (b - 0xC0) 1 0x80 0xBF)
  else if b = 0xE0 then ([], .inside 0 2 0xA0 0xBF)
  else if b = 0xED then ([], .inside 0xD 2 0x80 0x9F)
  else if b < 0xF0 then ([], .inside (b - 0xE0) 2 0x80 0xBF)
  else if b = 0xF0 then ([], .inside 0 3 0x90 0xBF)
  else if b < 0xF4 then ([], .inside (b - 0xF0) 3 0x80 0xBF)
  else if b = 0xF4 then ([], .inside 4 3 0x80 0x8F)
  else ([none], .ground)

/-- one byte more: the symbols it completes and where the reader stands then -/
def step (s : State) (b : Nat) : List Symbol × State :=
  match s with
  | .ground => lead b
  | .inside value need low high =>
    if low ≤ b ∧ b ≤ high then
      if need ≤ 1 then ([some (Char.ofNat (value * 64 + (b - 0x80)))], .ground)
      else ([], .inside (value * 64 + (b - 0x80)) (need - 1) 0x80 0xBF)
    else
      let (out, next) := lead b
      (none :: out, next)

/-- the symbols of the bytes from state `s` on -/
def run (s : State) : List UInt8 → List Symbol
  | [] => if s = .ground then [] else [none]
  | b :: bytes =>
    let (out, next) := step s b.toNat
    out ++ run next bytes

/-- the symbols of a byte sequence -/
def symbols (bytes : ByteArray) : List Symbol := run .ground bytes.toList

/-- the symbols of a text -/
def ofString (s : String) : List Symbol := s.toList.map some

/-- symbols as characters, U+FFFD for a stretch that is none -/
def lenientChars (xs : List Symbol) : List Char := xs.map (·.getD '\uFFFD')

/-- the text of a byte sequence, U+FFFD for every stretch that is no character -/
def lenient (bytes : ByteArray) : String := String.ofList (lenientChars (symbols bytes))

/-- the text of a byte sequence that holds characters only -/
def strict? (bytes : ByteArray) : Option String :=
  (symbols bytes).mapM id |>.map String.ofList

end Utf8
end ChatRelay.Text
