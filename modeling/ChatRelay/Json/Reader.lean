import ChatRelay.Json.Basic
import ChatRelay.Text.Utf8

/-!
# Reading JSON

The grammar is strict: one document, blanks (space, tab, line feed, carriage return) around tokens
only, no control character inside a string, every escape complete.  What the grammar accepts and no
value can hold comes out as `unreadable`: a string with a surrogate that has no partner or with
bytes that are no character, an object with such a key, a number beyond the range of doubles, an
array or object inside 127 others.

* `read?`        the document of a list of symbols;
* `ofBytes?`     the document of a byte sequence;
* `ofString?`    the document of a text.

Every call of the three mutual readers takes a symbol or is followed by one that does, so twice the
length of the input bounds their recursion.
-/

namespace ChatRelay.Json

open Text (Symbol)

/-- arrays and objects may stand inside one another this deep -/
def maxDepth : Nat := 127

/-! ## tokens -/

/-- the blanks of JSON -/
def isJsonBlank : Symbol → Bool
  | some ' ' | some '\t' | some '\n' | some '\r' => true
  | _ => false

/-- the input from its first token on -/
def skipBlanks (input : List Symbol) : List Symbol := input.dropWhile isJsonBlank

/-- the value of a hexadecimal digit -/
def hexDigit? (c : Char) : Option Nat :=
  if '0' ≤ c ∧ c ≤ '9' then some (c.toNat - 48)
  else if 'a' ≤ c ∧ c ≤ 'f' then some (c.toNat - 87)
  else if 'A' ≤ c ∧ c ≤ 'F' then some (c.toNat - 55)
  else none

/-- the value of four hexadecimal digits -/
def hexUnit? (a b c d : Char) : Option Nat := do
  return ((← hexDigit? a) * 16 + (← hexDigit? b)) * 256 + (← hexDigit? c) * 16 + (← hexDigit? d)

/-- the character of a short escape -/
def shortEscape? : Char → Option Char
  | '\"' => some '\"'
  | '\\' => some '\\'
  | '/' => some '/'
  | 'b' => some '\x08'
  | 'f' => some '\x0c'
  | 'n' => some '\n'
  | 'r' => some '\r'
  | 't' => some '\t'
  | _ => none

/-- a piece of a string: a symbol as it stands, or a 16-bit unit given by its number -/
inductive Piece where
  | symbol (x : Symbol)
  | unit (n : Nat)
  deriving DecidableEq, Repr

/-- the pieces of a string up to its closing quote, and what follows the quote -/
def pieces? : List Symbol → Option (List Piece × List Symbol)
  | [] => none
  | some '\"' :: rest => some ([], rest)
  | some '\\' :: some 'u' :: some a :: some b :: some c :: some d :: rest =>
    match hexUnit? a b c d, pieces? rest with
    | some n, some (ps, tail) => some (.unit n :: ps, tail)
    | _, _ => none
  | some '\\' :: some c :: rest =>
    match shortEscape? c, pieces? rest with
    | some x, some (ps, tail) => some (.symbol (some x) :: ps, tail)
    | _, _ => none
  | x :: rest =>
    if x = some '\\' ∨ x.any (·.toNat < 0x20) then none
    else (pieces? rest).map fun (ps, tail) => (.symbol x :: ps, tail)

/-- the first half of a character beyond 16 bits -/
def isHighSurrogate (n : Nat) : Bool := 0xD800 ≤ n && n < 0xDC00

/-- the second half of a character beyond 16 bits -/
def isLowSurrogate (n : Nat) : Bool := 0xDC00 ≤ n && n < 0xE000

/-- the characters of a string, none if a surrogate stands alone or a symbol is no character -/
def assemble? : List Piece → Option (List Char)
  | [] => some []
  | .symbol (some c) :: ps => (assemble? ps).map (c :: ·)
  | .symbol none :: _ => none
  | .unit h :: .unit l :: ps =>
    if isHighSurrogate h && isLowSurrogate l then
      (assemble? ps).map (Char.ofNat (0x10000 + (h - 0xD800) * 0x400 + (l - 0xDC00)) :: ·)
    else if isHighSurrogate h || isLowSurrogate h then none
    else (assemble? (.unit l :: ps)).map (Char.ofNat h :: ·)
  | .unit n :: ps =>
    if isHighSurrogate n || isLowSurrogate n then none
    else (assemble? ps).map (Char.ofNat n :: ·)

/-- the string after an opening quote, none inside when it is unreadable -/
def string? (input : List Symbol) : Option (Option String × List Symbol) :=
  (pieces? input).map fun (ps, rest) => ((assemble? ps).map String.ofList, rest)

/-- the value of a decimal digit -/
def digit? : Symbol → Option Nat
  | some c => if '0' ≤ c ∧ c ≤ '9' then some (c.toNat - 48) else none
  | none => none

/-- the decimal digits at the front of the input, and what follows them -/
def digits : List Symbol → List Nat × List Symbol
  | [] => ([], [])
  | x :: rest =>
    match digit? x with
    | some d =>
      let (ds, tail) := digits rest
      (d :: ds, tail)
    | none => ([], x :: rest)

/-- the digits before the point: one zero, or digits that start with none -/
def whole? (input : List Symbol) : Option (List Nat × List Symbol) :=
  match digits input with
  | ([], _) => none
  | (0 :: _ :: _, _) => none
  | (ds, rest) => some (ds, rest)

/-- the point and the digits after it, if there is a point -/
def fraction? : List Symbol → Option (Option (List Nat) × List Symbol)
  | some '.' :: rest =>
    match digits rest with
    | ([], _) => none
    | (ds, tail) => some (some ds, tail)
  | input => some (none, input)

/-- the sign of an exponent, plus if there is none -/
def exponentSign : List Symbol → Bool × List Symbol
  | some '+' :: rest => (false, rest)
  | some '-' :: rest => (true, rest)
  | input => (false, input)

/-- the sign and digits of the exponent, if there is one -/
def exponent? : List Symbol → Option (Option (Bool × List Nat) × List Symbol)
  | some 'e' :: rest | some 'E' :: rest =>
    let (negative, body) := exponentSign rest
    match digits body with
    | ([], _) => none
    | (ds, tail) => some (some (negative, ds), tail)
  | input => some (none, input)

/-- a numeral at the front of the input -/
def numeral? (input : List Symbol) : Option (Numeral × List Symbol) := do
  let (negative, input) := match input with
    | some '-' :: rest => (true, rest)
    | _ => (false, input)
  let (whole, input) ← whole? input
  let (fraction, input) ← fraction? input
  let (exponent, input) ← exponent? input
  return ({ negative, whole, fraction, exponent }, input)

/-- what follows the given letters -/
def word? (letters : List Char) (input : List Symbol) : Option (List Symbol) :=
  if (letters.map some).isPrefixOf input then some (input.drop letters.length) else none

/-! ## documents -/

mutual
/-- a document at the front of the input, under `levels` further arrays and objects -/
def document? : (fuel levels : Nat) → List Symbol → Option (Json × List Symbol)
  | 0, _, _ => none
  | fuel + 1, levels, input =>
    match skipBlanks input with
    | some '\"' :: rest =>
      (string? rest).map fun (s, tail) => (s.elim .unreadable .text, tail)
    | some '[' :: rest =>
      match skipBlanks rest with
      | some ']' :: tail => some (if levels = 0 then .unreadable else .array [], tail)
      | _ => (items? fuel (levels - 1) rest).map fun (xs, tail) =>
          (if levels = 0 then .unreadable else .array xs, tail)
    | some '\x7b' :: rest =>
      match skipBlanks rest with
      | some '\x7d' :: tail => some (if levels = 0 then .unreadable else .object [], tail)
      | _ => (fields? fuel (levels - 1) rest).map fun (fs, tail) =>
          (if levels = 0 then .unreadable else fs.elim .unreadable .object, tail)
    | some 'n' :: rest => (word? ['u', 'l', 'l'] rest).map fun tail => (.null, tail)
    | some 't' :: rest => (word? ['r', 'u', 'e'] rest).map fun tail => (.bool true, tail)
    | some 'f' :: rest => (word? ['a', 'l', 's', 'e'] rest).map fun tail => (.bool false, tail)
    | token => (numeral? token).map fun (t, tail) => (t.number?.elim .unreadable .number, tail)

/-- the items of an array from its first one on, and what follows the closing bracket -/
def items? : (fuel levels : Nat) → List Symbol → Option (List Json × List Symbol)
  | 0, _, _ => none
  | fuel + 1, levels, input =>
    match document? fuel levels input with
    | none => none
    | some (x, rest) =>
      match skipBlanks rest with
      | some ',' :: tail => (items? fuel levels tail).map fun (xs, tail) => (x :: xs, tail)
      | some ']' :: tail => some ([x], tail)
      | _ => none

/-- the fields of an object from its first one on, none inside when a key is unreadable, and what
follows the closing brace -/
def fields? : (fuel levels : Nat) → List Symbol →
    Option (Option (List (String × Json)) × List Symbol)
  | 0, _, _ => none
  | fuel + 1, levels, input =>
    match skipBlanks input with
    | some '\"' :: rest =>
      match string? rest with
      | none => none
      | some (key, rest) =>
        match skipBlanks rest with
        | some ':' :: rest =>
          match document? fuel levels rest with
          | none => none
          | some (x, rest) =>
            match skipBlanks rest with
            | some ',' :: tail => (fields? fuel levels tail).map fun (fs, tail) =>
                (key.bind fun k => fs.map ((k, x) :: ·), tail)
            | some '\x7d' :: tail => some (key.map fun k => [(k, x)], tail)
            | _ => none
        | _ => none
    | _ => none
end

/-- the document of a list of symbols, none where the grammar is broken -/
def read? (input : List Symbol) : Option Json :=
  match document? (2 * input.length + 2) maxDepth input with
  | some (j, rest) => if (skipBlanks rest).isEmpty then some j else none
  | none => none

/-- the document of a byte sequence -/
def ofBytes? (bytes : ByteArray) : Option Json := read? (Text.Utf8.symbols bytes)

/-- the document of a text -/
def ofString? (s : String) : Option Json := read? (Text.Utf8.ofString s)

end ChatRelay.Json
