import ChatRelay.Json.Basic

/-!
# Writing JSON

The compact text of a document: no blank between tokens, fields in the order they are held, in
strings an escape only for the quote, the backslash and the controls below U+0020.

* `render`       the text of a document;
* `escapeChar`   how one character stands in a string.
-/

namespace ChatRelay.Json

/-- the lower-case hexadecimal digit of a number below sixteen -/
def hexDigitChar (n : Nat) : Char := Char.ofNat (if n < 10 then n + 48 else n + 87)

/-- how a character stands in a string -/
def escapeChar (c : Char) : List Char :=
  if c = '\"' then ['\\', '\"']
  else if c = '\\' then ['\\', '\\']
  else if c = '\x08' then ['\\', 'b']
  else if c = '\x0c' then ['\\', 'f']
  else if c = '\n' then ['\\', 'n']
  else if c = '\r' then ['\\', 'r']
  else if c = '\t' then ['\\', 't']
  else if c.toNat < 0x20 then
    ['\\', 'u', '0', '0', hexDigitChar (c.toNat / 16), hexDigitChar (c.toNat % 16)]
  else [c]

/-- the inside of a string -/
def escapeChars (cs : List Char) : List Char := cs.flatMap escapeChar

@[simp] theorem escapeChars_nil : escapeChars [] = [] := rfl
@[simp] theorem escapeChars_cons (c : Char) (cs : List Char) :
    escapeChars (c :: cs) = escapeChar c ++ escapeChars cs := rfl

/-- a string with its quotes -/
def quoteChars (s : String) : List Char := '\"' :: escapeChars s.toList ++ ['\"']

mutual
/-- the characters of a document -/
def chars : Json → List Char
  | .null => ['n', 'u', 'l', 'l']
  | .bool true => ['t', 'r', 'u', 'e']
  | .bool false => ['f', 'a', 'l', 's', 'e']
  | .number n => n.chars
  | .text s => quoteChars s
  | .array xs => '[' :: itemChars xs ++ [']']
  | .object fs => '\x7b' :: fieldChars fs ++ ['\x7d']
  | .unreadable => ['n', 'u', 'l', 'l']

/-- the characters of the items of an array, commas between them -/
def itemChars : List Json → List Char
  | [] => []
  | [x] => x.chars
  | x :: y :: rest => x.chars ++ ',' :: itemChars (y :: rest)

/-- the characters of the fields of an object, commas between them -/
def fieldChars : List (String × Json) → List Char
  | [] => []
  | [(k, v)] => quoteChars k ++ ':' :: v.chars
  | (k, v) :: f :: rest => quoteChars k ++ ':' :: v.chars ++ ',' :: fieldChars (f :: rest)
end

/-- the compact text of a document -/
def render (j : Json) : String := String.ofList j.chars

end ChatRelay.Json
