import ChatRelay.Json.Number
import ChatRelay.Json.Reader
import ChatRelay.Text.Cut

/-!
# Scalars of settings files

Strings, numbers and truth values as settings files write them.  Dates are not among them: no
setting is a date.

* `string?`  a string in one of its four notations;
* `bare?`    a number or a truth value.
-/

namespace ChatRelay.Toml

/-- what a reader makes of the beginning of a text, and the rest of it -/
abbrev Step (α : Type) := List Char → Option (α × List Char)

/-- whether a character is a blank within a line -/
def isLineBlank (c : Char) : Bool := c = ' ' || c = '\t'

/-- whether a character may stand in a string or a comment -/
def isTextChar (c : Char) : Bool := (0x20 ≤ c.toNat && c.toNat ≠ 0x7F) || c = '\t'

/-- the rest of a text behind a line end -/
def lineEnd? : List Char → Option (List Char)
  | '\n' :: cs => some cs
  | '\r' :: '\n' :: cs => some cs
  | _ => none

/-! ## strings -/

/-- the value of hexadecimal digits -/
def hexNumber? (cs : List Char) : Option Nat :=
  cs.foldl (fun acc c => do return 16 * (← acc) + (← Json.hexDigit? c)) (some 0)

/-- the character of a code point, none for half of a pair or beyond the last -/
def charOf? (n : Nat) : Option Char := if n.isValidChar then some (Char.ofNat n) else none

/-- the character of an escape of one letter -/
def shortEscape? : Char → Option Char
  | 'b' => some '\x08'
  | 't' => some '\t'
  | 'n' => some '\n'
  | 'f' => some '\x0c'
  | 'r' => some '\r'
  | 'e' => some '\x1b'
  | '\"' => some '\"'
  | '\\' => some '\\'
  | _ => none

/-- a character put in front of what was read -/
def consChar (c : Char) (r : Option (List Char × List Char)) : Option (List Char × List Char) :=
  r.map fun (cs, rest) => (c :: cs, rest)

/-- the rest of a string with escapes on one line -/
def basic? : Step (List Char)
  | '\"' :: cs => some ([], cs)
  | '\\' :: 'x' :: a :: b :: cs => do
    consChar (← charOf? (← hexNumber? [a, b])) (basic? cs)
  | '\\' :: 'u' :: a :: b :: c :: d :: cs => do
    consChar (← charOf? (← hexNumber? [a, b, c, d])) (basic? cs)
  | '\\' :: 'U' :: a :: b :: c :: d :: e :: f :: g :: h :: cs => do
    consChar (← charOf? (← hexNumber? [a, b, c, d, e, f, g, h])) (basic? cs)
  | '\\' :: c :: cs => do consChar (← shortEscape? c) (basic? cs)
  | c :: cs => if isTextChar c then consChar c (basic? cs) else none
  | [] => none

/-- the rest of a string without escapes on one line -/
def literal? : Step (List Char)
  | [] => none
  | c :: cs =>
    if c.toNat = 0x27 then some ([], cs)
    else if isTextChar c then consChar c (literal? cs)
    else none

/-- the quotes that end a string of several lines, up to two of them belonging to it -/
def closing? (quote : Char) (cs : List Char) : Option (List Char × List Char) :=
  let count := (cs.takeWhile (· = quote)).length
  if count < 3 then none
  else
    let kept := min 2 (count - 3)
    some (List.replicate kept quote, cs.drop (kept + 3))

/-- blanks and line ends gone from the beginning -/
def skipSpace (cs : List Char) : List Char :=
  cs.dropWhile fun c => isLineBlank c || c = '\n' || c = '\r'

/-- whether only blanks stand between here and the end of the line -/
def endsLine (cs : List Char) : Bool := (lineEnd? (cs.dropWhile isLineBlank)).isSome

/-- the rest of a string with escapes on several lines; `fuel` bounds its length -/
def basicLines? : (fuel : Nat) → Step (List Char)
  | 0, _ => none
  | fuel + 1, cs =>
    match closing? '\"' cs with
    | some r => some r
    | none =>
      match cs with
      | '\\' :: 'x' :: a :: b :: rest => do
        consChar (← charOf? (← hexNumber? [a, b])) (basicLines? fuel rest)
      | '\\' :: 'u' :: a :: b :: c :: d :: rest => do
        consChar (← charOf? (← hexNumber? [a, b, c, d])) (basicLines? fuel rest)
      | '\\' :: 'U' :: a :: b :: c :: d :: e :: f :: g :: h :: rest => do
        consChar (← charOf? (← hexNumber? [a, b, c, d, e, f, g, h])) (basicLines? fuel rest)
      | '\\' :: rest =>
        if endsLine rest then basicLines? fuel (skipSpace rest)
        else
          match rest with
          | c :: rest => do consChar (← shortEscape? c) (basicLines? fuel rest)
          | [] => none
      | '\r' :: '\n' :: rest => consChar '\n' (basicLines? fuel rest)
      | c :: rest =>
        if isTextChar c || c = '\n' then consChar c (basicLines? fuel rest) else none
      | [] => none

/-- the rest of a string without escapes on several lines; `fuel` bounds its length -/
def literalLines? : (fuel : Nat) → Step (List Char)
  | 0, _ => none
  | fuel + 1, cs =>
    match closing? (Char.ofNat 0x27) cs with
    | some r => some r
    | none =>
      match cs with
      | '\r' :: '\n' :: rest => consChar '\n' (literalLines? fuel rest)
      | c :: rest =>
        if isTextChar c || c = '\n' then consChar c (literalLines? fuel rest) else none
      | [] => none

/-- a text without a line end at its beginning -/
def dropLineEnd (cs : List Char) : List Char := (lineEnd? cs).getD cs

/-- a string in one of its four notations -/
def string? : Step String := fun cs => do
  let (text, rest) ←
    match cs with
    | '\"' :: '\"' :: '\"' :: rest => basicLines? (cs.length + 1) (dropLineEnd rest)
    | '\"' :: rest => basic? rest
    | c :: rest =>
      if c.toNat ≠ 0x27 then none
      else if rest.take 2 = [c, c] then literalLines? (cs.length + 1) (dropLineEnd (rest.drop 2))
      else literal? rest
    | [] => none
  return (String.ofList text, rest)

/-! ## numbers and truth values -/

/-- digits without the underscores between them -/
def ungroup? (cs : List Char) : Option (List Char) :=
  let groups := Text.split (· = '_') cs
  if groups.any List.isEmpty then none else some groups.flatten

/-- the number of digits to a base -/
def natural? (base : Nat) (cs : List Char) : Option Nat := do
  let digits ← ungroup? cs
  digits.foldl (fun acc c => do
    let n ← acc
    let d ← Json.hexDigit? c
    if d < base then some (base * n + d) else none) (some 0)

/-- a sign, if there is one, and what it stands before -/
def signed : List Char → Int × List Char
  | '-' :: cs => (-1, cs)
  | '+' :: cs => (1, cs)
  | cs => (1, cs)

/-- a decimal number without zeros before it -/
def decimal? (cs : List Char) : Option Nat :=
  if cs.head? = some '0' ∧ cs ≠ ['0'] then none else natural? 10 cs

/-- whether an integer can be held in 64 bits, with a sign below zero -/
def isWord (n : Int) : Bool := -0x8000000000000000 ≤ n && n < 0x10000000000000000

/-- an integer -/
def integer? (cs : List Char) : Option Int :=
  let n : Option Int :=
    match cs with
    | '0' :: 'x' :: ds => (natural? 16 ds).map Int.ofNat
    | '0' :: 'o' :: ds => (natural? 8 ds).map Int.ofNat
    | '0' :: 'b' :: ds => (natural? 2 ds).map Int.ofNat
    | cs =>
      let (sign, ds) := signed cs
      (decimal? ds).map (sign * Int.ofNat ·)
  n.filter isWord

/-- the double of a significand and a decimal exponent -/
def scientific (sign : Int) (significand : Nat) (exponent : Int) : Float :=
  let x :=
    if exponent < 0 then Float.ofScientific significand true exponent.natAbs
    else Float.ofScientific significand false exponent.natAbs
  if sign < 0 then -x else x

/-- a decimal exponent; zeros before it do not matter -/
def exponent? (cs : List Char) : Option Int :=
  let (sign, ds) := signed cs
  (natural? 10 ds).map (sign * Int.ofNat ·)

/-- a number with a fraction or an exponent; one beyond the range of doubles is none -/
def float? (cs : List Char) : Option Float := do
  let (sign, body) := signed cs
  if body = "inf".toList then return if sign < 0 then -(1.0 / 0.0) else 1.0 / 0.0
  if body = "nan".toList then return 0.0 / 0.0
  let (mantissa, power) :=
    match Text.cutAt? 'e' (body.map Char.toLower) with
    | some (mantissa, power) => (mantissa, some power)
    | none => (body, none)
  let (whole, fraction) :=
    match Text.cutAt? '.' mantissa with
    | some (whole, fraction) => (whole, some fraction)
    | none => (mantissa, none)
  if fraction.isNone && power.isNone then none
  let _ ← decimal? whole
  let digits ← ungroup? whole
  let places ← match fraction with
    | some f => ungroup? f
    | none => some []
  let e ← match power with
    | some p => exponent? p
    | none => some 0
  let significand ← natural? 10 (digits ++ places)
  let e := max (-100000) (min 100000 e)
  let x := scientific sign significand (e - places.length)
  if x.isFinite then return x else none

/-- whether a character may stand in a number or a truth value -/
def isBareChar (c : Char) : Bool := c.isAlphanum || "_+-.:".contains c

/-- a number or a truth value -/
def bare? : Step Json := fun cs => do
  let word := cs.takeWhile isBareChar
  let rest := cs.dropWhile isBareChar
  if word = "true".toList then return (.bool true, rest)
  if word = "false".toList then return (.bool false, rest)
  match integer? word with
  | some n => return (.number (.int n), rest)
  | none =>
    let x ← float? word
    return (.number (.float x), rest)

end ChatRelay.Toml
