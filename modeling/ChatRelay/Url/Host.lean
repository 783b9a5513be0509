import ChatRelay.HostName.Basic
import ChatRelay.Url.Percent

/-!
# Hosts

The host of an address is a name in its ASCII form, four numbers or eight pieces.  A name whose last
part is a number has to be an address of four numbers.

* `special?`  the host of a scheme whose hosts are names;
* `plain?`   the host of any other scheme.
-/

namespace ChatRelay.Url

/-- why a text is no address -/
inductive Problem where
  | noScheme
  | emptyHost
  | port
  | fourNumbers
  | eightPieces
  | hostCharacter
  deriving DecidableEq, Repr

/-- the wording of a problem -/
def Problem.message : Problem → String
  | .noScheme => "relative URL without a base"
  | .emptyHost => "empty host"
  | .port => "invalid port number"
  | .fourNumbers => "invalid IPv4 address"
  | .eightPieces => "invalid IPv6 address"
  | .hostCharacter => "invalid domain character"

/-- the value of digits to a base, none where a character is no digit -/
def digits? (base : Nat) (cs : List Char) : Option Nat :=
  cs.foldl (fun acc c => do
    let n ← acc
    let d ← hexValue? c
    if d < base then some (base * n + d) else none) (some 0)

/-! ## four numbers -/

/-- a number in a host: hexadecimal behind `0x`, octal behind `0`, else decimal -/
def hostNumber? : List Char → Option Nat
  | '0' :: 'x' :: cs | '0' :: 'X' :: cs => digits? 16 cs
  | '0' :: c :: cs => digits? 8 (c :: cs)
  | [] => none
  | cs => digits? 10 cs

/-- the parts of a host that may be numbers: an empty last one does not count -/
def hostParts (cs : List Char) : List (List Char) :=
  let parts := Text.split (· = '.') cs
  if 1 < parts.length ∧ parts.getLast? = some [] then parts.dropLast else parts

/-- whether the last part of a host is a number -/
def endsInNumber (cs : List Char) : Bool :=
  match (hostParts cs).getLast? with
  | some part =>
    (part ≠ [] && part.all fun c => '0' ≤ c && c ≤ '9')
      || (["0x".toList, "0X".toList].contains (part.take 2) && (digits? 16 (part.drop 2)).isSome)
  | none => false

/-- the number that parts of an address make, the last filling the bytes that are left -/
def addressOf? : List Nat → (left : Nat) → Option Nat
  | [], _ => none
  | [n], left => if n < Nat.pow 256 left then some n else none
  | n :: ns, left =>
    if n < 256 ∧ 1 < left then
      (addressOf? ns (left - 1)).map (n * Nat.pow 256 (left - 1) + ·)
    else none

/-- an address of four numbers as it is written -/
def fourNumbers (n : Nat) : List Char :=
  Text.glue '.' ([n / 0x1000000, n / 0x10000, n / 0x100, n].map fun b => Nat.toDigits 10 (b % 256))

/-! ## eight pieces -/

/-- a piece: one to four hexadecimal digits -/
def piece? (cs : List Char) : Option Nat :=
  if cs.length = 0 ∨ 4 < cs.length then none else digits? 16 cs

/-- a decimal number below 256 without leading zeros -/
def byte? (cs : List Char) : Option Nat :=
  if cs = [] ∨ 3 < cs.length ∨ (1 < cs.length ∧ cs.head? = some '0') then none
  else (digits? 10 cs).filter (· < 256)

/-- the last two pieces written as four decimal numbers -/
def lastPieces? (cs : List Char) : Option (List Nat) :=
  match (Text.split (· = '.') cs).map byte? with
  | [some a, some b, some c, some d] => some [256 * a + b, 256 * c + d]
  | _ => none

/-- pieces between colons; only the last may be written as four decimal numbers -/
def pieces? : List (List Char) → Option (List Nat)
  | [] => some []
  | [part] => if part.contains '.' then lastPieces? part else (piece? part).map ([·])
  | part :: parts => do
    let n ← piece? part
    let ns ← pieces? parts
    return n :: ns

/-- pieces of a text, none of them where it is empty -/
def piecesOf? (cs : List Char) : Option (List Nat) :=
  if cs.isEmpty then some [] else pieces? (Text.split (· = ':') cs)

/-- the two sides of the first two colons in a row -/
def cutAtGap? : List Char → Option (List Char × List Char)
  | ':' :: ':' :: cs => some ([], cs)
  | c :: cs => (cutAtGap? cs).map fun (before, after) => (c :: before, after)
  | [] => none

/-- the eight pieces of an address; two colons in a row stand for pieces of zero -/
def eightPieces? (cs : List Char) : Option (List Nat) :=
  match cutAtGap? cs with
  | none => (piecesOf? cs).filter (·.length = 8)
  | some (before, after) => do
    let front ← piecesOf? before
    let back ← piecesOf? after
    if before.contains '.' || 7 < front.length + back.length then none
    else some (front ++ List.replicate (8 - front.length - back.length) 0 ++ back)

/-- how many pieces of zero a list begins with -/
def zeros (ps : List Nat) : Nat := (ps.takeWhile (· = 0)).length

/-- where the longest stretch of zeros begins and how long it is, the first of several; `start` is
the place of the list's head -/
def longestZeros : (start : Nat) → List Nat → Nat × Nat
  | start, [] => (start, 0)
  | start, p :: ps =>
    let here := zeros (p :: ps)
    let later := longestZeros (start + 1) ps
    if later.2 ≤ here then (start, here) else later

/-- pieces with colons between them -/
def pieceChars (ps : List Nat) : List Char := Text.glue ':' (ps.map (Nat.toDigits 16))

/-- eight pieces as they are written: the longest stretch of two zeros or more is left out -/
def eightPieces (ps : List Nat) : List Char :=
  let (start, count) := longestZeros 0 ps
  if count < 2 then pieceChars ps
  else pieceChars (ps.take start) ++ "::".toList ++ pieceChars (ps.drop (start + count))

/-! ## names -/

/-- the characters that no host may have -/
def isForbidden (c : Char) : Bool := c.toNat = 0 || "\t\n\r #/:<>?@[\\]^|".contains c

/-- the characters that no name may have -/
def isForbiddenInName (c : Char) : Bool :=
  c.toNat < 0x20 || isForbidden c || c = '%' || c.toNat = 0x7F

/-- the name that a host spells, its percent signs followed; bytes that are no character become one
that no name may have -/
def decodedName (cs : List Char) : List Char :=
  Text.Utf8.lenientChars (Text.Utf8.run .ground (decode cs))

/-- the inside of brackets -/
def bracketed? : List Char → Option (List Char)
  | '[' :: cs => if cs.getLast? = some ']' then some cs.dropLast else none
  | _ => none

/-- the host in brackets -/
def bracketHost (cs : List Char) : Except Problem (List Char) :=
  match (bracketed? cs).bind eightPieces? with
  | some ps => .ok ('[' :: eightPieces ps ++ [']'])
  | none => .error .eightPieces

/-- the host of a scheme whose hosts are names -/
def special? (cs : List Char) : Except Problem (List Char) :=
  if cs.head? = some '[' then bracketHost cs
  else
    match HostName.ascii? (decodedName cs) with
    | none => .error .hostCharacter
    | some name =>
      if name.isEmpty then .error .emptyHost
      else if name.any isForbiddenInName then .error .hostCharacter
      else if endsInNumber name then
        match ((hostParts name).mapM hostNumber?).bind (addressOf? · 4) with
        | some n => .ok (fourNumbers n)
        | none => .error .fourNumbers
      else .ok name

/-- the host of any other scheme -/
def plain? (cs : List Char) : Except Problem (List Char) :=
  if cs.head? = some '[' then bracketHost cs
  else if cs.any isForbidden then .error .hostCharacter
  else .ok (encode inControls cs)

end ChatRelay.Url
