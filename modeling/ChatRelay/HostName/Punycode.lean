import ChatRelay.Text.Cut

/-!
# Punycode

A label with characters outside ASCII is written as its ASCII characters and, behind a hyphen, the
places and values of the others: numbers to base 36 of varying length, each after the least value
and place that could come next.

* `encode`   the characters of a label in this form;
* `decode?`  the label that such characters stand for.
-/

namespace ChatRelay.HostName.Punycode

/-- the digit of a value below 36: a letter, then a figure -/
def digit (n : Nat) : Char := Char.ofNat (if n < 26 then n + 97 else n + 22)

/-- the threshold of the digit at weight `k` -/
def threshold (k bias : Nat) : Nat := min 26 (max 1 (k - bias))

/-- a number as digits of varying length, the least first; `fuel` bounds their count -/
def number (bias : Nat) : (fuel k q : Nat) → List Char
  | 0, _, q => [digit (q % 36)]
  | fuel + 1, k, q =>
    let t := threshold k bias
    if q < t then [digit q]
    else digit (t + (q - t) % (36 - t)) :: number bias fuel (k + 36) ((q - t) / (36 - t))

/-- division by 35 until the value is small, and 36 for each step; `fuel` bounds the steps -/
def settle : (fuel delta k : Nat) → Nat
  | 0, delta, k => k + 36 * delta / (delta + 38)
  | fuel + 1, delta, k =>
    if 455 < delta then settle fuel (delta / 35) (k + 36) else k + 36 * delta / (delta + 38)

/-- the bias after a number: `count` characters are written, this being the first or not -/
def adapt (delta count : Nat) (first : Bool) : Nat :=
  let d := if first then delta / 700 else delta / 2
  settle d (d + d / count) 0

/-- where the writer stands: digits so far, distance to the next value, bias, characters written -/
structure State where
  digits : List Char
  delta : Nat
  bias : Nat
  count : Nat

/-- one character of the label, while the characters of value `n` are written -/
def visit (basic n : Nat) (s : State) (c : Char) : State :=
  if c.toNat < n then { s with delta := s.delta + 1 }
  else if c.toNat = n then
    { digits := s.digits ++ number s.bias s.delta 36 s.delta
      delta := 0
      bias := adapt s.delta (s.count + 1) (s.count = basic)
      count := s.count + 1 }
  else s

/-- the characters of every value of an ascending list, the least of them not below `n` -/
def visitAll (label : List Char) (basic : Nat) : List Nat → Nat → State → State
  | [], _, s => s
  | m :: values, n, s =>
    let s := { s with delta := s.delta + (m - n) * (s.count + 1) }
    let s := label.foldl (visit basic m) s
    visitAll label basic values (m + 1) { s with delta := s.delta + 1 }

/-- the characters of a label in this form -/
def encode (label : List Char) : List Char :=
  let basic := label.filter (·.toNat < 0x80)
  let values := ((label.filter (0x80 ≤ ·.toNat)).map Char.toNat).eraseDups.mergeSort (· ≤ ·)
  let s := visitAll label basic.length values 0x80 ⟨[], 0, 72, basic.length⟩
  (if basic.isEmpty then [] else basic ++ ['-']) ++ s.digits

/-! ## reading -/

/-- the value of a digit -/
def digitValue? (c : Char) : Option Nat :=
  if c.isLower then some (c.toNat - 97) else if c.isDigit then some (c.toNat - 22) else none

theorem digitValue?_digit {n : Nat} (h : n < 36) : digitValue? (digit n) = some n := by
  have all : ∀ n, n < 36 → digitValue? (digit n) = some n := by decide
  exact all n h

/-- the number that digits of varying length begin with, and what follows it -/
def number? (bias : Nat) : (k weight : Nat) → List Char → Option (Nat × List Char)
  | _, _, [] => none
  | k, weight, c :: cs => do
    let d ← digitValue? c
    let t := threshold k bias
    if d < t then return (d * weight, cs)
    else
      let (n, rest) ← number? bias (k + 36) (weight * (36 - t)) cs
      return (d * weight + n, rest)

/-- a label with the characters put in that digits tell of: each of a value from `n` on, at a place
from `i` on; `fuel` bounds their count -/
def insertAll? : (fuel bias n i : Nat) → (label : List Char) → List Char → Option (List Char)
  | _, _, _, _, label, [] => some label
  | 0, _, _, _, _, _ => none
  | fuel + 1, bias, n, i, label, cs => do
    let (delta, rest) ← number? bias 36 1 cs
    let count := label.length + 1
    let value := n + (i + delta) / count
    let place := (i + delta) % count
    if value.isValidChar then
      insertAll? fuel (adapt delta count (i = 0)) value (place + 1)
        (label.insertIdx place (Char.ofNat value)) rest
    else none

/-- the sides of the last hyphen; where nothing stands before it, all is behind it -/
def cutAtHyphen (cs : List Char) : List Char × List Char :=
  match Text.cutAt? '-' cs.reverse with
  | some (digits, c :: basic) => ((c :: basic).reverse, digits.reverse)
  | _ => ([], cs)

/-- the label that characters in this form stand for -/
def decode? (cs : List Char) : Option (List Char) :=
  let (basic, digits) := cutAtHyphen cs
  if basic.all (·.toNat < 0x80) then insertAll? digits.length 72 0x80 0 basic digits else none

end ChatRelay.HostName.Punycode
