import ChatRelay.Decimal.Shortest

/-!
# Numbers of a JSON text

A numeral without fraction and exponent that fits 64 bits (signed below zero, unsigned above) is an
integer; every other numeral, and `-0`, is a double.

* `Numeral`          the parts of a numeral as written;
* `Numeral.number?`  its number, none beyond the range of doubles;
* `Number.render`    the text of a number: an integer in decimal, a double with the fewest digits
                     that read back, plainly for decimal exponents from -5 to 15.

The double of a numeral is its first digits, as many as fit 64 bits, times or over a power of ten,
each of the two steps rounded.
-/

namespace ChatRelay.Json

/-- a number as a JSON text has it -/
inductive Number where
  | int (n : Int)
  | float (x : Float)
  deriving DecidableEq, Repr, Inhabited

namespace Number

/-- an integer of 64 bits, signed below zero and unsigned above, or a finite double -/
def canonical : Number → Bool
  | int n => -0x8000000000000000 ≤ n && n < 0x10000000000000000
  | float x => x.isFinite

/-- the number as a double -/
def toFloat : Number → Float
  | int n => if n < 0 then -(UInt64.ofNat n.natAbs).toFloat else (UInt64.ofNat n.natAbs).toFloat
  | float x => x

end Number

/-! ## numerals -/

/-- a numeral as written: sign, digits before the point, digits after it, sign and digits of the
exponent -/
structure Numeral where
  negative : Bool
  whole : List Nat
  fraction : Option (List Nat)
  exponent : Option (Bool × List Nat)
  deriving DecidableEq, Repr

/-- the natural number with the given decimal digits -/
def ofDigits (ds : List Nat) : Nat := ds.foldl (fun n d => 10 * n + d) 0

/-- takes digits into a 64-bit significand while they fit; the second part counts those left out -/
def absorb (significand : Nat) : List Nat → Nat × Nat
  | [] => (significand, 0)
  | d :: ds =>
    if 10 * significand + d < 0x10000000000000000 then absorb (10 * significand + d) ds
    else (significand, ds.length + 1)

/-- a power of ten as a double -/
def tenTo (n : Nat) : Float := Float.ofScientific 1 false n

/-- a double over `10^n`, in steps of at most `10^308` -/
def scaleDown (x : Float) (n : Nat) : Float :=
  if n ≤ 308 then x / tenTo n
  else if x == 0.0 then x
  else scaleDown (x / tenTo 308) (n - 308)
  termination_by n

/-- `significand * 10^place` as a double, none beyond the range -/
def scaled? (significand : Nat) (place : Int) : Option Float :=
  let x := (UInt64.ofNat significand).toFloat
  if place < 0 then some (scaleDown x place.natAbs)
  else if place ≤ 308 then
    let y := x * tenTo place.toNat
    if y.isInf then none else some y
  else if x == 0.0 then some x
  else none

namespace Numeral

/-- the double of a numeral, none beyond the range -/
def float? (t : Numeral) : Option Float :=
  let (head, dropped) := absorb 0 t.whole
  let decimals := t.fraction.getD []
  let (significand, skipped) := absorb head decimals
  let place : Int := dropped - (decimals.length - skipped : Nat)
  let shift : Int := match t.exponent with
    | none => 0
    | some (true, ds) => -(ofDigits ds : Int)
    | some (false, ds) => ofDigits ds
  (scaled? significand (place + shift)).map fun x => if t.negative then -x else x

/-- the number of a numeral, none beyond the range of doubles -/
def number? (t : Numeral) : Option Number :=
  let n := ofDigits t.whole
  match t.fraction, t.exponent, t.negative with
  | none, none, false =>
    if n < 0x10000000000000000 then some (.int n) else t.float?.map .float
  | none, none, true =>
    if 0 < n ∧ n ≤ 0x8000000000000000 then some (.int (-n)) else t.float?.map .float
  | _, _, _ => t.float?.map .float

end Numeral

/-! ## texts -/

/-- how doubles are laid out: the decimal exponents written plainly -/
structure FloatLayout where
  lowest : Int
  highest : Int
  deriving DecidableEq, Repr

/-- doubles are written plainly for decimal exponents from -5 to 15, a whole one with `.0` -/
def layout : FloatLayout := ⟨-5, 15⟩

/-- the decimal digits of a natural number -/
def digitChars (n : Nat) : List Char := Nat.toDigits 10 n

/-- an exponent with its sign, also a positive one -/
def exponentChars (e : Int) : List Char :=
  if e < 0 then '-' :: digitChars e.natAbs else '+' :: digitChars e.natAbs

/-- the decimal `digits * 10^place` under a layout -/
def layOut (l : FloatLayout) (digits : Nat) (place : Int) : List Char :=
  let ds := digitChars digits
  let exponent := place + ds.length - 1
  if exponent < l.lowest ∨ l.highest < exponent then
    match ds with
    | [d] => d :: 'e' :: exponentChars exponent
    | d :: rest => d :: '.' :: rest ++ 'e' :: exponentChars exponent
    | [] => []
  else if 0 ≤ place then
    ds ++ List.replicate place.toNat '0' ++ ['.', '0']
  else if 0 ≤ exponent then
    ds.take (exponent.toNat + 1) ++ '.' :: ds.drop (exponent.toNat + 1)
  else
    '0' :: '.' :: List.replicate (-exponent - 1).toNat '0' ++ ds

/-- whether the sign bit of a double is set -/
def signBit (x : Float) : Bool := 0x8000000000000000 ≤ x.toBits.toNat

/-- the text of a double; one that is not finite has none and is written `null` -/
def floatChars (x : Float) : List Char :=
  match Decimal.Dyadic.ofFloat? x with
  | none => ['n', 'u', 'l', 'l']
  | some v =>
    let body :=
      if v.mantissa = 0 then ['0', '.', '0']
      else
        let (digits, place) := v.shortest
        layOut layout digits place
    if signBit x then '-' :: body else body

/-- the text of an integer -/
def intChars (n : Int) : List Char :=
  if n < 0 then '-' :: digitChars n.natAbs else digitChars n.natAbs

namespace Number

/-- the text of a number -/
def chars : Number → List Char
  | int n => intChars n
  | float x => floatChars x

example : (Number.float 100.0).chars = "100.0".toList := by decide +kernel
example : (Number.float 0.00001).chars = "0.00001".toList := by decide +kernel
example : (Number.float 1e-6).chars = "1e-6".toList := by decide +kernel
example : (Number.float 1e16).chars = "1e+16".toList := by decide +kernel
example : (Number.float 123456789012345678901.0).chars = "1.2345678901234568e+20".toList := by
  decide +kernel
example : (Number.float (-0.0)).chars = "-0.0".toList := by decide +kernel
example : (Number.float 1.5).chars = "1.5".toList := by decide +kernel

end Number
end ChatRelay.Json
