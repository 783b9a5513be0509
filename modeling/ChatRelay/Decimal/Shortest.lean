/-!
# The fewest decimal digits of a double

A positive finite double is `mantissa * 2^exponent`.  Every real between the two midpoints to its
neighbours reads back as that double, the midpoints themselves when the mantissa is even.  Grids of
step `10^e` are tried from the coarse to the fine; the first grid with a point in this interval
wins, of two such points the nearer, and of two equally near ones the even.

* `Dyadic.ofFloat?`  a finite double without its sign;
* `Dyadic.shortest`  digits `d` and place `e` of the decimal `d * 10^e`.
-/

namespace ChatRelay.Decimal

/-- the number `mantissa * 2^exponent`; `tight` when the neighbour below is half as far away as
the one above -/
structure Dyadic where
  mantissa : Nat
  exponent : Int
  tight : Bool
  deriving DecidableEq, Repr

namespace Dyadic

/-- a finite double without its sign -/
def ofFloat? (x : Float) : Option Dyadic :=
  let bits : Nat := x.toBits.toNat
  let e : Nat := bits / 0x10000000000000 % 2048
  let f : Nat := bits % 0x10000000000000
  if e = 2047 then none
  else if e = 0 then some ⟨f, -1074, false⟩
  else some ⟨f + 0x10000000000000, (e : Int) - 1075, decide (f = 0 ∧ 1 < e)⟩

/-- the interval of reals that read back as the number, all in quarters of its last place -/
structure Interval where
  low : Nat
  mid : Nat
  high : Nat
  closed : Bool
  deriving DecidableEq, Repr

/-- the interval of a number in units of `2^(exponent - 2)` -/
def interval (v : Dyadic) : Interval :=
  { low := 4 * v.mantissa - (if v.tight then 1 else 2)
    mid := 4 * v.mantissa
    high := 4 * v.mantissa + 2
    closed := v.mantissa % 2 = 0 }

/-- whether the point `k` of a grid lies in the interval; `unit` and `cell` are the sizes of an
interval unit and of a grid cell in a common measure -/
def Interval.holds (i : Interval) (unit cell k : Nat) : Bool :=
  if i.closed then i.low * unit ≤ k * cell && k * cell ≤ i.high * unit
  else i.low * unit < k * cell && k * cell < i.high * unit

/-- the best point of one grid, if one lies in the interval -/
def Interval.pick? (i : Interval) (unit cell : Nat) : Option Nat :=
  let k := i.mid * unit / cell
  let below := i.mid * unit - k * cell
  let above := (k + 1) * cell - i.mid * unit
  match i.holds unit cell k, i.holds unit cell (k + 1) with
  | true, true =>
    if below < above then some k else if above < below then some (k + 1)
    else if k % 2 = 0 then some k else some (k + 1)
  | true, false => some k
  | false, true => some (k + 1)
  | false, false => none

/-- the two sizes that compare units of `2^p` with cells of `10^e` -/
def scale (p e : Int) : Nat × Nat :=
  let unit := if 0 ≤ p then Nat.pow 2 p.toNat else 1
  let cell := if 0 ≤ p then 1 else Nat.pow 2 (-p).toNat
  if 0 ≤ e then (unit, cell * Nat.pow 10 e.toNat) else (unit * Nat.pow 10 (-e).toNat, cell)

/-- the first of the next `steps` grids, from `10^e` down, that has a point in the interval -/
def search (i : Interval) (p : Int) : (steps : Nat) → (e : Int) → Nat × Int
  | 0, e =>
    let (unit, cell) := scale p e
    (i.mid * unit / cell, e)
  | steps + 1, e =>
    let (unit, cell) := scale p e
    match i.pick? unit cell with
    | some k => (k, e)
    | none => search i p steps (e - 1)

/-- a place above the first digit of the number: `log10 2` is below 0.30103 -/
def topPlace (v : Dyadic) : Int :=
  (((v.mantissa.log2 : Int) + 1 + v.exponent) * 30103) / 100000 + 2

/-- digits and place of the shortest decimal that reads back as the number -/
def shortest (v : Dyadic) : Nat × Int :=
  search v.interval (v.exponent - 2) 40 v.topPlace

example : (ofFloat? 0.1).map shortest = some (1, -1) := by decide +kernel
example : (ofFloat? 100.0).map shortest = some (1, 2) := by decide +kernel
example : (ofFloat? 123456.789).map shortest = some (123456789, -3) := by decide +kernel

end Dyadic
end ChatRelay.Decimal
