/-!
The shortest decimal of a binary fraction: the fewest digits that lie between the two midpoints to
the neighbouring fractions. All arithmetic is exact, on natural numbers.
-/

namespace Duplex.Decimal

structure Shortest where
  digits : Nat
  exponent : Int
  deriving Repr, DecidableEq

/-- A positive fraction `mantissa * 2 ^ exponent`; `halved` says that the fraction below lies at
half the distance of the one above. -/
structure Binary where
  mantissa : Nat
  exponent : Int
  halved : Bool
  deriving Repr, DecidableEq

def Binary.ofBits (bits : Nat) : Binary :=
  let field : Nat := bits / Nat.pow 2 52 % 2048
  let fraction : Nat := bits % Nat.pow 2 52
  if field = 0 then ⟨fraction, -1074, false⟩
  else ⟨Nat.pow 2 52 + fraction, (field : Int) - 1075, fraction = 0 ∧ 1 < field⟩

structure Interval where
  low : Nat
  value : Nat
  high : Nat
  scale : Nat
  closed : Bool

def Binary.interval (b : Binary) : Interval :=
  let up := Nat.pow 2 b.exponent.toNat
  { low := (4 * b.mantissa - if b.halved then 1 else 2) * up
    value := 4 * b.mantissa * up
    high := (4 * b.mantissa + 2) * up
    scale := 4 * Nat.pow 2 (-b.exponent).toNat
    closed := b.mantissa % 2 = 0 }

def Interval.contains (i : Interval) (num den : Nat) : Bool :=
  let x := num * i.scale
  if i.closed then i.low * den ≤ x && x ≤ i.high * den
  else i.low * den < x && x < i.high * den

def Interval.onGrid (i : Interval) (step : Int) : Option Nat :=
  let unit := Nat.pow 10 step.toNat
  let den := Nat.pow 10 (-step).toNat
  let below := i.value * den / (i.scale * unit)
  let inLow := i.contains (below * unit) den
  let inHigh := i.contains ((below + 1) * unit) den
  let gapLow := i.value * den - below * unit * i.scale
  let gapHigh := (below + 1) * unit * i.scale - i.value * den
  if inLow && (!inHigh || gapLow < gapHigh || (gapLow == gapHigh && below % 2 == 0)) then some below
  else if inHigh then some (below + 1)
  else none

def Interval.magnitude (i : Interval) : Int :=
  if i.scale ≤ i.value then (toString (i.value / i.scale)).length
  else 1 - ((toString (i.scale / i.value)).length : Int)

def Interval.search (i : Interval) (step : Int) : Nat → Shortest
  | 0 => ⟨0, 0⟩
  | fuel + 1 =>
    match i.onGrid step with
    | some d => if d = 0 then i.search (step - 1) fuel else ⟨d, step⟩
    | none => i.search (step - 1) fuel

def Shortest.trim (s : Shortest) : Nat → Shortest
  | 0 => s
  | fuel + 1 =>
    if s.digits ≠ 0 ∧ s.digits % 10 = 0 then Shortest.trim ⟨s.digits / 10, s.exponent + 1⟩ fuel
    else s

def Binary.shortest (b : Binary) : Shortest :=
  let i := b.interval
  (i.search i.magnitude 20).trim 20

end Duplex.Decimal
