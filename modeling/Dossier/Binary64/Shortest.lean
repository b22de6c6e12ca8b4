import Dossier.Binary64.Parts

/-!
# The shortest decimal that reads back

A finite number `mantissa · 2 ^ exponent` is the nearest binary64 number to every real in an
interval around it. The shortest decimal is the one with the fewest digits in that interval, and of
those the nearest; all comparisons are exact, on naturals.

For a given number of digits only the two neighbours of the value on that decimal grid have to be
tried: if any point of the grid lies in the interval, so does one of them.
-/

set_option autoImplicit false

namespace Dossier.Binary64

/-- The decimal `digits · 10 ^ exponent`. -/
structure Decimal where
  digits : Nat
  exponent : Int
deriving DecidableEq, Repr

/-- A non-negative rational number, as a quotient. -/
structure Ratio where
  num : Nat
  den : Nat

namespace Ratio

/-- The product `n · base ^ exponent`. -/
def scaled (n base : Nat) (exponent : Int) : Ratio :=
  if 0 ≤ exponent then ⟨n * Nat.pow base exponent.toNat, 1⟩
  else ⟨n, Nat.pow base (-exponent).toNat⟩

/-- Whether `a ≤ b`, by cross multiplication. -/
def le (a b : Ratio) : Bool := a.num * b.den ≤ b.num * a.den

/-- Whether `a < b`, by cross multiplication. -/
def lt (a b : Ratio) : Bool := a.num * b.den < b.num * a.den

/-- The place of the first digit: the `p` with `10 ^ p ≤ r < 10 ^ (p + 1)`, for `r` above zero. -/
def leadingPlace (r : Ratio) : Int :=
  if r.den ≤ r.num then ((Nat.toDigits 10 (r.num / r.den)).length : Int) - 1
  else -((Nat.toDigits 10 ((r.den + r.num - 1) / r.num - 1)).length : Int)

end Ratio

/-- The reals that round to a number: its bounds, and whether they round to it themselves. -/
structure Rounding where
  low : Ratio
  high : Ratio
  closed : Bool

/-- The interval of `mantissa · 2 ^ exponent`; below a power of two numbers lie twice as close. -/
def Rounding.ofParts (mantissa : Nat) (exponent : Int) : Rounding where
  low :=
    let gap := if mantissa = leadingBit ∧ -1074 < exponent then 1 else 2
    Ratio.scaled (4 * mantissa - gap) 2 (exponent - 2)
  high := Ratio.scaled (4 * mantissa + 2) 2 (exponent - 2)
  closed := mantissa % 2 == 0

/-- Whether a real lies in the interval. -/
def Rounding.holds (i : Rounding) (r : Ratio) : Bool :=
  if i.closed then i.low.le r && r.le i.high else i.low.lt r && r.lt i.high

/--
The nearest decimal with the last digit at place `place` that lies in the interval; the upper one
of two that are equally near.
-/
def nearestOnGrid (value : Ratio) (i : Rounding) (place : Int) : Option Decimal :=
  let unit := Ratio.scaled 1 10 place
  let below := value.num * unit.den / (value.den * unit.num)
  let at? (d : Nat) : Bool := 0 < d && i.holds (Ratio.scaled d 10 place)
  -- twice the distance from `below`, against one unit
  let upper := value.den * unit.num ≤ 2 * (value.num * unit.den % (value.den * unit.num))
  match at? below, at? (below + 1) with
  | false, false => none
  | true, false => some ⟨below, place⟩
  | false, true => some ⟨below + 1, place⟩
  | true, true => some ⟨if upper then below + 1 else below, place⟩

/-- Trailing zeros moved into the exponent, at most `fuel` of them. -/
def Decimal.strip (fuel : Nat) (d : Decimal) : Decimal :=
  match fuel with
  | 0 => d
  | fuel + 1 =>
    if d.digits % 10 = 0 then Decimal.strip fuel ⟨d.digits / 10, d.exponent + 1⟩ else d

/-- Seventeen digits always suffice. -/
def maxDigits : Nat := 17

/-- The shortest decimal that rounds to `mantissa · 2 ^ exponent`, for a mantissa above zero. -/
def shortest (mantissa : Nat) (exponent : Int) : Decimal :=
  let value := Ratio.scaled mantissa 2 exponent
  let first := value.leadingPlace
  let interval := Rounding.ofParts mantissa exponent
  let found := (List.range maxDigits).findSome? fun (n : Nat) =>
    nearestOnGrid value interval (first - (n : Int))
  (found.getD ⟨0, 0⟩).strip maxDigits

end Dossier.Binary64
