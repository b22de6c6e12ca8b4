/-!
# The parts of a binary64 number

A finite number is `± mantissa · 2 ^ exponent` with a mantissa below `2 ^ 53`. Reading the parts off
the bits turns questions of rounding and printing into exact arithmetic on `Nat` and `Int`.
-/

set_option autoImplicit false

namespace Dossier.Binary64

/-- What a number is: not a number, an infinity, or `± mantissa · 2 ^ exponent`. -/
inductive Parts where
  | nan
  | infinite (negative : Bool)
  | finite (negative : Bool) (mantissa : Nat) (exponent : Int)
deriving DecidableEq, Repr

/-- The place of the sign among the bits: `2 ^ 63`. -/
def signBit : Nat := 9223372036854775808

/-- The implicit leading bit of a mantissa: `2 ^ 52`. -/
def leadingBit : Nat := 4503599627370496

/-- The parts of a number, read off its bits. Subnormal numbers have no implicit leading bit. -/
def parts (x : Float) : Parts :=
  let bits : Nat := x.toBits.toNat
  let negative := decide (signBit ≤ bits)
  let biased : Nat := bits / leadingBit % 2048
  let fraction : Nat := bits % leadingBit
  if biased = 2047 then if fraction = 0 then .infinite negative else .nan
  else if biased = 0 then .finite negative fraction (-1074)
  else .finite negative (leadingBit + fraction) (biased - 1075)

/-- The greatest natural number that is at most `mantissa · 2 ^ exponent`. -/
def floorNat (mantissa : Nat) (exponent : Int) : Nat :=
  if 0 ≤ exponent then mantissa * Nat.pow 2 exponent.toNat
  else mantissa / Nat.pow 2 (-exponent).toNat

/-- The least natural number that is at least `mantissa · 2 ^ exponent`. -/
def ceilNat (mantissa : Nat) (exponent : Int) : Nat :=
  if 0 ≤ exponent then mantissa * Nat.pow 2 exponent.toNat
  else (mantissa + (Nat.pow 2 (-exponent).toNat - 1)) / Nat.pow 2 (-exponent).toNat

/-- An integer brought into the range of 64 bits with a sign. -/
def saturated (k : Int) : Int := max (-signBit) (min (signBit - 1) k)

/-- The greatest integer that is at most a number, in the range of 64 bits with a sign; zero for
what is not a number. -/
def floorInt (x : Float) : Int :=
  match parts x with
  | .nan => 0
  | .infinite negative => if negative then -signBit else signBit - 1
  | .finite negative mantissa exponent =>
    saturated (if negative then -ceilNat mantissa exponent else floorNat mantissa exponent)

/-- A natural number, at most the greatest one of 64 bits, rounded to the nearest binary64
number. -/
def ofCount (n : Nat) : Float := (UInt64.ofNatClamp n).toFloat

end Dossier.Binary64
