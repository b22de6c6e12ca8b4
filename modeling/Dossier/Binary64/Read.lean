/-!
# Reading decimals

A decimal `digits · 10 ^ exponent` rounds to the nearest binary64 number, ties to even; beyond the
greatest finite number it is infinite. Far outside the range the answer is known from the number of
digits alone.
-/

set_option autoImplicit false

namespace Dossier.Binary64

def infinity : Float := 1.0 / 0.0

def notANumber : Float := 0.0 / 0.0

/-- The binary64 number nearest to `digits · 10 ^ exponent`. -/
def ofDecimal (digits : Nat) (exponent : Int) : Float :=
  let top : Int := ((Nat.toDigits 10 digits).length : Int) + exponent
  if digits = 0 then 0.0
  else if 310 < top then infinity
  else if top < -330 then 0.0
  else if 0 ≤ exponent then Float.ofScientific digits false exponent.toNat
  else Float.ofScientific digits true (-exponent).toNat

/-- The natural number that a list of decimal digits writes. -/
def natOfDigits (ds : List Char) : Nat :=
  ds.foldl (fun n d => 10 * n + (d.toNat - '0'.toNat)) 0

/-- The number with the opposite sign when asked for. -/
def withSign (negative : Bool) (x : Float) : Float := if negative then -x else x

/-- A leading sign, as whether it is a minus, and the rest. -/
def takeSign : List Char → Bool × List Char
  | '-' :: cs => (true, cs)
  | '+' :: cs => (false, cs)
  | cs => (false, cs)

/-- An exponent: nothing, or the letter `e` in either case, a sign or none, and digits. -/
def readExponent : List Char → Option Int
  | [] => some 0
  | c :: cs =>
    let (negative, ds) := takeSign cs
    if c.toLower = 'e' ∧ ds ≠ [] ∧ ds.all Char.isDigit then
      some (if negative then -(natOfDigits ds : Int) else natOfDigits ds)
    else none

/-- Digits with an optional point and exponent; at least one digit has to be there. -/
def readDecimal (cs : List Char) : Option Float :=
  let whole := cs.takeWhile Char.isDigit
  let (fraction, rest) := match cs.dropWhile Char.isDigit with
    | '.' :: rest => (rest.takeWhile Char.isDigit, rest.dropWhile Char.isDigit)
    | rest => ([], rest)
  if whole.isEmpty && fraction.isEmpty then none
  else (readExponent rest).map fun e =>
    ofDecimal (natOfDigits (whole ++ fraction)) (e - (fraction.length : Int))

/-- The number that a text writes: a decimal, an infinity or what is not a number, with a sign or
none; letters count in either case. -/
def read? (s : String) : Option Float :=
  let (negative, cs) := takeSign s.toList
  let word := String.ofList (cs.map Char.toLower)
  (if word = "inf" ∨ word = "infinity" then some infinity
    else if word = "nan" then some notANumber
    else readDecimal cs).map (withSign negative)

end Dossier.Binary64
