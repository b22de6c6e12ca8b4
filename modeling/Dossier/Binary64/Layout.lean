import Dossier.Binary64.Shortest

/-!
# Writing binary64 numbers

A layout says how the shortest decimal of a number is laid out: when the places of the digits are
spelled out with zeros and when an exponent is written, and whether an integral value still gets a
point. Rounding to a fixed number of places is exact, ties to even.
-/

set_option autoImplicit false

namespace Dossier.Binary64

/--
The layout of a number text. The point is written in place while its position, counted from the
first digit, lies in `[lowest, highest]`; beyond, one digit stands before the point and an exponent
follows. `none` never writes an exponent.
-/
structure Layout where
  positional : Option (Int × Int)
  pointZero : Bool
  nan : String
  infinity : String

/-- Plain digits: never an exponent, integral values without a point. -/
def Layout.plain : Layout := ⟨none, false, "NaN", "inf"⟩

/-- Digits that keep the type: never an exponent, integral values end in `.0`. -/
def Layout.typed : Layout := ⟨none, true, "nan", "inf"⟩

/-- Digits for data exchange: exponents for the very large and the very small, no specials. -/
def Layout.exchange : Layout := ⟨some (-4, 16), true, "null", "null"⟩

def digitsOf (n : Nat) : List Char := Nat.toDigits 10 n

/-- Digits with a point after the first `point` of them, filled up with zeros on either side. -/
def placePoint (digits : List Char) (point : Int) (pointZero : Bool) : List Char :=
  if point ≤ 0 then '0' :: '.' :: List.replicate (-point).toNat '0' ++ digits
  else
    let n := point.toNat
    if digits.length ≤ n then
      digits ++ List.replicate (n - digits.length) '0' ++ (if pointZero then ['.', '0'] else [])
    else digits.take n ++ '.' :: digits.drop n

/-- One digit, the others after a point, and the exponent. -/
def scientific (digits : List Char) (exponent : Int) : List Char :=
  digits.take 1 ++ (if 1 < digits.length then '.' :: digits.drop 1 else [])
    ++ 'e' :: (if exponent < 0 then '-' :: digitsOf (-exponent).toNat else digitsOf exponent.toNat)

def Layout.writeDecimal (l : Layout) (d : Decimal) : List Char :=
  let digits := digitsOf d.digits
  let point : Int := (digits.length : Int) + d.exponent
  match l.positional with
  | none => placePoint digits point l.pointZero
  | some (lowest, highest) =>
    if lowest ≤ point ∧ point ≤ highest then placePoint digits point l.pointZero
    else scientific digits (point - 1)

/-- A sign in front of a negative number. -/
def signed (negative : Bool) (text : String) : String := if negative then "-" ++ text else text

def Layout.write (l : Layout) (x : Float) : String :=
  match parts x with
  | .nan => l.nan
  | .infinite negative => signed negative l.infinity
  | .finite negative mantissa exponent =>
    signed negative <| String.ofList <|
      if mantissa = 0 then '0' :: (if l.pointZero then ['.', '0'] else [])
      else l.writeDecimal (shortest mantissa exponent)

/-- The quotient rounded to the nearest natural number, a half going to the even neighbour. -/
def roundDiv (num den : Nat) : Nat :=
  let q := num / den
  let r := num % den
  if 2 * r < den then q
  else if den < 2 * r then q + 1
  else q + q % 2

/-- A natural number of `10 ^ -places` with the point written in place. -/
def writeFixed (places n : Nat) : List Char :=
  let digits := digitsOf n
  let padded := List.replicate (places + 1 - digits.length) '0' ++ digits
  let whole := padded.length - places
  padded.take whole ++ (if places = 0 then [] else '.' :: padded.drop whole)

/-- A number with a fixed number of places, rounded exactly with ties to even. -/
def fixed (places : Nat) (x : Float) : String :=
  match parts x with
  | .nan => "NaN"
  | .infinite negative => signed negative "inf"
  | .finite negative mantissa exponent =>
    let r := Ratio.scaled mantissa 2 exponent
    signed negative (String.ofList (writeFixed places (roundDiv (r.num * Nat.pow 10 places) r.den)))

/-- A text padded with blanks on the left to a least width. -/
def padLeft (width : Nat) (s : String) : String :=
  String.ofList (List.replicate (width - s.length) ' ') ++ s

/-- A text padded with blanks on the right to a least width. -/
def padRight (width : Nat) (s : String) : String :=
  s ++ String.ofList (List.replicate (width - s.length) ' ')

end Dossier.Binary64
