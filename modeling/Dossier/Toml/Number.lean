import Dossier.Binary64.Read
import Dossier.Toml.Value

/-!
# Numbers, truth values and moments

What a bare word after an equals sign can be. Integers are decimal, with a sign or none, or of a
marked base; floats have a point, an exponent or both, or are special; digits may be grouped by
single underscores between them, and one may follow a sign. Dates, times and their combinations are
checked and not kept.

Not everything that is written like a number is one. The spelling of a whole document is checked
when it is read, but an integer without digits, one with letters in its groups, and a number beyond
all bounds are found out only where their value is asked for.
-/

set_option autoImplicit false

namespace Dossier.Toml

/-- The digits of a run that satisfies `isDigit`, without the single underscores between digits. -/
def digitRun? (isDigit : Char → Bool) (cs : List Char) : Option (List Char) :=
  let groups := cs.splitOn '_'
  if groups.all fun g => !g.isEmpty && g.all isDigit then some groups.flatten else none

/-- Whether a character is a digit of the base, which is at most sixteen. -/
def isDigitOf (base : Nat) (c : Char) : Bool :=
  let n := c.toNat
  (48 ≤ n && n < 48 + min base 10)
    || (10 < base && ((65 ≤ n && n < 55 + base) || (97 ≤ n && n < 87 + base)))

def digitValue (c : Char) : Nat :=
  let n := c.toNat
  if n < 58 then n - 48 else if n < 97 then n - 55 else n - 87

/-- The number that the digits write in a base. -/
def natOfBase (base : Nat) (ds : List Char) : Nat :=
  ds.foldl (fun n d => base * n + digitValue d) 0

/-- An integer as a value; beyond 128 bits there is none. -/
def integerValue (n : Int) : Value :=
  if -((Nat.pow 2 127 : Nat) : Int) ≤ n ∧ n < (Nat.pow 2 128 : Nat) then .integer n
  else .invalidNumber

/-- A float as a value; beyond the finite numbers there is none. -/
def floatValue (x : Float) : Value := if x.isInf then .invalidNumber else .float x

/-- The exponent behind the letter. -/
def exponent? (cs : List Char) : Option Int :=
  let (negative, ds) := Binary64.takeSign cs
  (digitRun? Char.isDigit ds).map fun ds =>
    if negative then -(Binary64.natOfDigits ds : Int) else Binary64.natOfDigits ds

/-- A float without its sign. -/
def float? (cs : List Char) : Option Float :=
  let mantissa := cs.takeWhile fun c => c != 'e' && c != 'E'
  let exponent := (cs.drop mantissa.length).drop 1
  let whole := mantissa.takeWhile (· != '.')
  let fraction := (mantissa.drop whole.length).drop 1
  match digitRun? Char.isDigit whole,
    (if whole.length = mantissa.length then some [] else digitRun? Char.isDigit fraction),
    (if mantissa.length = cs.length then some 0 else exponent? exponent) with
  | some ws, some fs, some e =>
    some (Binary64.ofDecimal (Binary64.natOfDigits (ws ++ fs)) (e - (fs.length : Int)))
  | _, _, _ => none

/-- An integer of a marked base from what follows the mark. -/
def marked? (base : Nat) (cs : List Char) : Option Value :=
  if cs.isEmpty then some .invalidNumber
  else (digitRun? (isDigitOf base) cs).map fun ds => integerValue (natOfBase base ds)

/-- Whether a group may stand behind an underscore, and also in front of one when it is `inner`. -/
def isGroup (inner : Bool) (cs : List Char) : Bool :=
  match cs.head?, cs.getLast? with
  | some first, some last => isDigitOf 16 first && (!inner || isDigitOf 16 last)
  | _, _ => false

/-- Whether groups may follow an underscore each. -/
def areGroups : List (List Char) → Bool
  | [] => true
  | [g] => isGroup false g
  | g :: gs => isGroup true g && areGroups gs

/--
A decimal integer without its sign, in groups. The first group has only digits, and may be missing
after a sign; of the others only the ends are looked at, and letters of any base pass there.
-/
def grouped? (negative signed : Bool) (cs : List Char) : Option Value :=
  match cs.splitOn '_' with
  | first :: groups =>
    if first.all Char.isDigit && areGroups groups
        && (!first.isEmpty || (signed && !groups.isEmpty)) then
      let ds := first ++ groups.flatten
      if ds.all Char.isDigit then
        let n : Int := Binary64.natOfDigits ds
        some (integerValue (if negative then -n else n))
      else some .invalidNumber
    else none
  | [] => none

/-- Whether the digits start with a needless zero. -/
def hasLeadingZero : List Char → Bool
  | '0' :: c :: _ => c.isDigit || c == '_'
  | _ => false

/-- Without an underscore in front. -/
def dropUnderscore : List Char → List Char
  | '_' :: cs => cs
  | cs => cs

/-- A decimal number behind its sign or without one: a float if it has a point or an exponent. -/
def decimal? (negative signed : Bool) (cs : List Char) : Option Value :=
  if cs = ['i', 'n', 'f'] then some (.float (Binary64.withSign negative Binary64.infinity))
  else if cs = ['n', 'a', 'n'] then some (.float Binary64.notANumber)
  else if hasLeadingZero cs then none
  else if cs.any fun c => c == '.' || c == 'e' || c == 'E' then
    (float? (if signed then dropUnderscore cs else cs)).map fun x =>
      floatValue (Binary64.withSign negative x)
  else grouped? negative signed cs

/-- A number. Marked bases take no sign. -/
def number? (cs : List Char) : Option Value :=
  match cs with
  | '0' :: 'x' :: ds => marked? 16 ds
  | '0' :: 'o' :: ds => marked? 8 ds
  | '0' :: 'b' :: ds => marked? 2 ds
  | '+' :: ds => decimal? false true ds
  | '-' :: ds => decimal? true true ds
  | ds => decimal? false false ds

/-- The number that exactly two digits write. -/
def twoDigits? : List Char → Option Nat
  | [a, b] => if a.isDigit && b.isDigit then some (Binary64.natOfDigits [a, b]) else none
  | _ => none

def daysIn (year month : Nat) : Nat :=
  if month = 2 then
    if year % 4 = 0 ∧ (year % 100 ≠ 0 ∨ year % 400 = 0) then 29 else 28
  else if month = 4 ∨ month = 6 ∨ month = 9 ∨ month = 11 then 30
  else 31

/-- Whether ten characters are a date: year, month and day. -/
def isDate (cs : List Char) : Bool :=
  match cs.splitOn '-' with
  | [y, m, d] =>
    match twoDigits? m, twoDigits? d with
    | some month, some day =>
      y.length == 4 && y.all Char.isDigit && 1 ≤ month && month ≤ 12
        && 1 ≤ day && day ≤ daysIn (Binary64.natOfDigits y) month
    | _, _ => false
  | _ => false

/-- Whether a number of two digits is at most `greatest`. -/
def isUpTo (greatest : Nat) (cs : List Char) : Bool := (twoDigits? cs).any (· ≤ greatest)

/-- Whether the characters are seconds, with a fraction or none; leap seconds count. -/
def isSeconds (cs : List Char) : Bool :=
  isUpTo 60 (cs.take 2) &&
    match cs.drop 2 with
    | [] => true
    | '.' :: fraction => !fraction.isEmpty && fraction.all Char.isDigit
    | _ => false

/-- Whether the characters are a time of day: hours and minutes, seconds or none. -/
def isTime (cs : List Char) : Bool :=
  match cs.splitOn ':' with
  | [h, m] => isUpTo 23 h && isUpTo 59 m
  | [h, m, s] => isUpTo 23 h && isUpTo 59 m && isSeconds s
  | _ => false

/-- Whether the characters are hours and minutes. -/
def isOffset (cs : List Char) : Bool :=
  match cs.splitOn ':' with
  | [h, m] => isUpTo 23 h && isUpTo 59 m
  | _ => false

/-- Whether the characters are a time of day followed by an offset or nothing. -/
def isTimeWithOffset (cs : List Char) : Bool :=
  let time := cs.takeWhile fun c => c.isDigit || c == ':' || c == '.'
  isTime time &&
    match cs.drop time.length with
    | [] | ['Z'] | ['z'] => true
    | '+' :: offset | '-' :: offset => isOffset offset
    | _ => false

/-- Whether the characters are a date, a time, or a date and a time. -/
def isMoment (cs : List Char) : Bool :=
  isTime cs ||
    (isDate (cs.take 10) &&
      match cs.drop 10 with
      | [] => true
      | c :: time => (c == 'T' || c == 't' || c == ' ') && isTimeWithOffset time)

/-- What a bare word means. -/
def wordValue? (cs : List Char) : Option Value :=
  if cs = "true".toList then some (.boolean true)
  else if cs = "false".toList then some (.boolean false)
  else if isMoment cs then some .moment
  else number? cs

end Dossier.Toml
