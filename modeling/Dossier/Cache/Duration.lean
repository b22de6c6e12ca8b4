/-!
# Durations

Spans of time in nanoseconds, and how they are written: in the largest unit of which there is at
least one, with as many decimals as are needed.
-/

set_option autoImplicit false

namespace Dossier.Duration

def ofMillis (n : Nat) : Nat := n * 1000000

def ofSeconds (n : Nat) : Nat := n * 1000000000

/-- A unit of time: how many decimals lead from it to nanoseconds, and its sign. -/
def units : List (Nat × String) := [(9, "s"), (6, "ms"), (3, "µs"), (0, "ns")]

/-- The digits of a fraction of `places` decimals, without the zeros at its end. -/
def decimals (places fraction : Nat) : List Char :=
  let digits := Nat.toDigits 10 fraction
  let padded := List.replicate (places - digits.length) '0' ++ digits
  (padded.reverse.dropWhile (· == '0')).reverse

def writeIn (places : Nat) (sign : String) (nanos : Nat) : String :=
  let fraction := nanos % Nat.pow 10 places
  let point := if fraction == 0 then "" else "." ++ String.ofList (decimals places fraction)
  toString (nanos / Nat.pow 10 places) ++ point ++ sign

/-- A duration in its largest unit. -/
def write (nanos : Nat) : String :=
  match units.find? fun (places, _) => Nat.pow 10 places ≤ nanos with
  | some (places, sign) => writeIn places sign nanos
  | none => "0ns"

end Dossier.Duration
