import Dossier.Cache.Duration

/-!
# Clocks

A moment is a number of nanoseconds since the origin of a clock, which need not be when anyone began
to look at it. The clock keeps the whole seconds as a signed number of 64 bits, and cannot show what
is later.
-/

set_option autoImplicit false

namespace Dossier.Clock

/-- That a clock can show a moment. -/
def Shows (moment : Nat) : Prop := (moment / Duration.ofSeconds 1 : Nat) ≤ Int64.maxValue.toInt

instance (moment : Nat) : Decidable (Shows moment) :=
  inferInstanceAs (Decidable ((moment / Duration.ofSeconds 1 : Nat) ≤ Int64.maxValue.toInt))

theorem shows_iff {moment : Nat} : Shows moment ↔ moment < Duration.ofSeconds (Nat.pow 2 63) := by
  have hmax : Int64.maxValue.toInt = 9223372036854775807 := rfl
  have hpow : Nat.pow 2 63 = 9223372036854775808 := rfl
  unfold Shows Duration.ofSeconds
  rw [hmax, hpow]
  omega

/-- What is earlier than a moment that the clock can show, it can show too. -/
theorem Shows.of_le {moment later : Nat} (h : Shows later) (hle : moment ≤ later) : Shows moment :=
  shows_iff.mpr (Nat.lt_of_le_of_lt hle (shows_iff.mp h))

end Dossier.Clock
