import Mathlib.Algebra.Order.Round
import Mathlib.Data.Int.Log
import Mathlib.Data.Rat.Floor
import Mathlib.Tactic.Linarith
import Mathlib.Tactic.Ring

/-!
# Rounding to the nearest

The value of an arithmetic operation on binary64 numbers is the number `nearest` to the exact value:
the multiple of the last place that is closest, the even one when two are. The last place depends on
the magnitude only and is never below `2 ^ -1074`. **Rounding keeps the order** (`nearest_mono`),
**keeps the numbers that can be represented** (`nearest_of_representable`) and **is off by half a
place at most** (`abs_nearest_sub_le`).
-/

set_option autoImplicit false

namespace Dossier.Binary64

/-! ## Integers -/

/-- The integer closest to a number; of the two around a half, the even one. -/
def roundEven (q : ℚ) : ℤ :=
  if 2 * Int.fract q < 1 then ⌊q⌋
  else if 1 < 2 * Int.fract q then ⌊q⌋ + 1
  else ⌊q⌋ + ⌊q⌋ % 2

theorem roundEven_intCast (n : ℤ) : roundEven n = n := by
  simp [roundEven]

theorem abs_roundEven_sub_le (q : ℚ) : |(roundEven q : ℚ) - q| ≤ 1 / 2 := by
  have hfract : q = ⌊q⌋ + Int.fract q := (Int.floor_add_fract q).symm
  have hnonneg := Int.fract_nonneg q
  have hlt := Int.fract_lt_one q
  unfold roundEven
  rw [abs_le]
  split_ifs with hlow hhigh
  · constructor <;> linarith
  · push_cast
    constructor <;> linarith
  · rcases Int.emod_two_eq ⌊q⌋ with hparity | hparity <;> rw [hparity] <;> push_cast <;>
      constructor <;> linarith

theorem roundEven_mono {p q : ℚ} (h : p ≤ q) : roundEven p ≤ roundEven q := by
  by_contra hlt
  -- Only from the middle between two integers can both be reached, but then the numbers are equal.
  have hstep : (roundEven q : ℚ) + 1 ≤ roundEven p := by exact_mod_cast not_le.mp hlt
  have hp := (abs_le.mp (abs_roundEven_sub_le p)).2
  have hq := (abs_le.mp (abs_roundEven_sub_le q)).1
  have heq : p = q := by linarith
  exact hlt (heq ▸ le_rfl)

theorem roundEven_nonneg {q : ℚ} (h : 0 ≤ q) : 0 ≤ roundEven q := by
  simpa [roundEven] using roundEven_mono h

/-! ## Magnitudes -/

/-- The exponent of the last place of a number of such a magnitude. -/
def lastExponent (q : ℚ) : ℤ := max (Int.log 2 q - 52) (-1074)

/-- The last place of a number of such a magnitude. -/
def lastPlace (q : ℚ) : ℚ := 2 ^ lastExponent q

/-- The magnitude rounded to its last place. -/
def nearestMagnitude (q : ℚ) : ℚ := roundEven (q / lastPlace q) * lastPlace q

theorem two_zpow_pos (e : ℤ) : (0 : ℚ) < 2 ^ e := zpow_pos two_pos e

theorem two_zpow_le {d e : ℤ} (h : d ≤ e) : (2 : ℚ) ^ d ≤ 2 ^ e := zpow_le_zpow_right₀ one_le_two h

theorem two_pow_mul_two_zpow (k : ℕ) (e : ℤ) : (2 : ℚ) ^ k * 2 ^ e = 2 ^ (k + e) := by
  rw [zpow_add₀ two_ne_zero, zpow_natCast]

theorem lastPlace_pos (q : ℚ) : 0 < lastPlace q := two_zpow_pos _

theorem lastExponent_mono {p q : ℚ} (hp : 0 < p) (h : p ≤ q) :
    lastExponent p ≤ lastExponent q :=
  max_le_max_right _ (sub_le_sub_right (Int.log_mono_right hp h) _)

/-- A magnitude has less than `2 ^ 53` of its last place. -/
theorem lt_lastPlace_mul (q : ℚ) : q < 2 ^ 53 * lastPlace q := by
  have hpow : q < 2 ^ (Int.log 2 q + 1) := by
    exact_mod_cast Int.lt_zpow_succ_log_self Nat.one_lt_two q
  have hexp : Int.log 2 q + 1 ≤ 53 + lastExponent q := by
    unfold lastExponent
    omega
  calc q < 2 ^ (Int.log 2 q + 1) := hpow
    _ ≤ 2 ^ (53 + lastExponent q) := two_zpow_le hexp
    _ = 2 ^ 53 * lastPlace q := (two_pow_mul_two_zpow 53 _).symm

/-- It has at least `2 ^ 52` of it, unless the last place is the least one. -/
theorem lastPlace_mul_le {q : ℚ} (hq : 0 < q) (h : -1074 < lastExponent q) :
    2 ^ 52 * lastPlace q ≤ q := by
  have hexp : 52 + lastExponent q = Int.log 2 q := by
    unfold lastExponent at h ⊢
    omega
  calc 2 ^ 52 * lastPlace q = 2 ^ (52 + lastExponent q) := two_pow_mul_two_zpow 52 _
    _ = 2 ^ Int.log 2 q := by rw [hexp]
    _ ≤ q := by exact_mod_cast Int.zpow_log_le_self Nat.one_lt_two hq

/-- The last place of what is below `2 ^ (e + 53)` is at most `2 ^ e`. -/
theorem lastExponent_le {q : ℚ} {e : ℤ} (hq : 0 < q) (he : -1074 ≤ e) (h : q < 2 ^ (e + 53)) :
    lastExponent q ≤ e := by
  have hlog : Int.log 2 q < e + 53 :=
    (Int.lt_zpow_iff_log_lt Nat.one_lt_two hq).mp (by exact_mod_cast h)
  unfold lastExponent
  omega

theorem nearestMagnitude_zero : nearestMagnitude 0 = 0 := by
  simp [nearestMagnitude, roundEven]

theorem nearestMagnitude_nonneg {q : ℚ} (h : 0 ≤ q) : 0 ≤ nearestMagnitude q := by
  have hplace := lastPlace_pos q
  have hround := roundEven_nonneg (div_nonneg h hplace.le)
  exact mul_nonneg (by exact_mod_cast hround) hplace.le

theorem roundEven_div_le {q : ℚ} {n : ℤ} (h : q ≤ n * lastPlace q) :
    roundEven (q / lastPlace q) ≤ n := by
  simpa [roundEven_intCast] using roundEven_mono ((div_le_iff₀ (lastPlace_pos q)).mpr h)

theorem le_roundEven_div {q : ℚ} {n : ℤ} (h : n * lastPlace q ≤ q) :
    n ≤ roundEven (q / lastPlace q) := by
  simpa [roundEven_intCast] using roundEven_mono ((le_div_iff₀ (lastPlace_pos q)).mpr h)

theorem nearestMagnitude_le {q : ℚ} {n : ℤ} (h : q ≤ n * lastPlace q) :
    nearestMagnitude q ≤ n * lastPlace q :=
  mul_le_mul_of_nonneg_right (by exact_mod_cast roundEven_div_le h) (lastPlace_pos q).le

theorem le_nearestMagnitude {q : ℚ} {n : ℤ} (h : n * lastPlace q ≤ q) :
    n * lastPlace q ≤ nearestMagnitude q :=
  mul_le_mul_of_nonneg_right (by exact_mod_cast le_roundEven_div h) (lastPlace_pos q).le

/-- A power of two that is no smaller than the last place is so many of it. -/
theorem exists_mul_lastPlace {q : ℚ} {e : ℤ} (h : lastExponent q ≤ e) (m : ℤ) :
    ∃ n : ℤ, (m : ℚ) * 2 ^ e = n * lastPlace q := by
  obtain ⟨k, hk⟩ := Int.eq_ofNat_of_zero_le (sub_nonneg.mpr h)
  refine ⟨m * 2 ^ k, ?_⟩
  have he : e = k + lastExponent q := by omega
  rw [he, zpow_add₀ two_ne_zero, zpow_natCast, lastPlace]
  push_cast
  ring

theorem nearestMagnitude_mono {p q : ℚ} (hp : 0 ≤ p) (h : p ≤ q) :
    nearestMagnitude p ≤ nearestMagnitude q := by
  rcases hp.eq_or_lt with rfl | hp
  · rw [nearestMagnitude_zero]
    exact nearestMagnitude_nonneg h
  rcases (lastExponent_mono hp h).eq_or_lt with hsame | hless
  · have hplace : lastPlace p = lastPlace q := by rw [lastPlace, lastPlace, hsame]
    unfold nearestMagnitude
    rw [hplace]
    have hround := roundEven_mono (div_le_div_of_nonneg_right h (lastPlace_pos q).le)
    exact mul_le_mul_of_nonneg_right (by exact_mod_cast hround) (lastPlace_pos q).le
  · -- Between two magnitudes with different last places there is a power of two.
    have hlog : lastExponent q = Int.log 2 q - 52 ∧ Int.log 2 p < Int.log 2 q := by
      unfold lastExponent at hless ⊢
      omega
    have hbelow : p ≤ 2 ^ Int.log 2 q := by
      have hlt : p < 2 ^ Int.log 2 q := by
        exact_mod_cast (Int.lt_zpow_iff_log_lt Nat.one_lt_two hp).mpr hlog.2
      exact hlt.le
    have habove : (2 : ℚ) ^ Int.log 2 q ≤ q := by
      exact_mod_cast Int.zpow_log_le_self Nat.one_lt_two (hp.trans_le h)
    obtain ⟨m, hm⟩ := exists_mul_lastPlace (q := p) (e := Int.log 2 q) (by omega) 1
    obtain ⟨n, hn⟩ := exists_mul_lastPlace (q := q) (e := Int.log 2 q) (by omega) 1
    rw [Int.cast_one, one_mul] at hm hn
    calc nearestMagnitude p ≤ m * lastPlace p := nearestMagnitude_le (hm ▸ hbelow)
      _ = n * lastPlace q := hm.symm.trans hn
      _ ≤ nearestMagnitude q := le_nearestMagnitude (hn ▸ habove)

theorem abs_nearestMagnitude_sub_le (q : ℚ) : |nearestMagnitude q - q| ≤ lastPlace q / 2 := by
  have hplace := lastPlace_pos q
  have hsplit : nearestMagnitude q - q =
      (roundEven (q / lastPlace q) - q / lastPlace q) * lastPlace q := by
    rw [sub_mul, div_mul_cancel₀ _ hplace.ne']
    rfl
  rw [hsplit, abs_mul, abs_of_pos hplace]
  calc _ ≤ 1 / 2 * lastPlace q :=
        mul_le_mul_of_nonneg_right (abs_roundEven_sub_le _) hplace.le
    _ = lastPlace q / 2 := by ring

/-! ## Numbers -/

/-- The binary64 number nearest to a number, were there no greatest exponent. -/
def nearest (q : ℚ) : ℚ := if q < 0 then -nearestMagnitude (-q) else nearestMagnitude q

/-- The number is a binary64 number, but for the greatest exponent. -/
def Representable (q : ℚ) : Prop :=
  ∃ (m : ℤ) (e : ℤ), |m| < 2 ^ 53 ∧ -1074 ≤ e ∧ q = m * 2 ^ e

theorem nearest_zero : nearest 0 = 0 := by
  simp [nearest, nearestMagnitude_zero]

theorem nearest_of_nonneg {q : ℚ} (h : 0 ≤ q) : nearest q = nearestMagnitude q :=
  if_neg (not_lt.mpr h)

theorem nearest_of_neg {q : ℚ} (h : q < 0) : nearest q = -nearestMagnitude (-q) := if_pos h

theorem nearest_neg (q : ℚ) : nearest (-q) = -nearest q := by
  unfold nearest
  rcases lt_trichotomy q 0 with h | rfl | h
  · rw [if_neg (by linarith), if_pos h, neg_neg]
  · simp [nearestMagnitude_zero]
  · rw [if_pos (by linarith), if_neg (by linarith), neg_neg]

theorem nearest_nonneg {q : ℚ} (h : 0 ≤ q) : 0 ≤ nearest q :=
  nearest_of_nonneg h ▸ nearestMagnitude_nonneg h

/-- **Rounding keeps the order.** -/
theorem nearest_mono {p q : ℚ} (h : p ≤ q) : nearest p ≤ nearest q := by
  rcases le_or_gt 0 p with hp | hp
  · rw [nearest_of_nonneg hp, nearest_of_nonneg (hp.trans h)]
    exact nearestMagnitude_mono hp h
  · rcases le_or_gt 0 q with hq | hq
    · have hleft := nearest_nonneg (neg_nonneg.mpr hp.le)
      rw [nearest_neg] at hleft
      linarith [nearest_nonneg hq]
    · have hswap := nearestMagnitude_mono (neg_nonneg.mpr hq.le) (neg_le_neg h)
      rw [nearest, nearest, if_pos hp, if_pos hq]
      linarith

theorem Representable.neg {q : ℚ} (h : Representable q) : Representable (-q) := by
  obtain ⟨m, e, hm, he, rfl⟩ := h
  exact ⟨-m, e, by rwa [abs_neg], he, by push_cast; ring⟩

theorem nearestMagnitude_of_representable {q : ℚ} (hq : 0 ≤ q) (h : Representable q) :
    nearestMagnitude q = q := by
  rcases hq.eq_or_lt with rfl | hq
  · exact nearestMagnitude_zero
  obtain ⟨m, e, hm, he, rfl⟩ := h
  have hbound : (m : ℚ) * 2 ^ e < 2 ^ (e + 53) := by
    have hm : (m : ℚ) < 2 ^ 53 := by exact_mod_cast lt_of_abs_lt hm
    calc (m : ℚ) * 2 ^ e < 2 ^ 53 * 2 ^ e := mul_lt_mul_of_pos_right hm (two_zpow_pos e)
      _ = 2 ^ (53 + e) := two_pow_mul_two_zpow 53 e
      _ = 2 ^ (e + 53) := by rw [add_comm]
  obtain ⟨n, hn⟩ := exists_mul_lastPlace (lastExponent_le hq he hbound) m
  exact le_antisymm ((nearestMagnitude_le hn.le).trans hn.ge)
    (hn.le.trans (le_nearestMagnitude hn.ge))

/-- **A number that can be represented is not changed.** -/
theorem nearest_of_representable {q : ℚ} (h : Representable q) : nearest q = q := by
  rcases le_or_gt 0 q with hq | hq
  · rw [nearest_of_nonneg hq, nearestMagnitude_of_representable hq h]
  · rw [nearest, if_pos hq, nearestMagnitude_of_representable (neg_nonneg.mpr hq.le) h.neg, neg_neg]

theorem nearest_le {p q : ℚ} (h : p ≤ q) (hq : Representable q) : nearest p ≤ q :=
  (nearest_mono h).trans (nearest_of_representable hq).le

theorem le_nearest {p q : ℚ} (h : p ≤ q) (hp : Representable p) : p ≤ nearest q :=
  (nearest_of_representable hp).ge.trans (nearest_mono h)

theorem representable_intCast {n : ℤ} (h : |n| < 2 ^ 53) : Representable n :=
  ⟨n, 0, h, by decide, by simp⟩

theorem representable_two_zpow {e : ℤ} (h : -1074 ≤ e) : Representable (2 ^ e) :=
  ⟨1, e, by decide, h, by simp⟩

theorem abs_nearest_le {q r : ℚ} (h : |q| ≤ r) (hr : Representable r) : |nearest q| ≤ r := by
  obtain ⟨hlow, hhigh⟩ := abs_le.mp h
  exact abs_le.mpr ⟨le_nearest hlow hr.neg, nearest_le hhigh hr⟩

/-- What is not enormous is not too great after it is rounded. -/
theorem abs_nearest_lt {q : ℚ} (h : |q| ≤ 2 ^ (64 : ℤ)) : |nearest q| < 2 ^ (1024 : ℤ) :=
  calc |nearest q| ≤ 2 ^ (64 : ℤ) := abs_nearest_le h (representable_two_zpow (by decide))
    _ < 2 ^ (1024 : ℤ) := zpow_lt_zpow_right₀ one_lt_two (by decide)

/-- **Rounding is off by half a place at most.** -/
theorem abs_nearest_sub_le {q : ℚ} {e : ℤ} (he : -1074 ≤ e) (h : |q| < 2 ^ (e + 53)) :
    |nearest q - q| ≤ 2 ^ e / 2 := by
  have hmagnitude : |nearest q - q| ≤ lastPlace |q| / 2 := by
    rcases le_or_gt 0 q with hq | hq
    · rw [nearest_of_nonneg hq, abs_of_nonneg hq]
      exact abs_nearestMagnitude_sub_le q
    · rw [nearest, if_pos hq, abs_of_neg hq, neg_sub_left, abs_neg, add_comm]
      simpa using abs_nearestMagnitude_sub_le (-q)
  rcases (abs_nonneg q).eq_or_lt with hzero | hpos
  · have hq : q = 0 := abs_eq_zero.mp hzero.symm
    subst hq
    rw [nearest_zero, sub_zero, abs_zero]
    exact (half_pos (two_zpow_pos e)).le
  · have hplace : lastPlace |q| ≤ 2 ^ e := two_zpow_le (lastExponent_le hpos he h)
    linarith

end Dossier.Binary64
