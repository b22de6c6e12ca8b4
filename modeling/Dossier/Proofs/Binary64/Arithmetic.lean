import Dossier.Proofs.Binary64.Value
import Mathlib

/-!
# Arithmetic is correctly rounded

The value of a sum, a difference, a product or a quotient is the number nearest to the exact one
(`add_hasValue` and those after it), as long as that is not too great. Results are rounded by
shifting a mantissa to the right, and the bits that are shifted out are kept in two: the last one,
and whether there was another. This is enough to tell on which side of the middle the exact value
lies (`Locates`).
-/

set_option autoImplicit false

namespace Dossier.Binary64

open Float.Model Float.Model.UnpackedFloat

/-! ## The bits behind a mantissa -/

/-- The mantissa and the two bits behind it say where a number lies. -/
def Locates (em : ExtendedMantissa) (q : ℚ) : Prop :=
  ∃ rest : ℚ, 0 ≤ rest ∧ rest < 1 ∧ (em.stickyBit = true ↔ rest ≠ 0) ∧
    q = em.mantissa + (em.roundBit.toNat + rest) / 2

theorem Locates.floor_eq {em : ExtendedMantissa} {q : ℚ} (h : Locates em q) :
    ⌊q⌋ = em.mantissa := by
  obtain ⟨rest, hnonneg, hlt, -, rfl⟩ := h
  have hround : ((em.roundBit.toNat : ℕ) : ℚ) ≤ 1 := by exact_mod_cast Bool.toNat_le _
  have hround' : (0 : ℚ) ≤ (em.roundBit.toNat : ℕ) := Nat.cast_nonneg _
  rw [Int.floor_eq_iff, Int.cast_natCast]
  constructor <;> linarith

theorem Locates.shiftRightOne {em : ExtendedMantissa} {q : ℚ} (h : Locates em q) :
    Locates em.shiftRightOne (q / 2) := by
  obtain ⟨m, round, sticky⟩ := em
  obtain ⟨rest, hnonneg, hlt, hsticky, rfl⟩ := h
  have hsplit : (m : ℚ) = 2 * (m / 2 : ℕ) + (m % 2 : ℕ) := by
    exact_mod_cast (Nat.div_add_mod m 2).symm
  have hbit : ((m % 2 != 0).toNat : ℚ) = (m % 2 : ℕ) := by
    rcases Nat.mod_two_eq_zero_or_one m with h | h <;> simp [h]
  -- The bit that was shifted out last joins the rest.
  refine ⟨(round.toNat + rest) / 2, by positivity, ?_, ?_, ?_⟩
  · cases round <;> simp <;> linarith
  · simp only [ExtendedMantissa.shiftRightOne, Bool.or_eq_true] at hsticky ⊢
    rw [hsticky]
    cases round
    · simp
    · simp
      linarith
  · simp only [ExtendedMantissa.shiftRightOne, hbit]
    rw [hsplit]
    ring

theorem Locates.shiftRight {em : ExtendedMantissa} {q : ℚ} (h : Locates em q) (n : ℕ) :
    Locates (em >>> n) (q / 2 ^ n) := by
  show Locates (n.repeat ExtendedMantissa.shiftRightOne em) (q / 2 ^ n)
  induction n with
  | zero => simpa [Nat.repeat] using h
  | succ n ih =>
    rw [pow_succ, ← div_div]
    exact ih.shiftRightOne

theorem locates_exact (m : Nat) : Locates (.ofMantissaAndAccuracy m .exact) m :=
  ⟨0, le_rfl, one_pos, by simp [ExtendedMantissa.ofMantissaAndAccuracy],
    by simp [ExtendedMantissa.ofMantissaAndAccuracy]⟩

/-- The quotient of two natural numbers, by its whole part and the accuracy of its rest. -/
theorem locates_quotient (n : Nat) {d : Nat} (hd : 0 < d) :
    Locates (.ofMantissaAndAccuracy (n / d) (accuracyOfFraction (n % d) d)) ((n : ℚ) / d) := by
  have hpos : (0 : ℚ) < d := by exact_mod_cast hd
  have hmod := Nat.mod_lt n hd
  have hsplit : (n : ℚ) / d = (n / d : ℕ) + (n % d : ℕ) / d := by
    rw [div_eq_iff hpos.ne', add_mul, div_mul_cancel₀ _ hpos.ne']
    exact_mod_cast (Nat.div_add_mod' n d).symm
  generalize n % d = r at hmod hsplit ⊢
  rw [hsplit]
  unfold accuracyOfFraction
  split
  · next hzero => simpa [hzero] using locates_exact (n / d)
  · next hsome =>
    have hsome : (0 : ℚ) < r := by exact_mod_cast Nat.pos_of_ne_zero hsome
    -- The round bit says whether the rest is at least half of the divisor.
    rcases lt_trichotomy (2 * r) d with h | h | h
    · rw [compare_lt_iff_lt.mpr h]
      have h : 2 * (r : ℚ) < d := by exact_mod_cast h
      have hrest : (0 : ℚ) < 2 * r / d := by positivity
      refine ⟨2 * r / d, hrest.le, (div_lt_one hpos).mpr h, ?_, ?_⟩
      · simp [ExtendedMantissa.ofMantissaAndAccuracy, hrest.ne']
      · simp only [ExtendedMantissa.ofMantissaAndAccuracy, Bool.toNat_false]
        ring
    · rw [compare_eq_iff_eq.mpr h]
      have h : (d : ℚ) = 2 * r := by exact_mod_cast h.symm
      refine ⟨0, le_rfl, one_pos, ?_, ?_⟩
      · simp [ExtendedMantissa.ofMantissaAndAccuracy]
      · simp only [ExtendedMantissa.ofMantissaAndAccuracy, Bool.toNat_true, h]
        field_simp
        ring
    · rw [compare_gt_iff_gt.mpr h]
      have h : (d : ℚ) < 2 * r := by exact_mod_cast h
      have hmod : (r : ℚ) < d := by exact_mod_cast hmod
      have hrest : (0 : ℚ) < 2 * r / d - 1 := sub_pos.mpr ((one_lt_div hpos).mpr h)
      refine ⟨2 * r / d - 1, hrest.le, ?_, ?_, ?_⟩
      · rw [sub_lt_iff_lt_add, div_lt_iff₀ hpos]
        linarith
      · simp [ExtendedMantissa.ofMantissaAndAccuracy, hrest.ne']
      · simp only [ExtendedMantissa.ofMantissaAndAccuracy, Bool.toNat_true]
        push_cast
        ring

/-- **The rounded mantissa is the nearest integer.** -/
theorem Locates.roundedMantissa_eq {em : ExtendedMantissa} {q : ℚ} (h : Locates em q) :
    (em.roundedMantissa : ℤ) = roundEven q := by
  have hfloor := h.floor_eq
  have hfract : Int.fract q = q - em.mantissa := by
    rw [← Int.self_sub_floor, hfloor, Int.cast_natCast]
  obtain ⟨m, round, sticky⟩ := em
  obtain ⟨rest, hnonneg, hlt, hsticky, hq⟩ := h
  have hfract : 2 * Int.fract q = round.toNat + rest := by
    rw [hfract, hq]
    ring
  unfold roundEven
  rw [hfract, hfloor]
  cases round with
  | false =>
    rw [if_pos (by simpa using hlt)]
    cases sticky <;> rfl
  | true =>
    rw [if_neg (by simpa using hnonneg)]
    cases sticky with
    | false =>
      have hzero : rest = 0 := by simpa using hsticky
      rw [if_neg (by simp [hzero])]
      rfl
    | true =>
      have hpos : 0 < rest := hnonneg.lt_of_ne' (by simpa using hsticky)
      rw [if_pos (by simpa using hpos)]
      rfl

/-! ## Rounding a mantissa -/

/-- The exponent of the last place, from a mantissa that has all bits before it. -/
def placeOf (m : Nat) (e : Int) : Int := max ((m.log2 : Int) + 1 + e - 53) (-1074)

theorem targetExponent_eq (m : Nat) (e : Int) :
    Format.binary64.targetExponent (totalExponent m e) = placeOf m e := rfl

/-- What stands behind a mantissa does not change its logarithm. -/
theorem log_mul_two_zpow {m : Nat} {q : ℚ} (hm : 0 < m) (hlow : (m : ℚ) ≤ q) (hhigh : q < m + 1)
    (e : Int) : Int.log 2 (q * 2 ^ e) = m.log2 + e := by
  have hq : 0 < q := lt_of_lt_of_le (by exact_mod_cast hm) hlow
  have hpos : 0 < q * 2 ^ e := mul_pos hq (two_zpow_pos e)
  apply le_antisymm
  · have hm : (m : ℚ) + 1 ≤ 2 ^ (m.log2 + 1) := by exact_mod_cast Nat.lt_log2_self
    have hlt : q * 2 ^ e < ((2 : ℕ) : ℚ) ^ (((m.log2 + 1 : ℕ) : ℤ) + e) := by
      rw [Nat.cast_ofNat, ← two_pow_mul_two_zpow]
      exact mul_lt_mul_of_pos_right (hhigh.trans_le hm) (two_zpow_pos e)
    have hlog := (Int.lt_zpow_iff_log_lt Nat.one_lt_two hpos).mp hlt
    omega
  · have hm : (2 : ℚ) ^ m.log2 ≤ m := by exact_mod_cast Nat.log2_self_le hm.ne'
    rw [← Int.zpow_le_iff_le_log Nat.one_lt_two hpos, Nat.cast_ofNat, ← two_pow_mul_two_zpow]
    exact mul_le_mul_of_nonneg_right (hm.trans hlow) (two_zpow_pos e).le

/-- The last place is found from the bits of the mantissa, whatever is behind it. -/
theorem lastExponent_eq {m : Nat} {e : Int} {q : ℚ} (hfloor : ⌊q⌋ = m) (hq : 0 < q)
    (hplaced : e ≤ placeOf m e) : lastExponent (q * 2 ^ e) = placeOf m e := by
  have hpos : 0 < q * 2 ^ e := mul_pos hq (two_zpow_pos e)
  obtain ⟨hlow, hhigh⟩ := Int.floor_eq_iff.mp hfloor
  rw [Int.cast_natCast] at hlow hhigh
  rcases Nat.eq_zero_or_pos m with rfl | hm
  · -- Nothing is before the last place, which is the least one.
    have he : e ≤ -1074 := by
      simp only [placeOf, Nat.log2_zero, Nat.cast_zero] at hplaced
      omega
    have hsmall : q * 2 ^ e < 2 ^ ((-1074 : ℤ) + 53) := by
      calc q * 2 ^ e < 1 * 2 ^ e := mul_lt_mul_of_pos_right (by simpa using hhigh) (two_zpow_pos e)
        _ = 2 ^ e := one_mul _
        _ ≤ 2 ^ ((-1074 : ℤ) + 53) := two_zpow_le (by omega)
    have hle := lastExponent_le hpos le_rfl hsmall
    simp only [lastExponent, placeOf, Nat.log2_zero, Nat.cast_zero] at hle ⊢
    omega
  · unfold lastExponent placeOf
    rw [log_mul_two_zpow hm hlow hhigh]
    omega

/-- A rounded mantissa at its place; it is shifted once more if it has become too long. -/
def carried (s : Sign) (m : Nat) (e : Int) : UnpackedFloat :=
  let shifted := shiftToTargetExponent Format.binary64 m e .exact
  if h : shifted.1.mantissa = 0 then .zero s
  else .finite s shifted.1.mantissa shifted.2 (Nat.pos_of_ne_zero h)

theorem denotes_carried (s : Sign) {m : Nat} {e : Int} (hm : m ≤ 2 ^ 53) (he : -1074 ≤ e)
    (hlead : 2 ^ 52 ≤ m ∨ e = -1074) : Denotes (carried s m e) (applySign s (m * 2 ^ e)) := by
  rcases hm.eq_or_lt with rfl | hm
  · -- The bit that is too many is shifted out, and it is zero.
    have hshift : (placeOf (2 ^ 53) e - e).toNat = 1 := by
      unfold placeOf
      rw [Nat.log2_two_pow]
      omega
    have hcarried : carried s (2 ^ 53) e = .finite s (2 ^ 52) (e + 1) (Nat.two_pow_pos 52) := by
      unfold carried shiftToTargetExponent shiftToExponent
      simp only [targetExponent_eq, hshift]
      rfl
    have hvalue : (((2 ^ 53 : ℕ) : ℕ) : ℚ) * 2 ^ e = ((2 ^ 52 : ℕ) : ℚ) * 2 ^ (e + 1) := by
      rw [zpow_add_one₀ two_ne_zero]
      push_cast
      ring
    rw [hcarried, hvalue]
    exact .finite s _ _ _ (by decide) (by omega) (.inl le_rfl)
  · have hshift : (placeOf m e - e).toNat = 0 := by
      have hlog : m.log2 ≤ 52 := by
        rcases Nat.eq_zero_or_pos m with rfl | hpos
        · decide
        · exact Nat.lt_succ_iff.mp ((Nat.log2_lt hpos.ne').mpr hm)
      unfold placeOf
      omega
    have hcarried : carried s m e =
        if h : m = 0 then .zero s else .finite s m e (Nat.pos_of_ne_zero h) := by
      unfold carried shiftToTargetExponent shiftToExponent
      simp only [targetExponent_eq, hshift, Nat.cast_zero, add_zero]
      rfl
    rw [hcarried]
    split
    · next h =>
      rw [h, Nat.cast_zero, zero_mul, applySign_zero]
      exact .zero s
    · next h => exact .finite s m e _ hm he hlead

theorem roundWithAccuracy_eq (s : Sign) (m : Nat) (e : Int) (acc : Accuracy)
    (hplaced : e ≤ placeOf m e) :
    roundWithAccuracy Format.binary64 s m e acc = carried s
      ((ExtendedMantissa.ofMantissaAndAccuracy m acc >>> (placeOf m e - e).toNat).roundedMantissa)
      (placeOf m e) := by
  have hplace : e + ((placeOf m e - e).toNat : Int) = placeOf m e := by omega
  show carried s _ (e + ((placeOf m e - e).toNat : Int)) = _
  rw [hplace]
  rfl

/-- **What is rounded has the nearest value.** -/
theorem denotes_roundWithAccuracy (s : Sign) {m : Nat} {e : Int} {acc : Accuracy} {q : ℚ}
    (hlocates : Locates (.ofMantissaAndAccuracy m acc) q) (hq : 0 < q)
    (hplaced : e ≤ placeOf m e) :
    Denotes (roundWithAccuracy Format.binary64 s m e acc)
      (applySign s (nearestMagnitude (q * 2 ^ e))) := by
  have hpos : 0 < q * 2 ^ e := mul_pos hq (two_zpow_pos e)
  have hfloor : ⌊q⌋ = m := by
    have hmantissa : (ExtendedMantissa.ofMantissaAndAccuracy m acc).mantissa = m := by
      rcases acc with _ | _ | _ | _ <;> rfl
    rw [hlocates.floor_eq, hmantissa]
  have hlast := lastExponent_eq hfloor hq hplaced
  have hscaled : q / 2 ^ (placeOf m e - e).toNat = q * 2 ^ e / lastPlace (q * 2 ^ e) := by
    have hexp : placeOf m e = ((placeOf m e - e).toNat : ℤ) + e := by omega
    rw [lastPlace, hlast, div_eq_div_iff (by positivity) (two_zpow_pos _).ne', hexp,
      ← two_pow_mul_two_zpow]
    simp only [add_sub_cancel_right, Int.toNat_natCast]
    ring
  have hround := (hlocates.shiftRight (placeOf m e - e).toNat).roundedMantissa_eq
  rw [roundWithAccuracy_eq s m e acc hplaced]
  generalize (ExtendedMantissa.ofMantissaAndAccuracy m acc >>>
    (placeOf m e - e).toNat).roundedMantissa = r at hround ⊢
  rw [hscaled] at hround
  have hvalue : nearestMagnitude (q * 2 ^ e) = r * 2 ^ placeOf m e := by
    rw [nearestMagnitude, ← hround, lastPlace, hlast, Int.cast_natCast]
  rw [hvalue]
  -- Rounding may add a bit to the mantissa, but it takes none away.
  refine denotes_carried s ?_ (le_max_right _ _) ?_
  · have hle := roundEven_div_le (q := q * 2 ^ e) (n := (2 ^ 53 : ℕ))
      (by exact_mod_cast (lt_lastPlace_mul _).le)
    rw [← hround] at hle
    exact_mod_cast hle
  · rcases (le_max_right _ _ : -1074 ≤ placeOf m e).eq_or_lt with hleast | hleast
    · exact .inr hleast.symm
    · have hle := le_roundEven_div (q := q * 2 ^ e) (n := (2 ^ 52 : ℕ))
        (by exact_mod_cast lastPlace_mul_le hpos (hlast ▸ hleast))
      rw [← hround] at hle
      exact .inl (by exact_mod_cast hle)

/-! ## Operations -/

theorem placeOf_shiftLeft {m : Nat} (hm : 0 < m) (e : Int) (k : Nat) :
    placeOf (m <<< k) (e - k) = placeOf m e := by
  have hlog : (m <<< k).log2 = m.log2 + k := by
    have hpos := Nat.two_pow_pos k
    rw [Nat.shiftLeft_eq, Nat.log2_eq_iff (Nat.mul_pos hm hpos).ne', pow_add, pow_succ, pow_add]
    have hlow := Nat.mul_le_mul_right (2 ^ k) (Nat.log2_self_le hm.ne')
    have hhigh := Nat.mul_lt_mul_of_pos_right (Nat.lt_log2_self (n := m)) hpos
    rw [pow_succ] at hhigh
    exact ⟨hlow, by linarith⟩
  unfold placeOf
  rw [hlog]
  omega

theorem shiftLeft_mul (m k : Nat) (e : Int) :
    ((m <<< k : ℕ) : ℚ) * 2 ^ (e - k) = m * 2 ^ e := by
  rw [Nat.shiftLeft_eq, zpow_sub₀ two_ne_zero, zpow_natCast]
  push_cast
  field_simp

theorem denotes_round (s : Sign) {m : Nat} (hm : 0 < m) (e : Int) :
    Denotes (UnpackedFloat.round Format.binary64 s m e)
      (applySign s (nearestMagnitude (m * 2 ^ e))) := by
  -- The mantissa is first moved to the left, if it has bits to spare.
  have hshift := placeOf_shiftLeft hm e (e - placeOf m e).toNat
  have hpos : (0 : ℚ) < (m <<< (e - placeOf m e).toNat : ℕ) := by
    rw [Nat.shiftLeft_eq]
    positivity
  have hplaced : e - (e - placeOf m e).toNat ≤
      placeOf (m <<< (e - placeOf m e).toNat) (e - (e - placeOf m e).toNat) := by
    rw [hshift]
    omega
  rw [← shiftLeft_mul m (e - placeOf m e).toNat e]
  exact denotes_roundWithAccuracy s (locates_exact _) hpos hplaced

theorem denotes_normalize (m e : Int) (zero : Sign) :
    Denotes (UnpackedFloat.normalize Format.binary64 m e zero) (nearest (m * 2 ^ e)) := by
  unfold UnpackedFloat.normalize
  split
  · next h =>
    have hm := Int.compare_eq_lt.mp h
    have hcast : (((-m).toNat : ℕ) : ℚ) = -m := by
      exact_mod_cast (by omega : ((-m).toNat : ℤ) = -m)
    have hneg : (m : ℚ) * 2 ^ e < 0 := mul_neg_of_neg_of_pos (by exact_mod_cast hm) (two_zpow_pos e)
    have hround := denotes_round .negative (m := (-m).toNat) (by omega) e
    rwa [hcast, neg_mul, applySign_negative, ← nearest_of_neg hneg] at hround
  · next h =>
    rw [Int.compare_eq_eq.mp h, Int.cast_zero, zero_mul, nearest_zero]
    exact .zero zero
  · next h =>
    have hm := Int.compare_eq_gt.mp h
    have hcast : ((m.toNat : ℕ) : ℚ) = m := by
      exact_mod_cast (by omega : (m.toNat : ℤ) = m)
    have hpos : 0 ≤ (m : ℚ) * 2 ^ e := mul_nonneg (by exact_mod_cast hm.le) (two_zpow_pos e).le
    have hround := denotes_round .positive (m := m.toNat) (by omega) e
    rwa [hcast, applySign_positive, ← nearest_of_nonneg hpos] at hround

theorem Denotes.nearest_eq {u : UnpackedFloat} {q : ℚ} (h : Denotes u q) : nearest q = q :=
  nearest_of_representable h.representable

/-- A mantissa with a sign, moved to a lesser exponent. -/
theorem apply_shiftLeft (s : Sign) (m : Nat) {e f : Int} (h : f ≤ e) :
    ((s.apply (m <<< (e - f).toNat : ℕ) : ℤ) : ℚ) * 2 ^ f = applySign s (m * 2 ^ e) := by
  have hshift := shiftLeft_mul m (e - f).toNat e
  have hf : e - ((e - f).toNat : ℤ) = f := by omega
  rw [hf] at hshift
  rw [← hshift]
  cases s with
  | positive => rfl
  | negative =>
    simp only [Sign.apply, applySign_negative, Int.cast_neg, Int.cast_natCast, neg_mul]

theorem Denotes.add {u v : UnpackedFloat} {p q : ℚ} (hu : Denotes u p) (hv : Denotes v q) :
    Denotes (UnpackedFloat.add Format.binary64 u v) (nearest (p + q)) := by
  cases hu with
  | zero s =>
    rw [zero_add, hv.nearest_eq]
    cases hv with
    | zero t =>
      show Denotes (if s == t then .zero s else .zero .positive) 0
      split <;> exact .zero _
    | finite t n f hn hnlt hflow hnlead => exact .finite t n f hn hnlt hflow hnlead
  | finite s m e hm hmlt helow hmlead =>
    have hu := Denotes.finite s m e hm hmlt helow hmlead
    cases hv with
    | zero t =>
      rw [add_zero, hu.nearest_eq]
      exact hu
    | finite t n f hn hnlt hflow hnlead =>
      rw [← apply_shiftLeft s m (min_le_left e f), ← apply_shiftLeft t n (min_le_right e f),
        ← add_mul, ← Int.cast_add]
      exact denotes_normalize _ _ _

theorem Denotes.sub {u v : UnpackedFloat} {p q : ℚ} (hu : Denotes u p) (hv : Denotes v q) :
    Denotes (UnpackedFloat.sub Format.binary64 u v) (nearest (p - q)) := by
  cases hu with
  | zero s =>
    rw [zero_sub, nearest_neg, hv.nearest_eq]
    cases hv with
    | zero t =>
      rw [neg_zero]
      show Denotes (if s == -t then .zero s else .zero .positive) 0
      split <;> exact .zero _
    | finite t n f hn hnlt hflow hnlead =>
      have hneg : -applySign t (n * 2 ^ f) = applySign (-t) (n * 2 ^ f) := by
        cases t
        · exact neg_neg _
        · rfl
      rw [hneg]
      exact .finite (-t) n f hn hnlt hflow hnlead
  | finite s m e hm hmlt helow hmlead =>
    have hu := Denotes.finite s m e hm hmlt helow hmlead
    cases hv with
    | zero t =>
      rw [sub_zero, hu.nearest_eq]
      exact hu
    | finite t n f hn hnlt hflow hnlead =>
      rw [← apply_shiftLeft s m (min_le_left e f), ← apply_shiftLeft t n (min_le_right e f),
        ← sub_mul, ← Int.cast_sub]
      exact denotes_normalize _ _ _

theorem nearest_applySign {s : Sign} {q : ℚ} (h : 0 ≤ q) :
    nearest (applySign s q) = applySign s (nearestMagnitude q) := by
  cases s with
  | positive => exact nearest_of_nonneg h
  | negative => rw [applySign_negative, nearest_neg, nearest_of_nonneg h, applySign_negative]

theorem applySign_mul (s t : Sign) (p q : ℚ) :
    applySign s p * applySign t q = applySign (s * t) (p * q) := by
  cases s <;> cases t
  · exact neg_mul_neg p q
  · exact neg_mul p q
  · exact mul_neg p q
  · rfl

theorem applySign_div (s t : Sign) (p q : ℚ) :
    applySign s p / applySign t q = applySign (s / t) (p / q) := by
  cases s <;> cases t
  · exact neg_div_neg_eq p q
  · exact neg_div q p
  · exact div_neg p
  · rfl

theorem le_placeOf_of_le {m : Nat} (h : 2 ^ 52 ≤ m) (e : Int) : e ≤ placeOf m e := by
  have hlog : 52 ≤ m.log2 := (Nat.le_log2 (by omega)).mpr h
  unfold placeOf
  omega

theorem Denotes.mul {u v : UnpackedFloat} {p q : ℚ} (hu : Denotes u p) (hv : Denotes v q) :
    Denotes (UnpackedFloat.mul Format.binary64 u v) (nearest (p * q)) := by
  cases hu with
  | zero s =>
    rw [zero_mul, nearest_zero]
    cases hv <;> exact .zero _
  | finite s m e hm hmlt helow hmlead =>
    cases hv with
    | zero t =>
      rw [mul_zero, nearest_zero]
      exact .zero _
    | finite t n f hn hnlt hflow hnlead =>
      have hplaced : e + f ≤ placeOf (m * n) (e + f) := by
        -- One of the mantissas is long enough, or both exponents are the least ones.
        rcases hmlead with hmlead | rfl
        · exact le_placeOf_of_le (hmlead.trans (Nat.le_mul_of_pos_right m hn)) _
        · rcases hnlead with hnlead | rfl
          · exact le_placeOf_of_le (hnlead.trans (Nat.le_mul_of_pos_left n hm)) _
          · exact (by decide : (-1074 : ℤ) + -1074 ≤ -1074).trans (le_max_right _ _)
      have hpos : (0 : ℚ) < (m * n : ℕ) := by exact_mod_cast Nat.mul_pos hm hn
      have hvalue : (m : ℚ) * 2 ^ e * (n * 2 ^ f) = (m * n : ℕ) * 2 ^ (e + f) := by
        rw [zpow_add₀ two_ne_zero]
        push_cast
        ring
      rw [applySign_mul, hvalue, nearest_applySign (mul_nonneg hpos.le (two_zpow_pos _).le)]
      exact denotes_roundWithAccuracy (s * t) (locates_exact _) hpos hplaced

/-- The exponent of a quotient, low enough for all bits of its mantissa. -/
def quotientExponent (m : Nat) (e : Int) (n : Nat) (f : Int) : Int :=
  min (e - f) (Format.binary64.targetExponent (totalExponent m e - totalExponent n f))

theorem quotientExponent_le {m : Nat} {e : Int} {n : Nat} {f : Int} (hm : 0 < m) (hn : 0 < n) :
    quotientExponent m e n f ≤
      placeOf ((m <<< (e - f - quotientExponent m e n f).toNat) / n)
        (quotientExponent m e n f) := by
  have hexp : quotientExponent m e n f ≤ e - f ∧ (quotientExponent m e n f ≤ -1074 ∨
      quotientExponent m e n f ≤ m.log2 + e - (n.log2 + f) - 53) := by
    have htarget : Format.binary64.targetExponent (totalExponent m e - totalExponent n f) =
        max (((m.log2 : ℤ) + 1 + e) - ((n.log2 : ℤ) + 1 + f) - 53) (-1074) := rfl
    unfold quotientExponent
    omega
  generalize quotientExponent m e n f = target at hexp ⊢
  obtain ⟨hle, hleast | hlow⟩ := hexp
  · exact hleast.trans (le_max_right _ _)
  · -- The dividend has at least 53 bits more than the divisor.
    refine le_placeOf_of_le ((Nat.le_div_iff_mul_le hn).mpr ?_) _
    have hbits : n.log2 + 53 ≤ m.log2 + (e - f - target).toNat := by omega
    have hm := Nat.log2_self_le hm.ne'
    rw [Nat.shiftLeft_eq]
    calc 2 ^ 52 * n ≤ 2 ^ 52 * 2 ^ (n.log2 + 1) := Nat.mul_le_mul_left _ Nat.lt_log2_self.le
      _ = 2 ^ (n.log2 + 53) := by rw [← pow_add]; congr 1; omega
      _ ≤ 2 ^ (m.log2 + (e - f - target).toNat) := Nat.pow_le_pow_right (by omega) hbits
      _ = 2 ^ m.log2 * 2 ^ (e - f - target).toNat := pow_add _ _ _
      _ ≤ m * 2 ^ (e - f - target).toNat := Nat.mul_le_mul_right _ hm

theorem Denotes.div {u v : UnpackedFloat} {p q : ℚ} (hu : Denotes u p) (hv : Denotes v q)
    (hq : q ≠ 0) : Denotes (UnpackedFloat.div Format.binary64 u v) (nearest (p / q)) := by
  cases hv with
  | zero t => exact absurd rfl hq
  | finite t n f hn hnlt hflow hnlead =>
    cases hu with
    | zero s =>
      rw [zero_div, nearest_zero]
      exact .zero _
    | finite s m e hm hmlt helow hmlead =>
      have hplaced := quotientExponent_le (e := e) (f := f) hm hn
      have hshift := shiftLeft_mul m (e - f - quotientExponent m e n f).toNat (e - f)
      have hexp : e - f - ((e - f - quotientExponent m e n f).toNat : ℤ) =
          quotientExponent m e n f := by
        have hle : quotientExponent m e n f ≤ e - f := min_le_left _ _
        omega
      rw [hexp] at hshift
      have hpos : 0 < m <<< (e - f - quotientExponent m e n f).toNat := by
        rw [Nat.shiftLeft_eq]
        positivity
      show Denotes (roundWithAccuracy Format.binary64 (s / t)
        (m <<< (e - f - quotientExponent m e n f).toNat / n) (quotientExponent m e n f)
        (accuracyOfFraction (m <<< (e - f - quotientExponent m e n f).toNat % n) n)) _
      generalize m <<< (e - f - quotientExponent m e n f).toNat = dividend at hplaced hshift hpos ⊢
      generalize quotientExponent m e n f = target at hplaced hshift ⊢
      have hpos : (0 : ℚ) < dividend / n := div_pos (by exact_mod_cast hpos) (by exact_mod_cast hn)
      have hvalue : (m : ℚ) * 2 ^ e / (n * 2 ^ f) = dividend / n * 2 ^ target := by
        rw [div_mul_eq_mul_div, hshift, zpow_sub₀ two_ne_zero]
        field_simp
      rw [applySign_div, hvalue, nearest_applySign (mul_nonneg hpos.le (two_zpow_pos _).le)]
      exact denotes_roundWithAccuracy (s / t) (locates_quotient dividend hn) hpos hplaced

/-! ## Numbers

The operations are correctly rounded. -/

section Values

variable {x y : Float} {p q : ℚ} (hx : HasValue x p) (hy : HasValue y q)
include hx hy

theorem add_hasValue (h : |nearest (p + q)| < 2 ^ (1024 : ℤ)) :
    HasValue (x + y) (nearest (p + q)) :=
  (Denotes.add hx hy).hasValue rfl h

theorem sub_hasValue (h : |nearest (p - q)| < 2 ^ (1024 : ℤ)) :
    HasValue (x - y) (nearest (p - q)) :=
  (Denotes.sub hx hy).hasValue rfl h

theorem mul_hasValue (h : |nearest (p * q)| < 2 ^ (1024 : ℤ)) :
    HasValue (x * y) (nearest (p * q)) :=
  (Denotes.mul hx hy).hasValue rfl h

theorem div_hasValue (hq : q ≠ 0) (h : |nearest (p / q)| < 2 ^ (1024 : ℤ)) :
    HasValue (x / y) (nearest (p / q)) :=
  (Denotes.div hx hy hq).hasValue rfl h

/-- A small sum has a value next to the exact one. -/
theorem exists_add_hasValue {e : ℤ} (he : -1074 ≤ e) (he64 : e + 53 ≤ 64)
    (h : |p + q| < 2 ^ (e + 53)) : ∃ r, HasValue (x + y) r ∧ |r - (p + q)| ≤ 2 ^ e / 2 :=
  ⟨_, add_hasValue hx hy (abs_nearest_lt (h.le.trans (two_zpow_le he64))), abs_nearest_sub_le he h⟩

theorem exists_mul_hasValue {e : ℤ} (he : -1074 ≤ e) (he64 : e + 53 ≤ 64)
    (h : |p * q| < 2 ^ (e + 53)) : ∃ r, HasValue (x * y) r ∧ |r - p * q| ≤ 2 ^ e / 2 :=
  ⟨_, mul_hasValue hx hy (abs_nearest_lt (h.le.trans (two_zpow_le he64))), abs_nearest_sub_le he h⟩

/-- A sum that is not negative has the nearest value, or it is too great. -/
theorem add_hasValue_or (h : 0 ≤ p + q) : HasValue (x + y) (nearest (p + q)) ∨ IsInfinity (x + y) :=
  (Denotes.add hx hy).hasValue_or rfl (nearest_nonneg h)

end Values

/-- The number is infinite, or its value is no less. -/
def AtLeast (q : ℚ) (x : Float) : Prop := IsInfinity x ∨ ∃ p, q ≤ p ∧ HasValue x p

theorem atLeast_zero {x : Float} (h : 0.0 ≤ x) : AtLeast 0 x := by
  rcases unsigned_of_nonneg h with hx | hx
  · generalize hu : x.toModel.unpack = u at hx
    cases hx with
    | nan =>
      rw [le_iff_compare, hu] at h
      exact absurd h (by decide)
    | infinity => exact .inl hu
    | zero =>
      refine .inr ⟨0, le_rfl, ?_⟩
      rw [HasValue, hu]
      exact .zero _
    | finite m e hm => exact .inr ⟨_, (magnitude_pos hm e).le, hasValue_of_unpack hu⟩
  · refine .inr ⟨0, le_rfl, ?_⟩
    rw [HasValue, hx]
    exact .zero _

/-- The number has a value in `[0, 1]`. -/
def InUnit (x : Float) : Prop := ∃ q, HasValue x q ∧ 0 ≤ q ∧ q ≤ 1

/-- **A number is in `[0, 1]` when its comparisons say so.** -/
theorem inUnit_iff {x : Float} : InUnit x ↔ 0.0 ≤ x ∧ x ≤ 1.0 := by
  constructor
  · rintro ⟨q, hx, h0, h1⟩
    exact ⟨(le_iff hasValue_zero hx).mpr h0, (le_iff hx hasValue_one).mpr h1⟩
  · rintro ⟨h0, h1⟩
    rcases atLeast_zero h0 with hinfinite | ⟨q, hq, hx⟩
    · rw [le_iff_compare, hinfinite] at h1
      exact absurd h1 (by decide)
    · exact ⟨q, hx, hq, (le_iff hx hasValue_one).mp h1⟩

theorem isInfinity_add {x y : Float}
    (h : UnpackedFloat.add Format.binary64 x.toModel.unpack y.toModel.unpack =
      .infinity .positive) : IsInfinity (x + y) := by
  show UnpackedFloat.unpack Format.binary64 (UnpackedFloat.pack Format.binary64
    (UnpackedFloat.add Format.binary64 x.toModel.unpack y.toModel.unpack)) = _
  rw [h]
  rfl

/-- **A sum of numbers that are not negative is no less than either.** -/
theorem AtLeast.add_max {x y : Float} {p q : ℚ} (hp : 0 ≤ p) (hq : 0 ≤ q) (hx : AtLeast p x)
    (hy : AtLeast q y) : AtLeast (max p q) (x + y) := by
  rcases hx with hx | ⟨r, hr, hx⟩
  · refine .inl (isInfinity_add ?_)
    rw [hx]
    rcases hy with hy | ⟨s, -, hy⟩
    · rw [hy]
      rfl
    · unfold HasValue at hy
      generalize y.toModel.unpack = v at hy ⊢
      cases hy <;> rfl
  · rcases hy with hy | ⟨s, hs, hy⟩
    · refine .inl (isInfinity_add ?_)
      rw [hy]
      unfold HasValue at hx
      generalize x.toModel.unpack = u at hx ⊢
      cases hx <;> rfl
    · rcases add_hasValue_or hx hy (by linarith) with hsum | hsum
      · have hleft : r ≤ nearest (r + s) := le_nearest (by linarith) hx.representable
        have hright : s ≤ nearest (r + s) := le_nearest (by linarith) hy.representable
        exact .inr ⟨_, max_le (hr.trans hleft) (hs.trans hright), hsum⟩
      · exact .inl hsum

/-- Adding what is not negative does not make a number less. -/
theorem AtLeast.add {x y : Float} {q : ℚ} (hq : 0 ≤ q) (hx : AtLeast q x) (hy : AtLeast 0 y) :
    AtLeast q (x + y) := by
  have hsum := AtLeast.add_max hq le_rfl hx hy
  rwa [max_eq_left hq] at hsum

/-- Nor does being added to what is not negative. -/
theorem AtLeast.add_left {x y : Float} {q : ℚ} (hq : 0 ≤ q) (hx : AtLeast 0 x)
    (hy : AtLeast q y) : AtLeast q (x + y) := by
  have hsum := AtLeast.add_max le_rfl hq hx hy
  rwa [max_eq_right hq] at hsum

theorem atLeast_mul {x y : Float} {p q : ℚ} (hx : HasValue x p) (hy : HasValue y q)
    (h : 0 ≤ p * q) : AtLeast 0 (x * y) :=
  ((Denotes.mul hx hy).hasValue_or rfl (nearest_nonneg h)).symm.imp_right
    fun hproduct => ⟨_, nearest_nonneg h, hproduct⟩

/-- The greatest count that is told apart from greater ones. -/
def greatestCount : ℕ := 2 ^ 64 - 1

theorem toNat_ofNatClamp (n : ℕ) : (UInt64.ofNatClamp n).toNat = min n greatestCount := by
  have hsize : UInt64.size = 2 ^ 64 := rfl
  unfold UInt64.ofNatClamp greatestCount
  split
  · next h =>
    rw [UInt64.toNat_ofNatLT]
    omega
  · next h =>
    rw [UInt64.toNat_ofNatLT]
    omega

/-- The value of a count. -/
def countValue (n : ℕ) : ℚ := nearest (min n greatestCount : ℕ)

theorem countValue_mono {n m : ℕ} (h : n ≤ m) : countValue n ≤ countValue m :=
  nearest_mono (by exact_mod_cast min_le_min_right _ h)

@[simp]
theorem countValue_zero : countValue 0 = 0 := by
  simp [countValue, nearest_zero]

theorem countValue_nonneg (n : ℕ) : 0 ≤ countValue n := nearest_nonneg (Nat.cast_nonneg _)

theorem countValue_pos {n : ℕ} (h : 0 < n) : 0 < countValue n := by
  have hone : ((1 : ℤ) : ℚ) ≤ (min n greatestCount : ℕ) := by
    exact_mod_cast le_min h (by decide)
  exact one_pos.trans_le (le_nearest hone (representable_intCast (by decide)))

theorem cast_min_greatestCount_le (n : ℕ) : ((min n greatestCount : ℕ) : ℚ) ≤ 2 ^ (64 : ℤ) := by
  have hmin : min n greatestCount ≤ 2 ^ 64 := (min_le_right _ _).trans (by decide)
  exact_mod_cast hmin

theorem countValue_le (n : ℕ) : countValue n ≤ 2 ^ (64 : ℤ) :=
  nearest_le (cast_min_greatestCount_le n) (representable_two_zpow (by decide))

/-- **Counts are correctly rounded.** -/
theorem ofCount_hasValue (n : ℕ) : HasValue (ofCount n) (countValue n) := by
  have hdenotes := denotes_normalize (min n greatestCount : ℕ) 0 .positive
  rw [zpow_zero, mul_one, Int.cast_natCast, ← toNat_ofNatClamp] at hdenotes
  unfold countValue
  rw [← toNat_ofNatClamp]
  refine hdenotes.hasValue rfl (abs_nearest_lt ?_)
  rw [toNat_ofNatClamp, Nat.abs_cast]
  exact cast_min_greatestCount_le n

end Dossier.Binary64
