import Dossier.Binary64.Parts
import Dossier.Proofs.Binary64.Order
import Dossier.Proofs.Binary64.Rounding
import Dossier.Proofs.Binary64.Sum
import Mathlib

/-!
# The values of binary64 numbers

A finite number has a rational value (`HasValue`). The comparisons of numbers compare their values
(`lt_iff`, `le_iff`), and the floor of a number is the floor of its value (`floorInt_eq`). A value
has one unpacked form, up to the sign of zero, and this form survives being packed into bits unless
it is too great (`unpack_pack`).
-/

set_option autoImplicit false

namespace Dossier.Binary64

open Float.Model Float.Model.UnpackedFloat

/-- A magnitude with a sign. -/
def applySign : Sign → ℚ → ℚ
  | .positive, q => q
  | .negative, q => -q

@[simp]
theorem applySign_positive (q : ℚ) : applySign .positive q = q := rfl

@[simp]
theorem applySign_negative (q : ℚ) : applySign .negative q = -q := rfl

@[simp]
theorem applySign_zero (s : Sign) : applySign s 0 = 0 := by
  cases s <;> simp

theorem abs_applySign {s : Sign} {q : ℚ} (h : 0 ≤ q) : |applySign s q| = q := by
  cases s <;> simp [abs_of_nonneg h]

theorem representable_applySign {s : Sign} {q : ℚ} (h : Representable q) :
    Representable (applySign s q) := by
  cases s with
  | positive => exact h
  | negative => exact h.neg

/-- The value of an unpacked number with the exponent that the format has for its magnitude. -/
inductive Denotes : UnpackedFloat → ℚ → Prop where
  | zero (s : Sign) : Denotes (.zero s) 0
  | finite (s : Sign) (m : Nat) (e : Int) (hm : 0 < m) (hlt : m < 2 ^ 53) (hlow : -1074 ≤ e)
      (hlead : 2 ^ 52 ≤ m ∨ e = -1074) :
      Denotes (.finite s m e hm) (applySign s (m * 2 ^ e))

/-- The number is finite and has this value. -/
def HasValue (x : Float) (q : ℚ) : Prop := Denotes x.toModel.unpack q

/-- The number is the positive infinity. -/
def IsInfinity (x : Float) : Prop := x.toModel.unpack = .infinity .positive

theorem Denotes.representable {u : UnpackedFloat} {q : ℚ} (h : Denotes u q) : Representable q := by
  cases h with
  | zero s => exact ⟨0, 0, by decide, by decide, by simp⟩
  | finite s m e hm hlt hlow hlead =>
    have hm : |(m : ℤ)| < 2 ^ 53 := by
      rw [Nat.abs_cast]
      exact_mod_cast hlt
    exact representable_applySign ⟨m, e, hm, hlow, rfl⟩

theorem HasValue.representable {x : Float} {q : ℚ} (h : HasValue x q) : Representable q :=
  Denotes.representable h

theorem hasValue_of_unpack {x : Float} {s : Sign} {m : Nat} {e : Int} {hm : 0 < m}
    (h : x.toModel.unpack = .finite s m e hm) : HasValue x (applySign s (m * 2 ^ e)) := by
  -- That the mantissa is of the right length is known from the bits.
  have hshape := shape_rank x
  unfold HasValue
  rw [h] at hshape ⊢
  generalize rank x = place at hshape
  cases hshape with
  | finite _ _ _ _ hlt hlow _ hlead => exact .finite s m e hm hlt hlow hlead

theorem hasValue_zero : HasValue 0.0 0 := .zero .positive

theorem hasValue_one : HasValue 1.0 1 := by
  have hunpack : (1.0 : Float).toModel.unpack = .finite .positive (2 ^ 52) (-52) (by decide) := rfl
  have hvalue := hasValue_of_unpack hunpack
  norm_num at hvalue
  exact hvalue

/-! ## Order -/

theorem magnitude_lt_of_exponent_lt {m n : Nat} {e f : Int} (hm : m < 2 ^ 53) (he : -1074 ≤ e)
    (hn : 2 ^ 52 ≤ n ∨ f = -1074) (h : e < f) : (m : ℚ) * 2 ^ e < n * 2 ^ f := by
  have hm : (m : ℚ) < 2 ^ 53 := by exact_mod_cast hm
  have hn : (2 : ℚ) ^ 52 ≤ n := by exact_mod_cast hn.resolve_right (by omega)
  calc (m : ℚ) * 2 ^ e < 2 ^ 53 * 2 ^ e := mul_lt_mul_of_pos_right hm (two_zpow_pos e)
    _ = 2 ^ 52 * 2 ^ (e + 1) := by rw [zpow_add₀ two_ne_zero]; ring
    _ ≤ 2 ^ 52 * 2 ^ f := mul_le_mul_of_nonneg_left (two_zpow_le (by omega)) (by positivity)
    _ ≤ n * 2 ^ f := mul_le_mul_of_nonneg_right hn (two_zpow_pos f).le

/-- The exponent decides which of two magnitudes is greater, and then the mantissa. -/
theorem compare_magnitude {m n : Nat} {e f : Int} (hm : m < 2 ^ 53) (he : -1074 ≤ e)
    (hmlead : 2 ^ 52 ≤ m ∨ e = -1074) (hn : n < 2 ^ 53) (hf : -1074 ≤ f)
    (hnlead : 2 ^ 52 ≤ n ∨ f = -1074) :
    (compare e f).then (compare m n) = compare ((m : ℚ) * 2 ^ e) (n * 2 ^ f) := by
  rcases lt_trichotomy e f with h | rfl | h
  · rw [compare_lt_iff_lt.mpr h,
      compare_lt_iff_lt.mpr (magnitude_lt_of_exponent_lt hm he hnlead h)]
    rfl
  · rw [compare_eq_iff_eq.mpr rfl, Ordering.eq_then]
    have hpos := two_zpow_pos e
    rcases lt_trichotomy m n with h | rfl | h
    · have hlt : (m : ℚ) * 2 ^ e < n * 2 ^ e :=
        mul_lt_mul_of_pos_right (by exact_mod_cast h) hpos
      rw [compare_lt_iff_lt.mpr h, compare_lt_iff_lt.mpr hlt]
    · rw [compare_eq_iff_eq.mpr rfl, compare_eq_iff_eq.mpr rfl]
    · have hlt : (n : ℚ) * 2 ^ e < m * 2 ^ e :=
        mul_lt_mul_of_pos_right (by exact_mod_cast h) hpos
      rw [compare_gt_iff_gt.mpr h, compare_gt_iff_gt.mpr hlt]
  · rw [compare_gt_iff_gt.mpr h,
      compare_gt_iff_gt.mpr (magnitude_lt_of_exponent_lt hn hf hmlead h)]
    rfl

theorem magnitude_pos {m : Nat} (hm : 0 < m) (e : Int) : 0 < (m : ℚ) * 2 ^ e :=
  mul_pos (by exact_mod_cast hm) (two_zpow_pos e)

theorem compare_neg_neg (p q : ℚ) : compare (-p) (-q) = (compare p q).swap := by
  rcases lt_trichotomy p q with h | rfl | h
  · rw [compare_lt_iff_lt.mpr h, compare_gt_iff_gt.mpr (neg_lt_neg h)]
    rfl
  · rw [compare_eq_iff_eq.mpr rfl, compare_eq_iff_eq.mpr rfl]
    rfl
  · rw [compare_gt_iff_gt.mpr h, compare_lt_iff_lt.mpr (neg_lt_neg h)]
    rfl

/-- **Unpacked numbers are compared by their values.** -/
theorem Denotes.compare_eq {u v : UnpackedFloat} {p q : ℚ} (hu : Denotes u p) (hv : Denotes v q) :
    u.compare v = some (compare p q) := by
  cases hu with
  | zero s =>
    cases hv with
    | zero t => simp [UnpackedFloat.compare]
    | finite t n f hn hnlt hflow hnlead =>
      have hpos := magnitude_pos hn f
      cases t with
      | positive => exact congrArg some (compare_lt_iff_lt.mpr hpos).symm
      | negative => exact congrArg some (compare_gt_iff_gt.mpr (neg_lt_zero.mpr hpos)).symm
  | finite s m e hm hmlt helow hmlead =>
    have hmpos := magnitude_pos hm e
    cases hv with
    | zero t =>
      cases s with
      | positive => exact congrArg some (compare_gt_iff_gt.mpr hmpos).symm
      | negative => exact congrArg some (compare_lt_iff_lt.mpr (neg_lt_zero.mpr hmpos)).symm
    | finite t n f hn hnlt hflow hnlead =>
      have hnpos := magnitude_pos hn f
      have hboth := compare_magnitude hmlt helow hmlead hnlt hflow hnlead
      cases s <;> cases t
      · -- Of two negative numbers the lesser one has the greater magnitude.
        simp only [UnpackedFloat.compare, hboth, applySign_negative, compare_neg_neg]
      · exact congrArg some (compare_lt_iff_lt.mpr ((neg_lt_zero.mpr hmpos).trans hnpos)).symm
      · exact congrArg some (compare_gt_iff_gt.mpr ((neg_lt_zero.mpr hnpos).trans hmpos)).symm
      · exact congrArg some hboth

theorem lt_iff {x y : Float} {p q : ℚ} (hx : HasValue x p) (hy : HasValue y q) :
    x < y ↔ p < q := by
  rw [lt_iff_compare, Denotes.compare_eq hx hy, Option.some_inj, compare_lt_iff_lt]

theorem le_iff {x y : Float} {p q : ℚ} (hx : HasValue x p) (hy : HasValue y q) :
    x ≤ y ↔ p ≤ q := by
  rw [le_iff_compare, Denotes.compare_eq hx hy, Option.any_some, ← compare_le_iff_le,
    Ordering.isLE_iff_ne_gt]

theorem HasValue.unique {x : Float} {p q : ℚ} (hp : HasValue x p) (hq : HasValue x q) : p = q :=
  le_antisymm ((le_iff hp hq).mp ((le_iff hp hp).mpr le_rfl))
    ((le_iff hq hp).mp ((le_iff hp hp).mpr le_rfl))

/-- A value other than zero belongs to one number only. -/
theorem eq_of_hasValue {x y : Float} {q : ℚ} (hx : HasValue x q) (hy : HasValue y q)
    (hq : q ≠ 0) : x = y := by
  have hcompare : x.toModel.unpack.beq y.toModel.unpack = true := by
    rw [UnpackedFloat.beq, Denotes.compare_eq hx hy, compare_eq_iff_eq.mpr rfl]
    rfl
  have hzero : ∀ s, x.toModel.unpack ≠ .zero s := by
    intro s h
    unfold HasValue at hx
    rw [h] at hx
    cases hx
    exact hq rfl
  -- Equal numbers have one unpacked form, but for the zeros.
  obtain ⟨-, -, hsame | ⟨hzero', -⟩ | ⟨hzero', -⟩⟩ := (beq_iff_ne_notANumber_and_eq _ _).mp hcompare
  · exact eq_of_unpack hsame
  · exact absurd hzero' (hzero _)
  · exact absurd hzero' (hzero _)

theorem hasValue_capped {x : Float} {q : ℚ} (hx : HasValue x q) :
    HasValue (if x < 1.0 then x else 1.0) (min q 1) := by
  by_cases h : q < 1
  · rw [if_pos ((lt_iff hx hasValue_one).mpr h), min_eq_left h.le]
    exact hx
  · rw [if_neg fun hlt => h ((lt_iff hx hasValue_one).mp hlt), min_eq_right (not_lt.mp h)]
    exact hasValue_one

section Infinity

variable {x y : Float} {q : ℚ} (hx : IsInfinity x) (hy : HasValue y q)
include hx hy

theorem IsInfinity.not_lt : ¬ x < y := by
  unfold HasValue at hy
  rw [lt_iff_compare, hx]
  generalize y.toModel.unpack = v at hy
  cases hy <;> simp [UnpackedFloat.compare]

theorem IsInfinity.not_le : ¬ x ≤ y := by
  unfold HasValue at hy
  rw [le_iff_compare, hx]
  generalize y.toModel.unpack = v at hy
  cases hy <;> simp [UnpackedFloat.compare]

theorem IsInfinity.lt : y < x := by
  unfold HasValue at hy
  rw [lt_iff_compare, hx]
  generalize y.toModel.unpack = v at hy
  cases hy <;> rfl

end Infinity

/-! ## Bits -/

/-- A magnitude that fits into the format has an exponent that does. -/
theorem exponent_le {m : Nat} {e : Int} (hlead : 2 ^ 52 ≤ m ∨ e = -1074)
    (h : (m : ℚ) * 2 ^ e < 2 ^ (1024 : ℤ)) : e ≤ 971 := by
  by_contra hgreat
  have hm : (2 : ℚ) ^ 52 ≤ m := by exact_mod_cast hlead.resolve_right (by omega)
  have hgreat : (2 : ℚ) ^ (1024 : ℤ) ≤ m * 2 ^ e :=
    calc (2 : ℚ) ^ (1024 : ℤ) = 2 ^ 52 * 2 ^ (972 : ℤ) := (two_pow_mul_two_zpow 52 972).symm
      _ ≤ 2 ^ 52 * 2 ^ e := mul_le_mul_of_nonneg_left (two_zpow_le (by omega)) (by positivity)
      _ ≤ m * 2 ^ e := mul_le_mul_of_nonneg_right hm (two_zpow_pos e).le
  exact absurd h (not_lt.mpr hgreat)

theorem unpack_leading (s : Sign) {biased m : Nat} (hlow : 0 < biased) (hhigh : biased < 2047)
    (hm : 0 < m) (hlt : m < 2 ^ 53) (hlead : 2 ^ 52 ≤ m) :
    UnpackedFloat.unpack Format.binary64 (packComponents Format.binary64 s
      (BitVec.ofNat 11 biased) (BitVec.ofNat 52 m)) = .finite s m (biased - 1075) hm := by
  have hexp : (BitVec.ofNat 11 biased).toNat = biased := by
    rw [BitVec.toNat_ofNat]
    omega
  have hones : BitVec.ofNat 11 biased ≠ -1#11 := by
    intro h
    rw [h] at hexp
    exact absurd hexp (by simp; omega)
  have hzero : BitVec.ofNat 11 biased ≠ 0#11 := by
    intro h
    rw [h] at hexp
    exact absurd hexp (by simp; omega)
  have hmantissa : (1#1 ++ BitVec.ofNat 52 m).toNat = m := by
    rw [toNat_leading, BitVec.toNat_ofNat]
    omega
  unfold UnpackedFloat.unpack
  simp only [unpackExponent_packComponents, unpackMantissa_packComponents,
    unpackSign_packComponents, Sign.ofBitVec_toBitVec, if_neg hones, if_neg hzero, hexp, hmantissa]
  rfl

theorem unpack_subnormal (s : Sign) {m : Nat} (hm : 0 < m) (hlt : m < 2 ^ 52) :
    UnpackedFloat.unpack Format.binary64 (packComponents Format.binary64 s
      0#11 (BitVec.ofNat 52 m)) = .finite s m (-1074) hm := by
  have hmantissa : (BitVec.ofNat 52 m).toNat = m := by
    rw [BitVec.toNat_ofNat]
    omega
  have hsome : BitVec.ofNat 52 m ≠ 0#52 := by
    intro h
    rw [h] at hmantissa
    exact absurd hmantissa hm.ne
  unfold UnpackedFloat.unpack
  simp only [unpackExponent_packComponents, unpackMantissa_packComponents,
    unpackSign_packComponents, Sign.ofBitVec_toBitVec, dif_neg hsome, hmantissa]
  rfl

/-- **A value that is not too great survives being packed.** -/
theorem Denotes.unpack_pack {u : UnpackedFloat} {q : ℚ} (h : Denotes u q)
    (hq : |q| < 2 ^ (1024 : ℤ)) :
    UnpackedFloat.unpack Format.binary64 (UnpackedFloat.pack Format.binary64 u) = u := by
  cases h with
  | zero s => exact unpack_packedZero
  | finite s m e hm hlt hlow hlead =>
    rw [abs_applySign (magnitude_pos hm e).le] at hq
    have hhigh := exponent_le hlead hq
    have hbiased : e + (Format.binary64.exponentBias : ℕ) +
        (Format.binary64.mantissaBitsWithoutImplicit : ℕ) = e + 1075 := by
      show e + (1023 : ℕ) + (52 : ℕ) = e + 1075
      omega
    have hbits : Format.binary64.mantissaBits = 53 := rfl
    unfold UnpackedFloat.pack
    simp only [hbiased, hbits]
    rw [if_neg (by norm_num; omega)]
    by_cases hnormal : 2 ^ 52 ≤ m
    · have hlog : m.log2 = 52 := (Nat.log2_eq_iff hm.ne').mpr ⟨hnormal, hlt⟩
      rw [hlog, if_pos rfl, unpack_leading s (by omega) (by omega) hm hlt hnormal]
      congr 1
      omega
    · have hlog : m.log2 < 52 := (Nat.log2_lt hm.ne').mpr (by omega)
      obtain rfl := hlead.resolve_left hnormal
      rw [if_neg (by omega), unpack_subnormal s hm (by omega)]

/-- A value that is too great becomes an infinity. -/
theorem Denotes.unpack_pack_of_ge {u : UnpackedFloat} {q : ℚ} (h : Denotes u q)
    (hq : 2 ^ (1024 : ℤ) ≤ q) :
    UnpackedFloat.unpack Format.binary64 (UnpackedFloat.pack Format.binary64 u) =
      .infinity .positive := by
  cases h with
  | zero s => exact absurd hq (not_le.mpr (two_zpow_pos _))
  | finite s m e hm hlt hlow hlead =>
    cases s with
    | negative =>
      have hneg := neg_lt_zero.mpr (magnitude_pos hm e)
      exact absurd hq (not_le.mpr (hneg.trans (two_zpow_pos _)))
    | positive =>
      have hhigh : 971 < e := by
        by_contra hle
        have hsmall : (m : ℚ) * 2 ^ e < 2 ^ (1024 : ℤ) := by
          have hm : (m : ℚ) < 2 ^ 53 := by exact_mod_cast hlt
          calc (m : ℚ) * 2 ^ e < 2 ^ 53 * 2 ^ e := mul_lt_mul_of_pos_right hm (two_zpow_pos e)
            _ ≤ 2 ^ 53 * 2 ^ (971 : ℤ) :=
              mul_le_mul_of_nonneg_left (two_zpow_le (by omega)) (by positivity)
            _ = 2 ^ (1024 : ℤ) := two_pow_mul_two_zpow 53 971
        exact absurd hq (not_le.mpr hsmall)
      have hbiased : (2 : ℕ) ^ Format.binary64.exponentBits ≤
          (e + (Format.binary64.exponentBias : ℕ) +
            (Format.binary64.mantissaBitsWithoutImplicit : ℕ)).toNat + 1 := by
        show 2 ^ 11 ≤ (e + (1023 : ℕ) + (52 : ℕ)).toNat + 1
        omega
      unfold UnpackedFloat.pack
      simp only
      rw [if_pos hbiased]
      rfl

/-- The value of the number whose bits pack an unpacked number. -/
theorem Denotes.hasValue {x : Float} {u : UnpackedFloat} {q : ℚ} (h : Denotes u q)
    (hx : x.toModel = Float.Model.pack u) (hq : |q| < 2 ^ (1024 : ℤ)) : HasValue x q := by
  have hunpack : x.toModel.unpack = u := hx ▸ h.unpack_pack hq
  rwa [HasValue, hunpack]

theorem Denotes.hasValue_or {x : Float} {u : UnpackedFloat} {q : ℚ} (h : Denotes u q)
    (hx : x.toModel = Float.Model.pack u) (hq : 0 ≤ q) : HasValue x q ∨ IsInfinity x := by
  rcases lt_or_ge q (2 ^ (1024 : ℤ)) with hlt | hge
  · exact .inl (h.hasValue hx (by rwa [abs_of_nonneg hq]))
  · have hunpack : x.toModel.unpack = .infinity .positive := hx ▸ h.unpack_pack_of_ge hge
    exact .inr hunpack

/-! ## Floors -/

theorem mul_two_zpow_of_nonneg (m : Nat) {e : Int} (h : 0 ≤ e) :
    (m : ℚ) * 2 ^ e = ((m * 2 ^ e.toNat : ℕ) : ℤ) := by
  obtain ⟨k, rfl⟩ := Int.eq_ofNat_of_zero_le h
  push_cast
  rw [zpow_natCast]
  rfl

theorem mul_two_zpow_of_neg (m : Nat) {e : Int} (h : ¬ 0 ≤ e) :
    (m : ℚ) * 2 ^ e = m / ((2 ^ (-e).toNat : ℕ) : ℚ) := by
  obtain ⟨k, hk⟩ := Int.eq_ofNat_of_zero_le (neg_nonneg.mpr (not_le.mp h).le)
  rw [← neg_neg e, hk, neg_neg, zpow_neg, div_eq_mul_inv]
  push_cast
  rw [zpow_natCast]
  rfl

theorem floorNat_eq (m : Nat) (e : Int) : (floorNat m e : ℤ) = ⌊(m : ℚ) * 2 ^ e⌋ := by
  unfold floorNat
  split
  · next h =>
    rw [mul_two_zpow_of_nonneg m h, Int.floor_intCast]
    rfl
  · next h =>
    rw [mul_two_zpow_of_neg m h, Rat.floor_natCast_div_natCast]
    rfl

theorem ceil_natCast_div (m : ℕ) {d : ℕ} (hd : 0 < d) :
    ⌈(m : ℚ) / d⌉ = ((m + (d - 1)) / d : ℕ) := by
  have hsplit := Nat.div_add_mod (m + (d - 1)) d
  have hmod := Nat.mod_lt (m + (d - 1)) hd
  have hpos : (0 : ℚ) < d := by exact_mod_cast hd
  generalize (m + (d - 1)) / d = a at hsplit ⊢
  -- The quotient of `m + (d - 1)` is the only integer in its range.
  have hlow : (d : ℚ) * a < m + d := by exact_mod_cast (by omega : d * a < m + d)
  have hhigh : (m : ℚ) ≤ d * a := by exact_mod_cast (by omega : m ≤ d * a)
  rw [Int.ceil_eq_iff, lt_div_iff₀ hpos, div_le_iff₀ hpos]
  push_cast
  constructor <;> linarith

theorem ceilNat_eq (m : Nat) (e : Int) : (ceilNat m e : ℤ) = ⌈(m : ℚ) * 2 ^ e⌉ := by
  unfold ceilNat
  split
  · next h =>
    rw [mul_two_zpow_of_nonneg m h, Int.ceil_intCast]
    rfl
  · next h =>
    rw [mul_two_zpow_of_neg m h, ceil_natCast_div m (Nat.two_pow_pos _)]
    rfl

/-- The parts that an unpacked number has. -/
def partsOf : UnpackedFloat → Parts
  | .notANumber => .nan
  | .infinity s => .infinite (s == .negative)
  | .zero s => .finite (s == .negative) 0 (-1074)
  | .finite s m e _ => .finite (s == .negative) m e

theorem negative_ofBitVec (b : BitVec 64) :
    (Sign.ofBitVec (@unpackSign Format.binary64 b) == .negative) = decide (signBit ≤ b.toNat) := by
  rw [ofBitVec_unpackSign]
  split
  · next h =>
    rw [decide_eq_false (Nat.not_le.mpr h)]
    rfl
  · next h =>
    rw [decide_eq_true (Nat.not_lt.mp h)]
    rfl

/-- **The parts of a number are those of its unpacked form.** -/
theorem parts_eq (x : Float) : parts x = partsOf x.toModel.unpack := by
  have hmantissa := unpackMantissa_toNat x.toModel.toBits.toBitVec
  have hexponent := unpackExponent_toNat x.toModel.toBits.toBitVec
  have hs := negative_ofBitVec x.toModel.toBits.toBitVec
  have hbits : x.toBits.toNat = x.toModel.toBits.toBitVec.toNat := rfl
  show parts x = partsOf (UnpackedFloat.unpack Format.binary64 x.toModel.toBits.toBitVec)
  unfold parts UnpackedFloat.unpack
  dsimp only
  generalize x.toModel.toBits.toBitVec = b at hmantissa hexponent hs hbits ⊢
  rw [hbits, ← hs]
  have hones : @unpackExponent Format.binary64 b = -1#11 ↔ b.toNat / leadingBit % 2048 = 2047 := by
    rw [← BitVec.toNat_inj, hexponent]
    rfl
  have hzero : @unpackExponent Format.binary64 b = 0#11 ↔ b.toNat / leadingBit % 2048 = 0 := by
    rw [← BitVec.toNat_inj, hexponent]
    rfl
  have hnone : @unpackMantissa Format.binary64 b = 0#52 ↔ b.toNat % leadingBit = 0 := by
    rw [← BitVec.toNat_inj, hmantissa]
    rfl
  by_cases h : b.toNat / leadingBit % 2048 = 2047
  · rw [if_pos h, if_pos (hones.mpr h)]
    by_cases hm : b.toNat % leadingBit = 0
    · rw [if_pos hm, if_pos (hnone.mpr hm)]
      rfl
    · rw [if_neg hm, if_neg (hm ∘ hnone.mp)]
      rfl
  · rw [if_neg h, if_neg (h ∘ hones.mp)]
    by_cases he : b.toNat / leadingBit % 2048 = 0
    · rw [if_pos he, if_pos (hzero.mpr he)]
      by_cases hm : b.toNat % leadingBit = 0
      · rw [dif_pos (hnone.mpr hm), hm]
        rfl
      · rw [dif_neg (hm ∘ hnone.mp)]
        have hleast : ((@unpackExponent Format.binary64 b).toNat : Int) -
            ((Format.binary64.exponentBias : ℕ) +
              (Format.binary64.mantissaBitsWithoutImplicit : ℕ)) + 1 = -1074 := by
          rw [hzero.mpr he]
          rfl
        simp only [partsOf, hleast, hmantissa]
        rfl
    · rw [if_neg he, if_neg (he ∘ hzero.mp)]
      have hbiased : ((@unpackExponent Format.binary64 b).toNat : Int) -
          ((Format.binary64.exponentBias : ℕ) +
            (Format.binary64.mantissaBitsWithoutImplicit : ℕ)) =
              ((b.toNat / leadingBit % 2048 : ℕ) : Int) - 1075 := by
        rw [hexponent]
        rfl
      simp only [partsOf, hbiased, toNat_leading, hmantissa]
      rfl

theorem floor_applySign (s : Sign) (m : Nat) (e : Int) :
    (if s == .negative then -(ceilNat m e : ℤ) else floorNat m e) =
      ⌊applySign s (m * 2 ^ e)⌋ := by
  cases s with
  | positive => exact floorNat_eq m e
  | negative =>
    rw [ceilNat_eq, ← Int.floor_neg]
    rfl

/-- **The floor of a number is the floor of its value**, within 64 bits. -/
theorem floorInt_eq {x : Float} {q : ℚ} (h : HasValue x q) : floorInt x = saturated ⌊q⌋ := by
  unfold floorInt
  rw [parts_eq]
  unfold HasValue at h
  generalize x.toModel.unpack = u at h ⊢
  cases h with
  | zero s =>
    have hzero : (0 : ℚ) = applySign s ((0 : ℕ) * 2 ^ (-1074 : ℤ)) := by
      rw [Nat.cast_zero, zero_mul, applySign_zero]
    rw [hzero, ← floor_applySign]
    rfl
  | finite s m e hm hlt hlow hlead =>
    rw [← floor_applySign]
    rfl

end Dossier.Binary64
