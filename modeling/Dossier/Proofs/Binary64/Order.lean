import Dossier.Binary64.Order
import Mathlib

/-!
# The order of numbers and the line of their bits

`Binary64.rank` puts all numbers into one line by their bits alone. Where two numbers are compared
as numbers the line agrees: the lesser one has the lesser rank (`rank_lt_of_lt`). The converse fails
only for the two zeros, which are equal and have two ranks, and for what is not a number.
-/

set_option autoImplicit false

namespace Dossier.Binary64

open Float.Model Float.Model.UnpackedFloat

/-- The place in the line that a magnitude has among the numbers of a sign. -/
def along : Sign → Int → Int
  | .positive, k => k
  | .negative, k => -1 - k

/-- How the place of a number in the line goes with its value. -/
inductive Shape : Int → UnpackedFloat → Prop where
  | nan (place : Int) : Shape place .notANumber
  | infinity (s : Sign) : Shape (along s (2047 * 2 ^ 52)) (.infinity s)
  | zero (s : Sign) : Shape (along s 0) (.zero s)
  | finite (s : Sign) (m : Nat) (e : Int) (hm : 0 < m) (hlt : m < 2 ^ 53) (hlow : -1074 ≤ e)
      (hhigh : e ≤ 971) (hlead : 2 ^ 52 ≤ m ∨ e = -1074) :
      Shape (along s ((e + 1074) * 2 ^ 52 + m)) (.finite s m e hm)

/-- A finite number at the place that its mantissa and exponent give. -/
theorem Shape.of_eq {place : Int} {s : Sign} {m : Nat} {e : Int} (hm : 0 < m) (hlt : m < 2 ^ 53)
    (hlow : -1074 ≤ e) (hhigh : e ≤ 971) (hlead : 2 ^ 52 ≤ m ∨ e = -1074)
    (hplace : place = along s ((e + 1074) * 2 ^ 52 + m)) : Shape place (.finite s m e hm) := by
  rw [hplace]
  exact .finite s m e hm hlt hlow hhigh hlead

section Fields

variable (b : BitVec 64)

theorem unpackMantissa_toNat :
    (@unpackMantissa Format.binary64 b).toNat = b.toNat % 2 ^ 52 := by
  simp [unpackMantissa, BitVec.extractLsb_toNat]

theorem unpackExponent_toNat :
    (@unpackExponent Format.binary64 b).toNat = b.toNat / 2 ^ 52 % 2048 := by
  simp [unpackExponent, BitVec.extractLsb_toNat, Nat.shiftRight_eq_div_pow]

theorem unpackSign_toNat :
    (@unpackSign Format.binary64 b).toNat = b.toNat / 2 ^ 63 := by
  have hlt := b.isLt
  simp only [unpackSign, BitVec.toNat_cast, BitVec.extractLsb_toNat, Nat.shiftRight_eq_div_pow]
  omega

/-- The first bit is the sign. -/
theorem ofBitVec_unpackSign : Sign.ofBitVec (@unpackSign Format.binary64 b) =
    if b.toNat < signBit then .positive else .negative := by
  have hlt := b.isLt
  have hsign := unpackSign_toNat b
  unfold Sign.ofBitVec signBit
  by_cases h : b.toNat < 9223372036854775808
  · have hzero : @unpackSign Format.binary64 b = 0#1 := by
      apply BitVec.eq_of_toNat_eq
      rw [hsign]
      simp only [BitVec.toNat_ofNat]
      omega
    rw [if_pos hzero, if_pos h]
  · have hone : @unpackSign Format.binary64 b ≠ 0#1 := by
      intro hzero
      rw [hzero] at hsign
      simp only [BitVec.toNat_ofNat] at hsign
      omega
    rw [if_neg hone, if_neg h]

/-- The implicit leading bit stands in front of a mantissa. -/
theorem toNat_leading (f : BitVec 52) : (1#1 ++ f).toNat = 2 ^ 52 + f.toNat := by
  rw [BitVec.toNat_append, Nat.shiftLeft_eq, Nat.mul_comm, ← Nat.two_pow_add_eq_or_of_lt f.isLt]
  rfl

/-- The place of a number whose bits without the sign are `k`. -/
theorem along_ofBitVec {k : Nat} (hk : k = b.toNat % 2 ^ 63) :
    along (Sign.ofBitVec (@unpackSign Format.binary64 b)) k =
      if b.toNat < signBit then (b.toNat : Int) else (signBit : Int) - 1 - b.toNat := by
  have hlt := b.isLt
  rw [ofBitVec_unpackSign]
  unfold signBit
  split
  · simp only [along]
    omega
  · simp only [along]
    omega

end Fields

theorem shape_of_bits (b : BitVec 64) {place : Int}
    (hplace : ∀ k : Nat, k = b.toNat % 2 ^ 63 →
      place = along (Sign.ofBitVec (@unpackSign Format.binary64 b)) k) :
    Shape place (UnpackedFloat.unpack Format.binary64 b) := by
  have hm := unpackMantissa_toNat b
  have he := unpackExponent_toNat b
  have hlt := b.isLt
  unfold UnpackedFloat.unpack
  dsimp only
  split
  · next hones =>
    rw [hones] at he
    have hones : ((-1#11 : BitVec 11)).toNat = 2047 := by decide
    split
    · next hzero =>
      rw [hzero] at hm
      have hzero : (0#52 : BitVec 52).toNat = 0 := rfl
      rw [hplace (2047 * 2 ^ 52) (by omega)]
      exact .infinity _
    · exact .nan _
  · next hones =>
    have hexp : (@unpackExponent Format.binary64 b).toNat ≠ 2047 := fun h =>
      hones (BitVec.eq_of_toNat_eq (h.trans (by decide)))
    have hbias : (Format.binary64.exponentBias : Int) + Format.binary64.mantissaBitsWithoutImplicit
        = 1075 := rfl
    rw [hbias]
    split
    · next hzero =>
      have hzero : (@unpackExponent Format.binary64 b).toNat = 0 := by rw [hzero]; rfl
      split
      · next hnone =>
        have hnone : (@unpackMantissa Format.binary64 b).toNat = 0 := by rw [hnone]; rfl
        rw [hplace 0 (by omega)]
        exact .zero _
      · -- Without the implicit bit, at the least exponent.
        refine Shape.of_eq _ (by omega) (by omega) (by omega) (.inr (by omega)) ?_
        rw [hplace (@unpackMantissa Format.binary64 b).toNat (by omega), hzero]
        congr 1
        omega
    · next hsome =>
      have hsome : (@unpackExponent Format.binary64 b).toNat ≠ 0 := fun h =>
        hsome (BitVec.eq_of_toNat_eq h)
      have hlead := toNat_leading (@unpackMantissa Format.binary64 b)
      refine Shape.of_eq _ (by omega) (by omega) (by omega) (.inl (by omega)) ?_
      rw [hplace ((@unpackExponent Format.binary64 b).toNat * 2 ^ 52
        + (@unpackMantissa Format.binary64 b).toNat) (by omega), hlead]
      congr 1
      omega

/-- Every number stands in the line where its value says. -/
theorem shape_rank (x : Float) : Shape (rank x) x.toModel.unpack :=
  shape_of_bits x.toModel.toBits.toBitVec fun _ hk => (along_ofBitVec _ hk).symm

theorem lt_iff_compare {x y : Float} :
    x < y ↔ x.toModel.unpack.compare y.toModel.unpack = some .lt := by
  show decide ((x.toModel.unpack.compare y.toModel.unpack == some .lt) = true) = true ↔ _
  rw [decide_eq_true_eq, beq_iff_eq]

theorem compare_sign_eq_lt {s t : Sign} (h : compare s t = .lt) :
    s = .negative ∧ t = .positive := by
  cases s <;> cases t <;> first | exact ⟨rfl, rfl⟩ | exact absurd h (by decide)

/-- Of two finite numbers of one sign, the exponent decides, and then the mantissa. -/
theorem magnitude_lt {m n : Nat} {e f : Int} (hm : m < 2 ^ 53) (hn : 2 ^ 52 ≤ n ∨ f = -1074)
    (he : -1074 ≤ e) (h : e < f ∨ e = f ∧ m < n) :
    (e + 1074) * 2 ^ 52 + m < (f + 1074) * 2 ^ 52 + n := by
  omega

theorem Shape.lt_of_compare {p q : Int} {u v : UnpackedFloat} (hp : Shape p u) (hq : Shape q v)
    (h : u.compare v = some .lt) : p < q := by
  cases hp with
  | nan => simp [UnpackedFloat.compare] at h
  | infinity s =>
    cases hq with
    | nan => cases s <;> simp [UnpackedFloat.compare] at h
    | infinity t =>
      obtain ⟨rfl, rfl⟩ := compare_sign_eq_lt (Option.some.inj h)
      decide
    | zero t =>
      cases s with
      | positive => simp [UnpackedFloat.compare] at h
      | negative => cases t <;> decide
    | finite t n f hn hnlt hflow hfhigh hflead =>
      cases s with
      | positive => simp [UnpackedFloat.compare] at h
      | negative => cases t <;> simp only [along] <;> omega
  | zero s =>
    cases hq with
    | nan => simp [UnpackedFloat.compare] at h
    | infinity t =>
      cases t with
      | positive => cases s <;> decide
      | negative => simp [UnpackedFloat.compare] at h
    | zero t => simp [UnpackedFloat.compare] at h
    | finite t n f hn hnlt hflow hfhigh hflead =>
      cases t with
      | positive => cases s <;> simp only [along] <;> omega
      | negative => simp [UnpackedFloat.compare] at h
  | finite s m e hm hmlt helow hehigh helead =>
    cases hq with
    | nan => cases s <;> simp [UnpackedFloat.compare] at h
    | infinity t =>
      cases t with
      | positive => cases s <;> simp only [along] <;> omega
      | negative => cases s <;> simp [UnpackedFloat.compare] at h
    | zero t =>
      cases s with
      | positive => simp [UnpackedFloat.compare] at h
      | negative => cases t <;> simp only [along] <;> omega
    | finite t n f hn hnlt hflow hfhigh hflead =>
      cases s <;> cases t
      · -- Of two negative numbers the lesser one has the greater magnitude.
        have hswap : compare f e = .lt ∨ compare f e = .eq ∧ compare n m = .lt := by
          simpa [UnpackedFloat.compare, Ordering.swap_then, Ordering.then_eq_lt,
            Std.OrientedCmp.eq_swap.symm] using h
        have hlt := magnitude_lt hnlt helead hflow
          (by simpa [Int.compare_eq_lt, Nat.compare_eq_lt] using hswap)
        simp only [along]
        omega
      · simp only [along]
        omega
      · simp [UnpackedFloat.compare] at h
      · have hthen : compare e f = .lt ∨ compare e f = .eq ∧ compare m n = .lt := by
          simpa [UnpackedFloat.compare, Ordering.then_eq_lt] using h
        exact magnitude_lt hmlt hflead helow
          (by simpa [Int.compare_eq_lt, Nat.compare_eq_lt] using hthen)

/-- **A lesser number stands further down the line.** -/
theorem rank_lt_of_lt {x y : Float} (h : x < y) : rank x < rank y :=
  (shape_rank x).lt_of_compare (shape_rank y) (lt_iff_compare.mp h)

end Dossier.Binary64
