import Mathlib

/-!
# Sums that are not negative

Adding zero to a number gives the number again, unless it is `-0.0`. And `-0.0` does not come out of
a sum when one addend is not below zero and the other is neither below zero nor `-0.0`: nothing in
the sum has a negative sign, whatever is rounded.
-/

set_option autoImplicit false

namespace Dossier.Binary64

open Float.Model Float.Model.UnpackedFloat

/-- The number has no negative sign; what is not a number has none. -/
inductive Unsigned : UnpackedFloat → Prop where
  | nan : Unsigned .notANumber
  | infinity : Unsigned (.infinity .positive)
  | zero : Unsigned (.zero .positive)
  | finite (m : Nat) (e : Int) (hm : 0 < m) : Unsigned (.finite .positive m e hm)

theorem unsigned_round (m : Nat) (e : Int) : Unsigned (round Format.binary64 .positive m e) := by
  unfold UnpackedFloat.round roundWithAccuracy
  dsimp only
  split
  · exact .zero
  · exact .finite _ _ _

theorem unsigned_normalize {m : Int} (hm : 0 ≤ m) (e : Int) :
    Unsigned (UnpackedFloat.normalize Format.binary64 m e .positive) := by
  unfold UnpackedFloat.normalize
  split
  · next h => exact absurd (Int.compare_eq_lt.mp h) (Int.not_lt.mpr hm)
  · exact .zero
  · exact unsigned_round _ _

theorem unpackSign_pack {u : UnpackedFloat} (hu : Unsigned u) :
    unpackSign (UnpackedFloat.pack Format.binary64 u) = 0#1 := by
  cases hu with
  | nan => rfl
  | infinity => rfl
  | zero => rfl
  | finite m e hm =>
    unfold UnpackedFloat.pack
    dsimp only
    split
    · exact unpackSign_packComponents _ _ _
    · split
      · exact unpackSign_packComponents _ _ _
      · exact unpackSign_packComponents _ _ _

theorem unsigned_add {u v : UnpackedFloat} (hu : Unsigned u)
    (hv : Unsigned v ∨ v = .zero .negative) :
    Unsigned (UnpackedFloat.add Format.binary64 u v) := by
  rcases hv with hv | rfl
  · cases hu with
    | nan => exact .nan
    | infinity => cases hv <;> constructor
    | zero => cases hv <;> constructor
    | finite m e hm =>
      cases hv with
      | nan => exact .nan
      | infinity => exact .infinity
      | zero => exact .finite m e hm
      | finite n f hn =>
        exact unsigned_normalize (Int.add_nonneg (Int.natCast_nonneg _) (Int.natCast_nonneg _)) _
  · cases hu <;> constructor

theorem unpack_zero : (0.0 : Float).toModel.unpack = .zero .positive := rfl

theorem unpack_negZero : (-0.0 : Float).toModel.unpack = .zero .negative := rfl

theorem eq_of_unpack {x y : Float} (h : x.toModel.unpack = y.toModel.unpack) : x = y := by
  rw [← Float.toBits_inj, ← UInt64.toBitVec_inj]
  exact (unpack_inj_of_valid x.toModel.valid y.toModel.valid).mp h

theorem le_iff_compare {x y : Float} :
    x ≤ y ↔ (x.toModel.unpack.compare y.toModel.unpack).any (·.isLE) = true := by
  show decide ((x.toModel.unpack.compare y.toModel.unpack).any (·.isLE) = true) = true ↔ _
  rw [decide_eq_true_eq]

theorem unsigned_of_nonneg {x : Float} (h : 0.0 ≤ x) :
    Unsigned x.toModel.unpack ∨ x.toModel.unpack = .zero .negative := by
  rw [le_iff_compare, unpack_zero] at h
  cases hx : x.toModel.unpack with
  | notANumber => exact .inl .nan
  | infinity s =>
    cases s with
    | positive => exact .inl .infinity
    | negative => rw [hx] at h; exact absurd h (by decide)
  | zero s =>
    cases s with
    | positive => exact .inl .zero
    | negative => exact .inr rfl
  | finite s m e hm =>
    cases s with
    | positive => exact .inl (.finite m e hm)
    | negative => rw [hx] at h; exact absurd h (by simp [UnpackedFloat.compare])

/-- **A sum of numbers that are not below zero is not `-0.0`**, unless both of them are. -/
theorem add_ne_negZero {x y : Float} (hx : 0.0 ≤ x) (hne : x ≠ -0.0) (hy : 0.0 ≤ y) :
    x + y ≠ -0.0 := by
  have hx : Unsigned x.toModel.unpack := by
    rcases unsigned_of_nonneg hx with hx | hx
    · exact hx
    · exact absurd (eq_of_unpack (hx.trans unpack_negZero.symm)) hne
  intro h
  -- The sum has no negative sign, but `-0.0` has one.
  have hsign : unpackSign (UnpackedFloat.pack Format.binary64
      (UnpackedFloat.add Format.binary64 x.toModel.unpack y.toModel.unpack)) = 0#1 :=
    unpackSign_pack (unsigned_add hx (unsigned_of_nonneg hy))
  have hbits : (x + y).toModel.toBits.toBitVec = UnpackedFloat.pack Format.binary64
      (UnpackedFloat.add Format.binary64 x.toModel.unpack y.toModel.unpack) := rfl
  rw [← hbits, h] at hsign
  exact absurd hsign (by decide)

theorem add_zero_positive {u : UnpackedFloat} (hu : u ≠ .zero .negative) :
    UnpackedFloat.add Format.binary64 u (.zero .positive) = u := by
  cases u with
  | notANumber => rfl
  | infinity s => rfl
  | finite s m e hm => rfl
  | zero s =>
    cases s with
    | positive => rfl
    | negative => exact absurd rfl hu

/-- **Adding zero changes nothing**, unless it is added to `-0.0`. -/
theorem add_posZero {x : Float} (hx : x ≠ -0.0) : x + 0.0 = x := by
  have hsum : (x + 0.0).toBits.toBitVec = UnpackedFloat.pack Format.binary64
      (UnpackedFloat.add Format.binary64 x.toModel.unpack (.zero .positive)) := rfl
  rw [← Float.toBits_inj, ← UInt64.toBitVec_inj, hsum,
    add_zero_positive fun h => hx (eq_of_unpack (h.trans unpack_negZero.symm))]
  exact pack_unpack_of_valid x.toModel.valid

end Dossier.Binary64
