import Dossier.Proofs.Binary64.Bounds
import Dossier.TokenEstimator

/-!
# Exact estimates

An estimate is the ceiling of a quotient, as far as 32 bits go (`toNat_tokensOf`). Rounding keeps
the order, so more characters are never estimated at less, whatever the ratio
(`toNat_estimateChars_mono`).

The standard ratio is a power of two, so the quotient is exact for every count that binary64 can
tell apart, and greater counts are beyond 32 bits anyway. So the estimate is a quarter of the count,
rounded up (**`standard_exact`**), and a text in two parts is estimated at no more than its parts
together (`estimate_append_le`).
-/

set_option autoImplicit false

namespace Dossier.TokenEstimator

open Binary64

theorem toNat_toUInt32_min (n : ℕ) : (min n ceiling).toUInt32.toNat = min n ceiling := by
  rw [Nat.toUInt32_eq, UInt32.toNat_ofNat_of_lt']
  exact Nat.lt_of_le_of_lt (Nat.min_le_right n ceiling) (by decide)

/-- **The estimate of a quotient is its ceiling**, within 32 bits. -/
theorem toNat_tokensOf {x : Float} {q : ℚ} (hx : HasValue x q) (hq : 0 ≤ q) :
    ((tokensOf x).toNat : ℤ) = min ⌈q⌉ ceiling := by
  unfold tokensOf
  rw [parts_eq]
  unfold HasValue at hx
  generalize x.toModel.unpack = u at hx ⊢
  cases hx with
  | zero s =>
    cases s with
    | positive =>
      show (((min (ceilNat 0 (-1074)) ceiling).toUInt32.toNat : ℕ) : ℤ) = _
      rw [toNat_toUInt32_min, Nat.cast_min, ceilNat_eq, Nat.cast_zero, zero_mul]
    | negative =>
      rw [Int.ceil_zero]
      rfl
  | finite s m e hm hlt hlow hlead =>
    cases s with
    | positive =>
      show (((min (ceilNat m e) ceiling).toUInt32.toNat : ℕ) : ℤ) = _
      rw [toNat_toUInt32_min, Nat.cast_min, ceilNat_eq]
      rfl
    | negative =>
      have hneg := neg_lt_zero.mpr (magnitude_pos hm e)
      exact absurd hq (not_le.mpr hneg)

/-! ## Any ratio -/

/-- What is too great for binary64 is estimated at the greatest number. -/
theorem toNat_tokensOf_of_isInfinity {x : Float} (hx : IsInfinity x) :
    (tokensOf x).toNat = ceiling := by
  unfold tokensOf
  rw [parts_eq, hx]
  rfl

/-- The estimate of a quotient is the ceiling of the nearest value, however great. -/
theorem toNat_tokensOf_div {x y : Float} {p q : ℚ} (hx : HasValue x p) (hy : HasValue y q)
    (hp : 0 ≤ p) (hq : 0 < q) : ((tokensOf (x / y)).toNat : ℤ) = min ⌈nearest (p / q)⌉ ceiling := by
  have hnonneg := nearest_nonneg (div_nonneg hp hq.le)
  rcases lt_or_ge (nearest (p / q)) (2 ^ (1024 : ℤ)) with hlt | hge
  · have hfinite : |nearest (p / q)| < 2 ^ (1024 : ℤ) := by rwa [abs_of_nonneg hnonneg]
    exact toNat_tokensOf (div_hasValue hx hy hq.ne' hfinite) hnonneg
  · -- The quotient is infinite, and its nearest value is beyond 32 bits as well.
    have hinfinite : IsInfinity (x / y) := (Denotes.div hx hy hq.ne').unpack_pack_of_ge hge
    have hgreat : ((ceiling : ℤ) : ℚ) ≤ 2 ^ (32 : ℤ) := by norm_num [ceiling]
    have hceil := (hgreat.trans (two_zpow_le (by decide))).trans (hge.trans (Int.le_ceil _))
    rw [toNat_tokensOf_of_isInfinity hinfinite, min_eq_right (by exact_mod_cast hceil)]

/-- A ratio has a value above zero. -/
theorem exists_charsPerToken_hasValue (e : TokenEstimator) :
    ∃ r : ℚ, 0 < r ∧ HasValue e.charsPerToken r := by
  have hpositive := e.isPositive
  have hnonneg : 0.0 ≤ e.charsPerToken := by
    rw [le_iff_compare, lt_iff_compare.mp hpositive]
    rfl
  rcases atLeast_zero hnonneg with hinfinite | ⟨r, -, hr⟩
  · have hnot : e.charsPerToken.isFinite = false := by
      show e.charsPerToken.toModel.unpack.isFinite = false
      rw [hinfinite]
      rfl
    exact absurd e.isFinite (by simp [hnot])
  · exact ⟨r, (lt_iff hasValue_zero hr).mp hpositive, hr⟩

/-- More characters are never estimated at less, whatever the ratio. -/
theorem toNat_estimateChars_mono (e : TokenEstimator) :
    Monotone fun n => (e.estimateChars n).toNat := by
  obtain ⟨r, hpos, hr⟩ := e.exists_charsPerToken_hasValue
  intro m n hle
  have hquotient : countValue m / r ≤ countValue n / r :=
    div_le_div_of_nonneg_right (countValue_mono hle) hpos.le
  have htokens (k : ℕ) := toNat_tokensOf_div (ofCount_hasValue k) hr (countValue_nonneg k) hpos
  have hmin := min_le_min_right (ceiling : ℤ) (Int.ceil_mono (nearest_mono hquotient))
  rw [← htokens m, ← htokens n] at hmin
  exact_mod_cast hmin

/-! ## The standard ratio -/

theorem standard_hasValue : HasValue standard.charsPerToken 4 := by
  have hunpack : standard.charsPerToken.toModel.unpack =
      .finite .positive (2 ^ 52) (-50) (by decide) := rfl
  have hvalue := hasValue_of_unpack hunpack
  norm_num at hvalue
  exact hvalue

/-- Up to 53 bits quarters of counts are exact. -/
theorem nearest_quarter {n : ℕ} (h : n < 2 ^ 53) : nearest (countValue n / 4) = n / 4 := by
  have hn : |(n : ℤ)| < 2 ^ 53 := by
    rw [Nat.abs_cast]
    exact_mod_cast h
  rw [countValue_of_lt h]
  exact nearest_of_representable ⟨n, -2, hn, by decide, by norm_num; ring⟩

/-- Quarters of greater counts are beyond 32 bits. -/
theorem ceiling_le_quarter {n : ℕ} (h : 2 ^ 53 ≤ n) :
    (ceiling : ℤ) ≤ ⌈nearest (countValue n / 4)⌉ := by
  have hrep (e : ℤ) (he : -1074 ≤ e) : Representable (2 ^ e) := representable_two_zpow he
  have hmin : 2 ^ 53 ≤ min n greatestCount := Nat.le_min.mpr ⟨h, by decide⟩
  have hcount : (2 : ℚ) ^ (53 : ℤ) ≤ countValue n :=
    le_nearest (by exact_mod_cast hmin) (hrep 53 (by decide))
  have hquarter : (2 : ℚ) ^ (51 : ℤ) ≤ nearest (countValue n / 4) := by
    refine le_nearest ?_ (hrep 51 (by decide))
    norm_num at hcount ⊢
    linarith
  have hceil := hquarter.trans (Int.le_ceil _)
  have hgreat : ((ceiling : ℤ) : ℚ) ≤ 2 ^ (51 : ℤ) := by norm_num [ceiling]
  exact_mod_cast hgreat.trans hceil

theorem ceil_quarter (n : ℕ) : ⌈(n : ℚ) / 4⌉ = ((n + 3) / 4 : ℕ) :=
  ceil_natCast_div n (by decide : 0 < 4)

/-- **The standard estimate is a quarter of the count, rounded up**, within 32 bits. -/
theorem toNat_estimateChars_standard (n : ℕ) :
    (standard.estimateChars n).toNat = min ((n + 3) / 4) ceiling := by
  have htokens := toNat_tokensOf_div (ofCount_hasValue n) standard_hasValue (countValue_nonneg n)
    four_pos
  rw [← estimateChars] at htokens
  rcases Nat.lt_or_ge n (2 ^ 53) with hsmall | hgreat
  · rw [nearest_quarter hsmall, ceil_quarter] at htokens
    exact_mod_cast htokens
  · rw [min_eq_right (ceiling_le_quarter hgreat)] at htokens
    have hquarter : ceiling ≤ (n + 3) / 4 := by
      unfold ceiling
      omega
    rw [min_eq_right hquarter]
    exact_mod_cast htokens

theorem toNat_estimateChars_add_le (m n : ℕ) : (standard.estimateChars (m + n)).toNat ≤
    (standard.estimateChars m).toNat + (standard.estimateChars n).toNat := by
  simp only [toNat_estimateChars_standard]
  omega

/-- A text in two parts is estimated at no more than its parts. -/
theorem estimate_append_le (s t : String) : (standard.estimate (s ++ t)).toNat ≤
    (standard.estimate s).toNat + (standard.estimate t).toNat := by
  unfold estimate
  rw [String.length_append]
  exact toNat_estimateChars_add_le _ _

theorem ofRatio_standard : ofRatio 4.0 = standard := by
  unfold ofRatio
  rw [dif_pos ⟨standard.isFinite, standard.isPositive⟩]
  rfl

/-- **The estimate by four characters for a token is exact integer rounding**, although the count is
rounded to binary64 and divided there. So it grows with the count, only an empty text has an
estimate of zero, and parts are never estimated at less than the whole. -/
theorem standard_exact :
    ofRatio 4.0 = standard ∧
    (∀ n : ℕ, (standard.estimateChars n).toNat = min (2 ^ 32 - 1) ⌈(n : ℚ) / 4⌉₊) ∧
    (Monotone fun n => (standard.estimateChars n).toNat) ∧
    (∀ n, standard.estimateChars n = 0 ↔ n = 0) ∧
    ∀ m n, (standard.estimateChars (m + n)).toNat ≤
      (standard.estimateChars m).toNat + (standard.estimateChars n).toNat := by
  refine ⟨ofRatio_standard, fun n => ?exact, toNat_estimateChars_mono standard, fun n => ?zero,
    toNat_estimateChars_add_le⟩
  case exact =>
    rw [toNat_estimateChars_standard, ← Int.ceil_toNat, ceil_quarter, min_comm]
    rfl
  case zero =>
    rw [← UInt32.toNat_inj, toNat_estimateChars_standard]
    show min ((n + 3) / 4) 4294967295 = 0 ↔ n = 0
    omega

end Dossier.TokenEstimator
