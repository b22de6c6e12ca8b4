import Dossier.Proofs.Binary64.Arithmetic

/-!
# Bounds on sums and products

How great a sum of products can get is read off whole bounds on its parts (`Within`): whole numbers
are numbers of the format, so rounding does not leave them behind.
-/

set_option autoImplicit false

namespace Dossier.Binary64

/-! ## Counts -/

/-- Up to 53 bits counts are exact. -/
theorem countValue_of_lt {n : ℕ} (h : n < 2 ^ 53) : countValue n = n := by
  have hmin : min n greatestCount = n := Nat.min_eq_left (h.le.trans (by decide))
  have hn : |(n : ℤ)| < 2 ^ 53 := by
    rw [Nat.abs_cast]
    exact_mod_cast h
  rw [countValue, hmin]
  exact_mod_cast nearest_of_representable (representable_intCast hn)

theorem representable_natCast {n : ℕ} (h : n < 2 ^ 53) : Representable n :=
  countValue_of_lt h ▸ (ofCount_hasValue n).representable

/-! ## Numbers within a whole bound -/

/-- The number has a value from zero to the bound. -/
def Within (x : Float) (n : ℕ) : Prop := ∃ q, HasValue x q ∧ 0 ≤ q ∧ q ≤ n

theorem within_ofCount {n : ℕ} (h : n < 2 ^ 53) : Within (ofCount n) n :=
  ⟨_, ofCount_hasValue n, countValue_nonneg n, (countValue_of_lt h).le⟩

section Operations

variable {x y : Float} {m n : ℕ}

/-- A number is within a bound when its comparisons say so. -/
theorem within_of_le (hn : n < 2 ^ 53) (h0 : 0.0 ≤ x) (h1 : x ≤ ofCount n) : Within x n := by
  rcases atLeast_zero h0 with hinfinite | ⟨q, hq, hx⟩
  · exact absurd h1 (hinfinite.not_le (ofCount_hasValue n))
  · have hle := (le_iff hx (ofCount_hasValue n)).mp h1
    rw [countValue_of_lt hn] at hle
    exact ⟨q, hx, hq, hle⟩

theorem atLeast_of_le (hn : n < 2 ^ 53) (h0 : 0.0 ≤ x) (h1 : ofCount n ≤ x) : AtLeast n x := by
  refine (atLeast_zero h0).imp_right fun ⟨q, hq, hx⟩ => ⟨q, ?_, hx⟩
  have hle := (le_iff (ofCount_hasValue n) hx).mp h1
  rwa [countValue_of_lt hn] at hle

theorem Within.mono (hx : Within x m) (h : m ≤ n) : Within x n := by
  obtain ⟨q, hq, h0, h1⟩ := hx
  exact ⟨q, hq, h0, h1.trans (Nat.cast_le.mpr h)⟩

/-- What is not beyond a whole bound stays there when it is rounded. -/
theorem nearest_within {q : ℚ} (hn : n < 2 ^ 53) (h0 : 0 ≤ q) (h1 : q ≤ n) :
    |nearest q| < 2 ^ (1024 : ℤ) ∧ 0 ≤ nearest q ∧ nearest q ≤ n := by
  have hn64 : (n : ℚ) ≤ 2 ^ (64 : ℤ) := by exact_mod_cast hn.le.trans (by decide)
  have habs : |q| ≤ 2 ^ (64 : ℤ) := by
    rw [abs_of_nonneg h0]
    exact h1.trans hn64
  exact ⟨abs_nearest_lt habs, nearest_nonneg h0, nearest_le h1 (representable_natCast hn)⟩

theorem Within.add (hx : Within x m) (hy : Within y n) (h : m + n < 2 ^ 53) :
    Within (x + y) (m + n) := by
  obtain ⟨p, hp, hp0, hp1⟩ := hx
  obtain ⟨q, hq, hq0, hq1⟩ := hy
  obtain ⟨hfinite, h0, h1⟩ := nearest_within (q := p + q) h (add_nonneg hp0 hq0)
    (by push_cast; exact add_le_add hp1 hq1)
  exact ⟨_, add_hasValue hp hq hfinite, h0, h1⟩

theorem Within.mul (hx : Within x m) (hy : Within y n) (h : m * n < 2 ^ 53) :
    Within (x * y) (m * n) := by
  obtain ⟨p, hp, hp0, hp1⟩ := hx
  obtain ⟨q, hq, hq0, hq1⟩ := hy
  obtain ⟨hfinite, h0, h1⟩ := nearest_within (q := p * q) h (mul_nonneg hp0 hq0)
    (by push_cast; exact mul_le_mul hp1 hq1 hq0 (Nat.cast_nonneg m))
  exact ⟨_, mul_hasValue hp hq hfinite, h0, h1⟩

theorem InUnit.within (hx : InUnit x) : Within x 1 := by
  obtain ⟨q, hq, h0, h1⟩ := hx
  exact ⟨q, hq, h0, by exact_mod_cast h1⟩

/-- A number within a bound is less than one that is above it. -/
theorem Within.lt {q : ℚ} (hx : Within x n) (hy : AtLeast q y) (h : n < q) : x < y := by
  obtain ⟨p, hp, -, hp1⟩ := hx
  rcases hy with hinfinite | ⟨r, hr, hy⟩
  · exact hinfinite.lt hp
  · exact (lt_iff hp hy).mpr (hp1.trans_lt (h.trans_le hr))

theorem Within.atLeast (hx : Within x n) : AtLeast 0 x := by
  obtain ⟨q, hq, h0, -⟩ := hx
  exact .inr ⟨q, h0, hq⟩

/-- A number times a count is not negative, however great the count. -/
theorem Within.mul_ofCount (hx : Within x n) (count : ℕ) : AtLeast 0 (x * ofCount count) := by
  obtain ⟨q, hq, h0, -⟩ := hx
  exact atLeast_mul hq (ofCount_hasValue count) (mul_nonneg h0 (countValue_nonneg count))

end Operations

end Dossier.Binary64
