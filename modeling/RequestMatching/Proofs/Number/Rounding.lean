import Mathlib.Algebra.Order.Field.Basic
import Mathlib.Data.Nat.Cast.Order.Field
import Mathlib.Data.Rat.Cast.Order
import Mathlib.Tactic.Linarith
import RequestMatching.Number.Binary64

/-!
# Rounding to double precision

A fraction of units is rounded to the nearest count of units that 53 significant bits can hold, and only
its value counts for that.
-/

namespace RequestMatching

theorem twoTo_pos (n : Nat) : 0 < twoTo n :=
  Nat.pow_pos (by decide)

theorem tenTo_pos (n : Nat) : 0 < tenTo n :=
  Nat.pow_pos (by decide)

theorem twoTo_add (m n : Nat) : twoTo (m + n) = twoTo m * twoTo n :=
  Nat.pow_add 2 m n

theorem tenTo_add (m n : Nat) : tenTo (m + n) = tenTo m * tenTo n :=
  Nat.pow_add 10 m n

theorem twoTo_le_twoTo {m n : Nat} (h : m ≤ n) : twoTo m ≤ twoTo n :=
  Nat.pow_le_pow_right (by decide) h

theorem tenTo_le_tenTo {m n : Nat} (h : m ≤ n) : tenTo m ≤ tenTo n :=
  Nat.pow_le_pow_right (by decide) h

theorem le_of_twoTo_lt {m n : Nat} (h : twoTo m < twoTo n) : m < n :=
  Nat.lt_of_not_le fun hle => absurd (twoTo_le_twoTo hle) (Nat.not_le_of_lt h)

namespace Binary64

/-- The counts of units that 53 significant bits can hold, up to the one after the greatest double. -/
def IsCount (c : Nat) : Prop :=
  ∃ m k, m ≤ twoTo 53 ∧ k ≤ 2045 ∧ c = m * twoTo k

/-! ## To whole numbers -/

theorem roundDiv_le (num den : Nat) : roundDiv num den ≤ num / den + 1 := by
  unfold roundDiv
  dsimp only
  split <;> omega

theorem le_roundDiv (num den : Nat) : num / den ≤ roundDiv num den := by
  unfold roundDiv
  dsimp only
  split <;> omega

theorem roundDiv_bounds (num : Nat) {den : Nat} (hden : 0 < den) :
    2 * num ≤ 2 * (roundDiv num den * den) + den ∧ 2 * (roundDiv num den * den) ≤ 2 * num + den := by
  have hnum : num / den * den + num % den = num := Nat.div_add_mod' num den
  have hmod : num % den < den := Nat.mod_lt num hden
  unfold roundDiv
  dsimp only
  split
  · rename_i hup
    have hhalf : den ≤ 2 * (num % den) := by
      simp only [Bool.or_eq_true, decide_eq_true_eq, Bool.and_eq_true, beq_iff_eq] at hup
      omega
    rw [Nat.add_mul, Nat.one_mul]
    omega
  · rename_i hdown
    have hhalf : 2 * (num % den) ≤ den := by
      simp only [Bool.or_eq_true, decide_eq_true_eq, not_or] at hdown
      omega
    omega

theorem abs_sub_roundDiv_le (num : Nat) {den : Nat} (hden : 0 < den) :
    |(num / den : ℚ) - roundDiv num den| ≤ 1 / 2 := by
  have hpos : (0 : ℚ) < den := Nat.cast_pos.mpr hden
  have hnum : (num / den : ℚ) * den = num := div_mul_cancel₀ _ hpos.ne'
  obtain ⟨hlow, hhigh⟩ := roundDiv_bounds num hden
  have hlow : (2 * num : ℚ) ≤ 2 * (roundDiv num den * den) + den := by exact_mod_cast hlow
  have hhigh : (2 * (roundDiv num den * den) : ℚ) ≤ 2 * num + den := by exact_mod_cast hhigh
  rw [abs_le]
  constructor
  · refine le_of_mul_le_mul_right ?_ hpos
    linarith
  · refine le_of_mul_le_mul_right ?_ hpos
    linarith

theorem abs_sub_le_of_half {z : ℚ} {n : ℤ} (h : |z - n| ≤ 1 / 2) (c : ℤ) : |z - n| ≤ |z - c| := by
  rcases eq_or_ne c n with rfl | hne
  · exact le_refl _
  · have hone : (1 : ℚ) ≤ |(c : ℚ) - n| := by
      exact_mod_cast Int.one_le_abs (sub_ne_zero.mpr hne)
    have htriangle : |(c : ℚ) - n| ≤ |z - n| + |z - c| := by
      rw [abs_sub_comm z c, add_comm]
      exact abs_sub_le _ _ _
    linarith

theorem roundDiv_nearest (num : Nat) {den : Nat} (hden : 0 < den) (c : Nat) :
    |(num / den : ℚ) - roundDiv num den| ≤ |(num / den : ℚ) - c| :=
  abs_sub_le_of_half (n := roundDiv num den) (abs_sub_roundDiv_le num hden) c

theorem roundDiv_mul_left {k : Nat} (hk : 0 < k) (num den : Nat) :
    roundDiv (k * num) (k * den) = roundDiv num den := by
  have hgreater : 2 * (k * (num % den)) > k * den ↔ 2 * (num % den) > den := by
    rw [Nat.mul_left_comm]
    exact Nat.mul_lt_mul_left hk
  have hequal : 2 * (k * (num % den)) = k * den ↔ 2 * (num % den) = den := by
    rw [Nat.mul_left_comm]
    exact Nat.mul_right_inj hk.ne'
  simp only [roundDiv, Nat.mul_div_mul_left _ _ hk, Nat.mul_mod_mul_left, hgreater, beq_eq_decide,
    hequal]

/-! ## To 53 bits -/

/-- The power of two that the count nearest to a fraction is rounded to a multiple of. -/
def excess (num den : Nat) : Nat :=
  (num / den).log2 + 1 - 53

theorem roundUnits_eq (num den : Nat) : roundUnits num den =
    roundDiv num (den * twoTo (excess num den)) * twoTo (excess num den) :=
  rfl

theorem roundUnits_mul_left {k : Nat} (hk : 0 < k) (num den : Nat) :
    roundUnits (k * num) (k * den) = roundUnits num den := by
  have hexcess : excess (k * num) (k * den) = excess num den := by
    rw [excess, Nat.mul_div_mul_left _ _ hk, excess]
  rw [roundUnits_eq, roundUnits_eq, hexcess, Nat.mul_assoc, roundDiv_mul_left hk]

theorem roundUnits_congr {a b c d : Nat} (hb : 0 < b) (hd : 0 < d) (h : a * d = c * b) :
    roundUnits a b = roundUnits c d := by
  rw [← roundUnits_mul_left hd, ← roundUnits_mul_left hb c, Nat.mul_comm d, h, Nat.mul_comm c,
    Nat.mul_comm d]

theorem roundUnits_eq_zero {num den : Nat} (h : 2 * num < den) : roundUnits num den = 0 := by
  have hzero : num / den = 0 := Nat.div_eq_of_lt (by omega)
  have hmod : num % den = num := Nat.mod_eq_of_lt (by omega)
  have hround : roundDiv num den = 0 := by
    unfold roundDiv
    simp only [hzero, hmod]
    exact if_neg (by simp; omega)
  have hexcess : excess num den = 0 := by
    rw [excess, hzero]
    rfl
  have hone : twoTo 0 = 1 := rfl
  rw [roundUnits_eq, hexcess, hone, Nat.mul_one, Nat.mul_one, hround]

section
variable (num : Nat) {den : Nat}

theorem twoTo_le_of_excess (h : 0 < excess num den) : twoTo (52 + excess num den) ≤ num / den := by
  have hlog : 52 + excess num den = (num / den).log2 := by
    unfold excess at h ⊢
    omega
  have hpos : num / den ≠ 0 := fun hzero => by
    rw [hzero] at hlog
    exact absurd hlog (by simp)
  rw [hlog]
  exact Nat.log2_self_le hpos

theorem div_lt_twoTo : num / den < twoTo (53 + excess num den) :=
  calc num / den < 2 ^ ((num / den).log2 + 1) := Nat.lt_log2_self
    _ ≤ twoTo (53 + excess num den) := twoTo_le_twoTo (by unfold excess; omega)

theorem roundDiv_excess_le : roundDiv num (den * twoTo (excess num den)) ≤ twoTo 53 := by
  have hdiv : num / (den * twoTo (excess num den)) < twoTo 53 := by
    rw [← Nat.div_div_eq_div_mul, Nat.div_lt_iff_lt_mul (twoTo_pos _), ← twoTo_add]
    exact div_lt_twoTo num
  exact Nat.le_trans (roundDiv_le _ _) hdiv

variable (hden : 0 < den)
include hden

theorem abs_sub_roundUnits (c : Nat) :
    |(num / den : ℚ) - roundUnits num den| ≤ |(num / den : ℚ) - c * twoTo (excess num den)| := by
  generalize hD : twoTo (excess num den) = D
  have hDpos : 0 < D := hD ▸ twoTo_pos _
  have hDrat : (0 : ℚ) < D := Nat.cast_pos.mpr hDpos
  have hscale (n : Nat) :
      |(num / den : ℚ) - n * D| = |(num / (den * D : Nat) : ℚ) - n| * D := by
    rw [← abs_of_pos hDrat, ← abs_mul, abs_of_pos hDrat, sub_mul, Nat.cast_mul, ← div_div,
      div_mul_cancel₀ _ hDrat.ne']
  rw [roundUnits_eq, hD, Nat.cast_mul, hscale, hscale]
  exact mul_le_mul_of_nonneg_right (roundDiv_nearest num (Nat.mul_pos hden hDpos) c) hDrat.le

/-- No count is nearer to a fraction than the one it is rounded to. -/
theorem roundUnits_nearest {c : Nat} (hc : IsCount c) :
    |(num / den : ℚ) - roundUnits num den| ≤ |(num / den : ℚ) - c| := by
  obtain ⟨m, k, hm, -, rfl⟩ := hc
  rcases Nat.lt_or_ge k (excess num den) with hlt | hle
  · -- a finer count is below the coarse count 2 ^ 52, which is below the fraction
    have hcoarse : (twoTo 52 * twoTo (excess num den) : Nat) ≤ (num / den : ℚ) := by
      rw [← twoTo_add]
      exact le_trans (Nat.cast_le.mpr (twoTo_le_of_excess num (Nat.zero_lt_of_lt hlt)))
        Nat.cast_div_le
    have hfine : m * twoTo k ≤ twoTo 52 * twoTo (excess num den) :=
      calc m * twoTo k ≤ twoTo 53 * twoTo k := Nat.mul_le_mul_right _ hm
        _ = twoTo (53 + k) := (twoTo_add 53 k).symm
        _ ≤ twoTo (52 + excess num den) := twoTo_le_twoTo (by omega)
        _ = twoTo 52 * twoTo (excess num den) := twoTo_add 52 _
    have hfine : ((m * twoTo k : Nat) : ℚ) ≤ (twoTo 52 * twoTo (excess num den) : Nat) :=
      Nat.cast_le.mpr hfine
    have hround := abs_sub_roundUnits num hden (twoTo 52)
    rw [← Nat.cast_mul, abs_of_nonneg (sub_nonneg.mpr hcoarse)] at hround
    rw [abs_of_nonneg (sub_nonneg.mpr (hfine.trans hcoarse))]
    linarith
  · have hsplit : m * twoTo k = m * twoTo (k - excess num den) * twoTo (excess num den) := by
      rw [Nat.mul_assoc, ← twoTo_add, Nat.sub_add_cancel hle]
    rw [hsplit, Nat.cast_mul]
    exact abs_sub_roundUnits num hden _

end

end Binary64
end RequestMatching
