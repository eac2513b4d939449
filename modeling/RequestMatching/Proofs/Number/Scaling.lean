import RequestMatching.Json.Source
import RequestMatching.Proofs.Number.Rounding

/-!
# Digits that are scaled

Digits that are multiplied or divided by powers of ten stay a number: every power that is used is
finite and not zero, so no step ends with what is not a number.
-/

namespace RequestMatching

namespace Binary64

theorem ofUnits_ne_nan (negative : Bool) (num den : Nat) : ofUnits negative num den ≠ nan := by
  unfold ofUnits
  dsimp only
  split <;> exact Binary64.noConfusion

theorem ofFraction_ne_nan (negative : Bool) (num den : Nat) : ofFraction negative num den ≠ nan :=
  ofUnits_ne_nan negative (num * unitsPerOne) den

theorem ofInt_ne_nan (i : Int) : ofInt i ≠ nan :=
  ofFraction_ne_nan (i < 0) i.natAbs 1

theorem eq_self {x : Binary64} (hx : x ≠ nan) : eq x x = true := by
  cases x with
  | nan => exact absurd rfl hx
  | infinite s => exact beq_self_eq_true s
  | finite s u => exact beq_self_eq_true _

section
variable {x : Binary64} {u : Nat} (hx : x ≠ nan) (hu : u ≠ 0)
include hx hu

theorem mul_ne_nan : x.mul (finite false u) ≠ nan := by
  cases x with
  | nan => exact absurd rfl hx
  | infinite s => simp [mul, hu]
  | finite s v => exact ofUnits_ne_nan (xor s false) (v * u) unitsPerOne

theorem div_ne_nan : x.div (finite false u) ≠ nan := by
  cases x with
  | nan => exact absurd rfl hx
  | infinite s => exact Binary64.noConfusion
  | finite s v =>
    rw [div, if_neg hu]
    exact ofUnits_ne_nan _ _ _

end

/-! ## Rounding -/

section
variable {n : Nat} (hn : twoTo 52 ≤ n)
include hn

theorem twoTo_excess_le : twoTo ((n / 1).log2 + 1 - 53) * twoTo 52 ≤ n := by
  have hpos : n ≠ 0 := Nat.ne_of_gt (Nat.lt_of_lt_of_le (by decide) hn)
  have hlog : 52 ≤ n.log2 := (Nat.le_log2 hpos).mpr hn
  have hexcess : (n / 1).log2 + 1 - 53 + 52 = n.log2 := by
    rw [Nat.div_one]
    omega
  calc twoTo ((n / 1).log2 + 1 - 53) * twoTo 52 = twoTo ((n / 1).log2 + 1 - 53 + 52) :=
        (Nat.pow_add 2 _ 52).symm
    _ = twoTo n.log2 := by rw [hexcess]
    _ ≤ n := Nat.log2_self_le hpos

/-- A whole number of units is rounded up by less than one part in 2^52. -/
theorem roundUnits_le : roundUnits n 1 * twoTo 52 ≤ n * (twoTo 52 + 1) := by
  let d := twoTo ((n / 1).log2 + 1 - 53)
  have hd : d * twoTo 52 ≤ n := twoTo_excess_le hn
  calc roundUnits n 1 * twoTo 52 = roundDiv n (1 * d) * d * twoTo 52 := rfl
    _ ≤ (n / d + 1) * d * twoTo 52 := by
        rw [Nat.one_mul]
        exact Nat.mul_le_mul_right _ (Nat.mul_le_mul_right _ (roundDiv_le n d))
    _ = n / d * d * twoTo 52 + d * twoTo 52 := by rw [Nat.add_mul, Nat.one_mul, Nat.add_mul]
    _ ≤ n * twoTo 52 + n := Nat.add_le_add (Nat.mul_le_mul_right _ (Nat.div_mul_le_self n d)) hd
    _ = n * (twoTo 52 + 1) := (Nat.mul_succ n _).symm

theorem roundUnits_pos : roundUnits n 1 ≠ 0 := by
  let d := twoTo ((n / 1).log2 + 1 - 53)
  have hd : 0 < d := Nat.pow_pos (by decide)
  have hdn : d ≤ n := calc
    d ≤ d * twoTo 52 := Nat.le_mul_of_pos_right d (by decide)
    _ ≤ n := twoTo_excess_le hn
  have hround : 0 < roundDiv n d := Nat.lt_of_lt_of_le (Nat.div_pos hdn hd) (le_roundDiv n d)
  have hunits : roundUnits n 1 = roundDiv n (1 * d) * d := rfl
  rw [hunits, Nat.one_mul]
  exact Nat.mul_ne_zero (Nat.ne_of_gt hround) (Nat.ne_of_gt hd)

end

theorem ofDecimal_power {k : Nat} (hk : k ≤ Source.greatestPower) :
    ∃ u, u ≠ 0 ∧ ofDecimal false 1 k = finite false u := by
  let n := 1 * tenTo k * unitsPerOne
  have hlow : twoTo 52 ≤ n := calc
    twoTo 52 ≤ unitsPerOne := by decide +kernel
    _ ≤ n := Nat.le_mul_of_pos_left _ (Nat.mul_pos Nat.one_pos (Nat.pow_pos (by decide)))
  have hhigh : n ≤ tenTo Source.greatestPower * unitsPerOne := by
    refine Nat.mul_le_mul_right _ ?_
    rw [Nat.one_mul]
    exact tenTo_le_tenTo hk
  have hlimit : tenTo Source.greatestPower * unitsPerOne * (twoTo 52 + 1) < twoTo 2098 * twoTo 52 := by
    decide +kernel
  have hu : roundUnits n 1 < twoTo 2098 := by
    refine Nat.lt_of_mul_lt_mul_right (a := twoTo 52) ?_
    calc roundUnits n 1 * twoTo 52 ≤ n * (twoTo 52 + 1) := roundUnits_le hlow
      _ ≤ tenTo Source.greatestPower * unitsPerOne * (twoTo 52 + 1) := Nat.mul_le_mul_right _ hhigh
      _ < twoTo 2098 * twoTo 52 := hlimit
  refine ⟨roundUnits n 1, roundUnits_pos hlow, ?_⟩
  have hexponent : ¬ (k : Int) > 400 := by
    have : Source.greatestPower = 308 := rfl
    omega
  rw [ofDecimal, if_neg Nat.one_ne_zero, if_neg hexponent, if_pos (Int.natCast_nonneg k), ofFraction,
    ofUnits]
  exact if_pos hu

end Binary64

namespace Source

theorem scale_go_ne_nan : ∀ (steps : Nat) {x y : Binary64} {e : Int}, x ≠ .nan →
    scale.go steps x e = .ok y → y ≠ .nan
  | 0, x, y, e, hx, h => by
    cases h
    exact hx
  | steps + 1, x, y, e, hx, h => by
    unfold scale.go at h
    split at h
    · rename_i hpower
      obtain ⟨u, hu, hpower⟩ := Binary64.ofDecimal_power hpower
      rw [hpower] at h
      split at h
      · dsimp only at h
        split at h
        · cases h
        · cases h
          exact Binary64.mul_ne_nan hx hu
      · cases h
        exact Binary64.div_ne_nan hx hu
    · split at h
      · cases h
        exact hx
      · split at h
        · cases h
        · obtain ⟨u, hu, hpower⟩ := Binary64.ofDecimal_power (Nat.le_refl greatestPower)
          refine scale_go_ne_nan steps ?_ h
          rw [hpower]
          exact Binary64.div_ne_nan hx hu

theorem scale_ne_nan {negative : Bool} {digits : Nat} {e : Int} {x : Binary64}
    (h : scale negative digits e = .ok x) : x ≠ .nan :=
  scale_go_ne_nan 40 (Binary64.ofFraction_ne_nan negative digits 1) h

end Source
end RequestMatching
