import Mathlib.Order.WithBot
import Mathlib.Tactic.Ring
import RequestMatching.Proofs.Number.Rounding

/-!
# The places of doubles

A number becomes the double nearest to it, where infinity stands at the place of the double that would
come after the greatest one. A greater number never becomes a smaller double.
-/

namespace RequestMatching

abbrev ExtendedRat := WithBot (WithTop ℚ)

namespace ExtendedRat

def ofRat (q : ℚ) : ExtendedRat :=
  WithBot.some (WithTop.some q)

theorem cases (x : ExtendedRat) : x = ⊥ ∨ (∃ q, x = ofRat q) ∨ x = ⊤ := by
  match x with
  | none => exact .inl rfl
  | some none => exact .inr (.inr rfl)
  | some (some q) => exact .inr (.inl ⟨q, rfl⟩)

theorem ofRat_le_ofRat {q r : ℚ} : ofRat q ≤ ofRat r ↔ q ≤ r :=
  WithBot.coe_le_coe.trans WithTop.coe_le_coe

end ExtendedRat

open ExtendedRat (ofRat)

namespace Binary64

/-- The places of doubles: whole numbers of 53 bits times powers of two. The place after the greatest
double is among them. -/
def IsDouble (d : ℚ) : Prop :=
  ∃ m e : ℤ, |m| ≤ 2 ^ 53 ∧ -1074 ≤ e ∧ e ≤ 971 ∧ d = m * 2 ^ e

/-- No double is nearer to a number; infinity stands at the place after the greatest double. -/
inductive IsNearest : ℚ → ExtendedRat → Prop
  | rational {d q : ℚ} (hd : IsDouble d) (h : ∀ d', IsDouble d' → |q - d| ≤ |q - d'|) :
      IsNearest d (ofRat q)
  | top : IsNearest (2 ^ 1024) ⊤
  | bot : IsNearest (-2 ^ 1024) ⊥

/-! ## To a double -/

def nearestUnits (num den : Nat) : Nat :=
  min (roundUnits num den) (twoTo 2098)

/-- Where a double stands, in units. -/
inductive StandsAt : Binary64 → ℤ → Prop
  | infinite (s : Bool) : StandsAt (infinite s) (signedUnits s (twoTo 2098))
  | finite (s : Bool) {u : Nat} (hu : u < twoTo 2098) : StandsAt (finite s u) (signedUnits s u)

theorem ofUnits_standsAt (s : Bool) (num den : Nat) :
    StandsAt (ofUnits s num den) (signedUnits s (nearestUnits num den)) := by
  unfold ofUnits nearestUnits
  dsimp only
  split
  · rename_i hu
    rw [Nat.min_eq_left hu.le]
    exact .finite s hu
  · rename_i hu
    rw [Nat.min_eq_right (Nat.le_of_not_lt hu)]
    exact .infinite s

section
variable {a b : Binary64} {i j : ℤ} (ha : StandsAt a i) (hb : StandsAt b j)
include ha hb

theorem lt_iff : a.lt b = true ↔ i < j := by
  have hpos : 0 < twoTo 2098 := twoTo_pos 2098
  cases ha with
  | infinite s =>
    cases hb with
    | infinite t =>
      generalize twoTo 2098 = limit at hpos
      cases s <;> cases t <;> simp [lt, signedUnits]
      omega
    | finite t hv =>
      generalize twoTo 2098 = limit at hpos hv
      cases s <;> cases t <;> simp [lt, signedUnits] <;> omega
  | finite s hu =>
    cases hb with
    | infinite t =>
      generalize twoTo 2098 = limit at hpos hu
      cases s <;> cases t <;> simp [lt, signedUnits] <;> omega
    | finite t hv => simp [lt]

theorem eq_iff : a.eq b = true ↔ i = j := by
  have hpos : 0 < twoTo 2098 := twoTo_pos 2098
  cases ha with
  | infinite s =>
    cases hb with
    | infinite t =>
      generalize twoTo 2098 = limit at hpos
      cases s <;> cases t <;> simp [eq, signedUnits] <;> omega
    | finite t hv =>
      generalize twoTo 2098 = limit at hpos hv
      cases s <;> cases t <;> simp [eq, signedUnits] <;> omega
  | finite s hu =>
    cases hb with
    | infinite t =>
      generalize twoTo 2098 = limit at hpos hu
      cases s <;> cases t <;> simp [eq, signedUnits] <;> omega
    | finite t hv => simp [eq]

theorem le_iff : a.le b = true ↔ i ≤ j := by
  rw [le, Bool.or_eq_true, lt_iff ha hb, eq_iff ha hb, le_iff_lt_or_eq]

end

section
variable (num : Nat) {den : Nat}

theorem isCount_nearestUnits : IsCount (nearestUnits num den) := by
  rcases Nat.lt_or_ge (roundUnits num den) (twoTo 2098) with hlt | hge
  · refine ⟨_, excess num den, roundDiv_excess_le num, ?_, Nat.min_eq_left hlt.le⟩
    rcases Nat.eq_zero_or_pos (excess num den) with hzero | hpos
    · omega
    · have hlow : twoTo 52 ≤ roundDiv num (den * twoTo (excess num den)) := by
        refine Nat.le_trans ?_ (le_roundDiv _ _)
        rw [← Nat.div_div_eq_div_mul, Nat.le_div_iff_mul_le (twoTo_pos _), ← twoTo_add]
        exact twoTo_le_of_excess num hpos
      have hhigh : twoTo (52 + excess num den) < twoTo 2098 := by
        rw [twoTo_add]
        exact Nat.lt_of_le_of_lt (Nat.mul_le_mul_right _ hlow) hlt
      have := le_of_twoTo_lt hhigh
      omega
  · exact ⟨twoTo 53, 2045, le_rfl, le_rfl, (Nat.min_eq_right hge).trans (twoTo_add 53 2045)⟩

theorem IsCount.le {c : Nat} (hc : IsCount c) : c ≤ twoTo 2098 := by
  obtain ⟨m, k, hm, hk, rfl⟩ := hc
  calc m * twoTo k ≤ twoTo 53 * twoTo 2045 := Nat.mul_le_mul hm (twoTo_le_twoTo hk)
    _ = twoTo 2098 := (twoTo_add 53 2045).symm

theorem nearestUnits_nearest (hden : 0 < den) {c : Nat} (hc : IsCount c) :
    |(num / den : ℚ) - nearestUnits num den| ≤ |(num / den : ℚ) - c| := by
  have hround := roundUnits_nearest num hden hc
  rcases Nat.lt_or_ge (roundUnits num den) (twoTo 2098) with hlt | hge
  · rwa [nearestUnits, Nat.min_eq_left hlt.le]
  rw [nearestUnits, Nat.min_eq_right hge]
  have hge : (twoTo 2098 : ℚ) ≤ roundUnits num den := Nat.cast_le.mpr hge
  have hc : (c : ℚ) ≤ twoTo 2098 := Nat.cast_le.mpr hc.le
  -- the limit lies between the fraction and what is nearest to it, or the fraction is beyond it
  rcases le_total (twoTo 2098 : ℚ) (num / den) with hover | hunder
  · rw [abs_of_nonneg (sub_nonneg.mpr hover), abs_of_nonneg (sub_nonneg.mpr (hc.trans hover))]
    linarith
  · rw [abs_of_nonpos (sub_nonpos.mpr (hunder.trans hge))] at hround
    rw [abs_of_nonpos (sub_nonpos.mpr hunder)]
    linarith

end

/-! ## To the nearest double -/

def signed (s : Bool) (q : ℚ) : ℚ :=
  if s then -q else q

def placeOfRat (q : ℚ) : ℤ :=
  signedUnits (q < 0) (nearestUnits (q.num.natAbs * unitsPerOne) q.den)

def place : ExtendedRat → ℤ
  | none => -twoTo 2098
  | some none => twoTo 2098
  | some (some q) => placeOfRat q

theorem abs_signed (s : Bool) (q : ℚ) : |signed s q| = |q| := by
  cases s
  · rfl
  · exact abs_neg q

theorem signed_abs (q : ℚ) : signed (decide (q < 0)) |q| = q := by
  by_cases hq : q < 0
  · simp [signed, hq, abs_of_neg]
  · simp [signed, hq, abs_of_nonneg (not_lt.mp hq)]

theorem signed_mul_sub (s : Bool) (x y z : ℚ) : signed s x * y - signed s z = signed s (x * y - z) := by
  cases s
  · rfl
  · simp only [signed, if_true]
    ring

theorem place_bot : place ⊥ = -twoTo 2098 :=
  rfl

theorem place_top : place ⊤ = twoTo 2098 :=
  rfl

theorem nearestUnits_zero (den : Nat) : nearestUnits 0 den = 0 := by
  have hzero : roundUnits 0 den = 0 := by simp [roundUnits, roundDiv]
  rw [nearestUnits, hzero, Nat.zero_min]

theorem natAbs_num_div_den (q : ℚ) : (q.num.natAbs / q.den : ℚ) = |q| := by
  conv_rhs => rw [← Rat.num_div_den q]
  rw [abs_div, Nat.abs_cast, Nat.cast_natAbs, Int.cast_abs]

theorem placeOfRat_signed (s : Bool) (num : Nat) {den : Nat} (hden : 0 < den) :
    placeOfRat (signed s (num / den)) = signedUnits s (nearestUnits (num * unitsPerOne) den) := by
  have hfraction : (0 : ℚ) ≤ num / den := div_nonneg (Nat.cast_nonneg _) (Nat.cast_nonneg _)
  have habs : |signed s (num / den : ℚ)| = num / den :=
    (abs_signed s _).trans (abs_of_nonneg hfraction)
  have hcross : (signed s (num / den : ℚ)).num.natAbs * den = num * (signed s (num / den : ℚ)).den := by
    rw [← natAbs_num_div_den, div_eq_div_iff (Nat.cast_ne_zero.mpr (Rat.den_nz _))
      (Nat.cast_ne_zero.mpr hden.ne')] at habs
    exact_mod_cast habs
  have hunits : nearestUnits ((signed s (num / den : ℚ)).num.natAbs * unitsPerOne)
      (signed s (num / den : ℚ)).den = nearestUnits (num * unitsPerOne) den := by
    rw [nearestUnits, nearestUnits, roundUnits_congr (Rat.den_pos _) hden]
    rw [Nat.mul_right_comm, hcross, Nat.mul_right_comm]
  rw [placeOfRat, hunits]
  rcases Nat.eq_zero_or_pos num with rfl | hnum
  · rw [Nat.zero_mul, nearestUnits_zero]
    cases s <;> simp [signedUnits]
  · have hpos : (0 : ℚ) < num / den := div_pos (Nat.cast_pos.mpr hnum) (Nat.cast_pos.mpr hden)
    cases s
    · rw [signed, if_neg Bool.false_ne_true, decide_eq_false hpos.not_gt]
    · rw [signed, if_pos rfl, decide_eq_true (neg_neg_of_pos hpos)]

theorem intCast_signedUnits (s : Bool) (u : Nat) : (signedUnits s u : ℚ) = signed s u := by
  cases s <;> simp [signedUnits, signed]

theorem cast_tenTo (n : Nat) : (tenTo n : ℚ) = 10 ^ n :=
  Nat.cast_pow 10 n

theorem cast_twoTo (n : Nat) : (twoTo n : ℚ) = 2 ^ n :=
  Nat.cast_pow 2 n

/-! ## Nearest doubles -/

theorem IsDouble.of_isCount {c : Nat} (hc : IsCount c) (s : Bool) :
    IsDouble (signed s c / unitsPerOne) := by
  obtain ⟨m, k, hm, hk, rfl⟩ := hc
  refine ⟨signedUnits s m, k - 1074, ?_, by omega, by omega, ?_⟩
  · have hm : (m : ℤ) ≤ 2 ^ 53 := by exact_mod_cast hm
    cases s <;> simpa [signedUnits] using hm
  · rw [intCast_signedUnits, zpow_sub₀ two_ne_zero, zpow_natCast, Nat.cast_mul, cast_twoTo,
      unitsPerOne, cast_twoTo]
    cases s
    · simp [signed, mul_div_assoc]
    · simp [signed, mul_div_assoc, neg_div]

theorem IsDouble.exists_count {d : ℚ} (hd : IsDouble d) : ∃ c, IsCount c ∧ |d| * unitsPerOne = c := by
  obtain ⟨m, e, hm, hlow, hhigh, rfl⟩ := hd
  obtain ⟨k, hk⟩ := Int.eq_ofNat_of_zero_le (a := e + 1074) (by omega)
  have hbits : m.natAbs ≤ twoTo 53 := Int.ofNat_le.mp ((Int.natCast_natAbs m).trans_le hm)
  refine ⟨m.natAbs * twoTo k, ⟨m.natAbs, k, hbits, by omega, rfl⟩, ?_⟩
  have hpower : (2 : ℚ) ^ e * unitsPerOne = 2 ^ k := by
    rw [unitsPerOne, cast_twoTo, ← zpow_natCast, ← zpow_natCast, ← zpow_add₀ two_ne_zero, ← hk]
    rfl
  rw [abs_mul, abs_of_pos (zpow_pos (two_pos (α := ℚ)) e), mul_assoc, hpower, Nat.cast_mul, cast_twoTo,
    Nat.cast_natAbs, Int.cast_abs]

theorem abs_sub_le_of_scaled {q d x y unit : ℚ} (hunit : 0 < unit) (hd : |d| * unit = y)
    (h : |(|q| * unit - x)| ≤ |(|q| * unit - y)|) :
    |q - signed (decide (q < 0)) x / unit| ≤ |q - d| := by
  have hscale (z : ℚ) : |q - z| * unit = |q * unit - z * unit| := by
    rw [← sub_mul, abs_mul, abs_of_pos hunit]
  apply le_of_mul_le_mul_right _ hunit
  calc |q - signed (decide (q < 0)) x / unit| * unit
      = |(|q| * unit - x)| := by
        rw [hscale, div_mul_cancel₀ _ hunit.ne', ← abs_signed (decide (q < 0)) (|q| * unit - x),
          ← signed_mul_sub, signed_abs]
    _ ≤ |(|q| * unit - y)| := h
    _ = |(|q| - |d|)| * unit := by rw [← hd, ← sub_mul, abs_mul, abs_of_pos hunit]
    _ ≤ |q - d| * unit := mul_le_mul_of_nonneg_right (abs_abs_sub_abs_le q d) hunit.le

theorem placeOfRat_isNearest (q : ℚ) : IsNearest (placeOfRat q / unitsPerOne) (ofRat q) := by
  rw [placeOfRat, intCast_signedUnits]
  apply IsNearest.rational (.of_isCount (isCount_nearestUnits _) _)
  intro d hd
  obtain ⟨c, hc, hcd⟩ := hd.exists_count
  have hnear := nearestUnits_nearest (q.num.natAbs * unitsPerOne) q.den_pos hc
  rw [Nat.cast_mul, mul_div_right_comm, natAbs_num_div_den] at hnear
  exact abs_sub_le_of_scaled (Nat.cast_pos.mpr (twoTo_pos 1074)) hcd hnear

theorem place_isNearest (x : ExtendedRat) : IsNearest (place x / unitsPerOne) x := by
  have hlimit : (twoTo 2098 : ℚ) / unitsPerOne = 2 ^ 1024 := by
    rw [unitsPerOne, div_eq_iff (Nat.cast_ne_zero.mpr (twoTo_pos 1074).ne'), cast_twoTo, cast_twoTo,
      ← pow_add]
  rcases x.cases with rfl | ⟨q, rfl⟩ | rfl
  · rw [place_bot, Int.cast_neg, Int.cast_natCast, neg_div, hlimit]
    exact .bot
  · exact placeOfRat_isNearest q
  · rw [place_top, Int.cast_natCast, hlimit]
    exact .top

/-! ## Order -/

theorem middle_le {d e q : ℚ} (h : |q - d| ≤ |q - e|) (hed : e < d) : d + e ≤ 2 * q := by
  have hd : d - q ≤ |q - d| := by
    rw [abs_sub_comm]
    exact le_abs_self _
  rcases abs_cases (q - e) with ⟨he, _⟩ | ⟨he, _⟩
  · linarith
  · linarith

theorem le_middle {d e r : ℚ} (h : |r - e| ≤ |r - d|) (hed : e < d) : 2 * r ≤ d + e := by
  have he : r - e ≤ |r - e| := le_abs_self _
  rcases abs_cases (r - d) with ⟨hd, _⟩ | ⟨hd, _⟩
  · linarith
  · linarith

theorem IsNearest.mono {d e q r : ℚ} (hd : IsNearest d (ofRat q)) (he : IsNearest e (ofRat r))
    (h : q < r) : d ≤ e := by
  cases hd with
  | rational hd hq =>
    cases he with
    | rational he hr =>
      by_contra hlt
      rw [not_le] at hlt
      -- the one number is above the middle of the two doubles, the other one is below it
      have hupper := middle_le (hq e he) hlt
      have hlower := le_middle (hr d hd) hlt
      linarith

theorem placeOfRat_bounds (q : ℚ) : -twoTo 2098 ≤ placeOfRat q ∧ placeOfRat q ≤ twoTo 2098 := by
  have hle : nearestUnits (q.num.natAbs * unitsPerOne) q.den ≤ twoTo 2098 := Nat.min_le_right _ _
  unfold placeOfRat signedUnits
  split <;> omega

theorem placeOfRat_mono {q r : ℚ} (h : q ≤ r) : placeOfRat q ≤ placeOfRat r := by
  rcases eq_or_lt_of_le h with rfl | hlt
  · exact le_rfl
  · have hunit : (0 : ℚ) < unitsPerOne := Nat.cast_pos.mpr (twoTo_pos 1074)
    have hplaces := (placeOfRat_isNearest q).mono (placeOfRat_isNearest r) hlt
    exact_mod_cast (div_le_div_iff_of_pos_right hunit).mp hplaces

theorem place_bounds (x : ExtendedRat) : -twoTo 2098 ≤ place x ∧ place x ≤ twoTo 2098 := by
  rcases x.cases with rfl | ⟨q, rfl⟩ | rfl
  · exact ⟨le_rfl, neg_le_self (Int.natCast_nonneg _)⟩
  · exact placeOfRat_bounds q
  · exact ⟨neg_le_self (Int.natCast_nonneg _), le_rfl⟩

theorem place_mono {x y : ExtendedRat} (h : x ≤ y) : place x ≤ place y := by
  rcases x.cases with rfl | ⟨q, rfl⟩ | rfl
  · exact (place_bounds y).1
  · rcases y.cases with rfl | ⟨r, rfl⟩ | rfl
    · exact absurd h (WithBot.not_coe_le_bot _)
    · exact placeOfRat_mono (ExtendedRat.ofRat_le_ofRat.mp h)
    · exact (place_bounds _).2
  · obtain rfl := top_le_iff.mp h
    exact le_rfl

theorem lt_of_place_lt {x y : ExtendedRat} (h : place x < place y) : x < y :=
  lt_of_not_ge fun hle => absurd (place_mono hle) (not_le_of_gt h)

/-- Numbers whose doubles are in order are in order themselves, or they become the same double. -/
theorem le_or_nearest {x y : ExtendedRat} (h : place x ≤ place y) :
    x ≤ y ∨ ∃ d, IsNearest d x ∧ IsNearest d y := by
  rcases eq_or_lt_of_le h with heq | hlt
  · right
    exact ⟨_, place_isNearest x, heq ▸ place_isNearest y⟩
  · left
    exact (lt_of_place_lt hlt).le

/-! ## Decimals -/

theorem nearestUnits_eq_limit {num : Nat} (h : twoTo 2098 ≤ num) : nearestUnits num 1 = twoTo 2098 := by
  have hcount : IsCount (twoTo 2098) := ⟨twoTo 53, 2045, le_rfl, le_rfl, twoTo_add 53 2045⟩
  have hnear := nearestUnits_nearest num Nat.one_pos hcount
  have hle : nearestUnits num 1 ≤ twoTo 2098 := Nat.min_le_right _ _
  have hnum : (twoTo 2098 : ℚ) ≤ num := Nat.cast_le.mpr h
  have hround : (nearestUnits num 1 : ℚ) ≤ twoTo 2098 := Nat.cast_le.mpr hle
  rw [Nat.cast_one, div_one, abs_of_nonneg (sub_nonneg.mpr hnum),
    abs_of_nonneg (sub_nonneg.mpr (hround.trans hnum)), sub_le_sub_iff_left, Nat.cast_le] at hnear
  exact Nat.le_antisymm hle hnear

section
variable (s : Bool) (digits k : Nat)

theorem place_zero : place (ofRat (signed s 0)) = signedUnits s 0 := by
  have h := placeOfRat_signed s 0 Nat.one_pos
  rwa [Nat.cast_zero, zero_div, Nat.zero_mul, nearestUnits_zero] at h

theorem place_whole : place (ofRat (signed s (digits * 10 ^ (k : ℤ)))) =
    signedUnits s (nearestUnits (digits * tenTo k * unitsPerOne) 1) := by
  have h := placeOfRat_signed s (digits * tenTo k) Nat.one_pos
  rwa [Nat.cast_mul, cast_tenTo, Nat.cast_one, div_one, ← zpow_natCast] at h

theorem place_fraction : place (ofRat (signed s (digits * 10 ^ (-k : ℤ)))) =
    signedUnits s (nearestUnits (digits * unitsPerOne) (tenTo k)) := by
  have h := placeOfRat_signed s digits (tenTo_pos k)
  rwa [cast_tenTo, div_eq_mul_inv, ← zpow_natCast, ← zpow_neg] at h

end

theorem twoTo_le_of_great {digits k : Nat} (hdigits : digits ≠ 0) (hk : 401 ≤ k) :
    twoTo 2098 ≤ digits * tenTo k * unitsPerOne :=
  calc twoTo 2098 ≤ tenTo 401 * unitsPerOne := by decide +kernel
    _ ≤ digits * tenTo k * unitsPerOne := by
      apply Nat.mul_le_mul_right
      exact Nat.le_trans (tenTo_le_tenTo hk) (Nat.le_mul_of_pos_left _ (Nat.pos_of_ne_zero hdigits))

theorem lt_tenTo_of_small {digits k : Nat} (h : digits.log2 < 3 * (k - 400)) :
    2 * (digits * unitsPerOne) < tenTo k := by
  have hdigits : digits < tenTo (k - 400) :=
    calc digits < 2 ^ (digits.log2 + 1) := Nat.lt_log2_self
      _ ≤ 2 ^ (3 * (k - 400)) := Nat.pow_le_pow_right (by decide) h
      _ = 8 ^ (k - 400) := Nat.pow_mul 2 3 _
      _ ≤ tenTo (k - 400) := Nat.pow_le_pow_left (by decide) _
  have hk : k - 400 + 400 = k := by omega
  have hunit : 2 * unitsPerOne ≤ tenTo 400 := by decide +kernel
  calc 2 * (digits * unitsPerOne) = digits * (2 * unitsPerOne) := Nat.mul_left_comm _ _ _
    _ ≤ digits * tenTo 400 := Nat.mul_le_mul_left _ hunit
    _ < tenTo (k - 400) * tenTo 400 := Nat.mul_lt_mul_of_pos_right hdigits (tenTo_pos 400)
    _ = tenTo (k - 400 + 400) := (tenTo_add _ 400).symm
    _ = tenTo k := by rw [hk]

/-- A decimal becomes the double nearest to its value. -/
theorem ofDecimal_standsAt (s : Bool) (digits : Nat) (e : ℤ) :
    StandsAt (ofDecimal s digits e) (place (ofRat (signed s (digits * 10 ^ e)))) := by
  have hlimit : 0 < twoTo 2098 := twoTo_pos 2098
  unfold ofDecimal
  split
  · rename_i hzero
    rw [hzero, Nat.cast_zero, zero_mul, place_zero]
    exact .finite s hlimit
  rename_i hdigits
  rcases Int.le_total 0 e with hnonneg | hneg
  · obtain ⟨k, rfl⟩ := Int.eq_ofNat_of_zero_le hnonneg
    rw [place_whole]
    split
    · -- beyond all doubles
      rw [nearestUnits_eq_limit (twoTo_le_of_great hdigits (by omega))]
      exact .infinite s
    · rw [Int.toNat_natCast]
      exact ofUnits_standsAt s _ 1
  · obtain ⟨k, hk⟩ := Int.eq_ofNat_of_zero_le (a := -e) (by omega)
    obtain rfl : e = -k := by omega
    rw [if_neg (by omega)]
    split
    · obtain rfl : k = 0 := by omega
      exact place_whole s digits 0 ▸ ofUnits_standsAt s _ 1
    rw [place_fraction]
    have hsmall : (-(-(k : ℤ) + 400)).toNat = k - 400 := by omega
    rw [hsmall]
    split
    · -- less than half a unit
      rename_i hlog
      rw [nearestUnits, roundUnits_eq_zero (lt_tenTo_of_small hlog), Nat.zero_min]
      exact .finite s hlimit
    · rw [Int.neg_neg, Int.toNat_natCast]
      exact ofUnits_standsAt s _ (tenTo k)

end Binary64
end RequestMatching
