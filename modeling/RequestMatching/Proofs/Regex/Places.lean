import Mathlib.Data.Finset.Card
import Mathlib.Data.Finset.Range
import RequestMatching.Regex.Basic

/-!
# What an expression matches

An expression relates the place where a match starts to the place where it ends. The sets of places
that are computed for it hold the ends for all the starts at once, and repetitions without a bound
need no more rounds than the text has places.
-/

namespace RequestMatching

namespace Regex

def Rounds (R : Nat → Nat → Prop) : Nat → Nat → Nat → Prop
  | 0, i, j => i = j
  | n + 1, i, k => ∃ j, R i j ∧ Rounds R n j k

def charBefore (text : List Char) : Nat → Option Char
  | 0 => none
  | i + 1 => text[i]?

/-- The expression matches the text from the place `i` to the place `j`. A repetition whose bounds
cross has exactly as many rounds as the lower one says. -/
def Spans (text : List Char) : Regex → Nat → Nat → Prop
  | empty, i, j => i = j
  | char set, i, j => (∃ c, text[i]? = some c ∧ set.contains c.toNat = true) ∧ j = i + 1
  | look l, i, j => i ≤ text.length ∧ l.holdsBetween (charBefore text i) text[i]? = true ∧ i = j
  | cat first second, i, k => ∃ j, Spans text first i j ∧ Spans text second j k
  | alt left right, i, j => Spans text left i j ∨ Spans text right i j
  | rep body min max, i, j =>
    ∃ n, min ≤ n ∧ (∀ m ∈ max, n ≤ m ∨ n = min) ∧ Rounds (Spans text body) n i j

/-! ## Rounds -/

theorem rounds_add {R : Nat → Nat → Prop} {m n i k : Nat} :
    Rounds R (m + n) i k ↔ ∃ j, Rounds R m i j ∧ Rounds R n j k := by
  induction m generalizing i with
  | zero => simp [Rounds]
  | succ m ih =>
    rw [Nat.succ_add]
    simp only [Rounds, ih]
    constructor
    · rintro ⟨j, hR, j', hm, hn⟩
      exact ⟨j', ⟨j, hR, hm⟩, hn⟩
    · rintro ⟨j', ⟨j, hR, hm⟩, hn⟩
      exact ⟨j, hR, j', hm, hn⟩

theorem rounds_le {R : Nat → Nat → Prop} {bound : Nat} (hR : ∀ i j, R i j → i ≤ bound → j ≤ bound)
    {n i j : Nat} (h : Rounds R n i j) (hi : i ≤ bound) : j ≤ bound := by
  induction n generalizing i with
  | zero => exact h ▸ hi
  | succ n ih =>
    obtain ⟨i', hstep, hrest⟩ := h
    exact ih hrest (hR i i' hstep hi)

theorem spans_le (text : List Char) {r : Regex} {i j : Nat} (h : Spans text r i j)
    (hi : i ≤ text.length) : j ≤ text.length := by
  induction r generalizing i j with
  | empty => exact h ▸ hi
  | char set =>
    obtain ⟨⟨c, hc, -⟩, rfl⟩ := h
    exact (List.getElem?_eq_some_iff.mp hc).1
  | look l => exact h.2.2 ▸ hi
  | cat first second ihf ihs =>
    obtain ⟨k, hf, hs⟩ := h
    exact ihs hs (ihf hf hi)
  | alt left right ihl ihr => exact h.elim (fun h => ihl h hi) fun h => ihr h hi
  | rep body min max ih =>
    obtain ⟨n, -, -, hn⟩ := h
    exact rounds_le (fun i j h hi => ih h hi) hn hi

/-! ## Sets of places -/

/-- All places of the set are places of a text of that length. -/
def Within (bound s : Nat) : Prop :=
  ∀ i, s.testBit i = true → i ≤ bound

/-- From a set of places, the step leads to those that the relation leads to. -/
def Leads (bound : Nat) (R : Nat → Nat → Prop) (step : Nat → Nat) : Prop :=
  ∀ s, Within bound s → ∀ j, (step s).testBit j = true ↔ ∃ i, s.testBit i = true ∧ R i j

section
variable {bound : Nat} {R : Nat → Nat → Prop} {step : Nat → Nat}

theorem Leads.within (h : Leads bound R step) (hR : ∀ i j, R i j → i ≤ bound → j ≤ bound) {s : Nat}
    (hs : Within bound s) : Within bound (step s) := by
  intro j hj
  obtain ⟨i, hi, hij⟩ := (h s hs j).mp hj
  exact hR i j hij (hs i hi)

theorem leads_iterate (h : Leads bound R step) (hR : ∀ i j, R i j → i ≤ bound → j ≤ bound) (n : Nat) :
    Leads bound (Rounds R n) (iterate step n) := by
  induction n with
  | zero => intro s _ j; simp [iterate, Rounds]
  | succ n ih =>
    intro s hs j
    by_cases hzero : s = 0
    · subst hzero
      simp [iterate]
    · simp only [iterate, if_neg hzero, ih (step s) (h.within hR hs), h s hs, Rounds]
      constructor
      · rintro ⟨k, ⟨i, hi, hik⟩, hkj⟩
        exact ⟨i, hi, k, hik, hkj⟩
      · rintro ⟨i, hi, k, hik, hkj⟩
        exact ⟨k, ⟨i, hi, hik⟩, hkj⟩

/-- The places that a step adds to those seen before. -/
theorem testBit_fresh {seen next i : Nat} : ((seen ||| next) ^^^ seen).testBit i = true ↔
    next.testBit i = true ∧ seen.testBit i = false := by
  rw [Nat.testBit_xor, Nat.testBit_or]
  cases seen.testBit i <;> cases next.testBit i <;> simp

theorem reach_sound (h : Leads bound R step) (hR : ∀ i j, R i j → i ≤ bound → j ≤ bound) {n : Nat} :
    ∀ {seen frontier j : Nat}, Within bound frontier → (reach step n seen frontier).testBit j = true →
      seen.testBit j = true ∨ ∃ k, k ≤ n ∧ ∃ i, frontier.testBit i = true ∧ Rounds R k i j := by
  induction n with
  | zero => exact fun _ hj => .inl hj
  | succ n ih =>
    intro seen frontier j hfrontier hj
    rw [reach] at hj
    split at hj
    · exact .inl hj
    · have hnext := h.within hR hfrontier
      have hfresh : Within bound ((seen ||| step frontier) ^^^ seen) :=
        fun i hi => hnext i (testBit_fresh.mp hi).1
      have honward : ∀ i, (step frontier).testBit i = true → ∀ k, k ≤ n → Rounds R k i j →
          ∃ k, k ≤ n + 1 ∧ ∃ i, frontier.testBit i = true ∧ Rounds R k i j := by
        intro i hi k hk hij
        obtain ⟨i', hi', hstep⟩ := (h frontier hfrontier i).mp hi
        exact ⟨k + 1, by omega, i', hi', i, hstep, hij⟩
      rcases ih hfresh hj with hseen | ⟨k, hk, i, hi, hij⟩
      · rw [Nat.testBit_or, Bool.or_eq_true] at hseen
        exact hseen.imp_right fun hnew => honward j hnew 0 (Nat.zero_le n) rfl
      · exact .inr (honward i (testBit_fresh.mp hi).1 k hk hij)

/-- The steps from all seen places have been taken, apart from those of the frontier. -/
def Explored (R : Nat → Nat → Prop) (seen frontier : Nat) : Prop :=
  ∀ i, seen.testBit i = true → frontier.testBit i = false → ∀ j, R i j → seen.testBit j = true

theorem rounds_closed {seen : Nat} (hclosed : Explored R seen 0) {n i j : Nat}
    (hi : seen.testBit i = true) (h : Rounds R n i j) : seen.testBit j = true := by
  induction n generalizing i with
  | zero => exact h ▸ hi
  | succ n ih =>
    obtain ⟨k, hik, hkj⟩ := h
    exact ih (hclosed i hi (Nat.zero_testBit i) k hik) hkj

/-- One step from the frontier explores what has been seen before. -/
theorem explored_step (h : Leads bound R step) {seen frontier : Nat} (hfrontier : Within bound frontier)
    (hexplored : Explored R seen frontier) {i j : Nat} (hi : seen.testBit i = true) (hij : R i j) :
    (seen ||| step frontier).testBit j = true := by
  rw [Nat.testBit_or, Bool.or_eq_true]
  cases hold : frontier.testBit i with
  | true => exact .inr ((h frontier hfrontier j).mpr ⟨i, hold, hij⟩)
  | false => exact .inl (hexplored i hi hold j hij)

theorem reach_complete (h : Leads bound R step) (hR : ∀ i j, R i j → i ≤ bound → j ≤ bound) {n : Nat} :
    ∀ {seen frontier : Nat}, Within bound frontier → Explored R seen frontier → ∀ {k i j : Nat}, k ≤ n →
      seen.testBit i = true → Rounds R k i j → (reach step n seen frontier).testBit j = true := by
  induction n with
  | zero =>
    intro seen frontier _ _ k i j hk hi hij
    obtain rfl : k = 0 := Nat.le_zero.mp hk
    exact hij ▸ hi
  | succ n ih =>
    intro seen frontier hfrontier hexplored k i j hk hi hij
    rw [reach]
    split
    · rename_i hnone
      -- nothing new has been found, so the seen places are closed under the steps
      have hseen : seen ||| step frontier = seen := by
        refine Nat.eq_of_testBit_eq fun i => ?_
        have hi : ((seen ||| step frontier) ^^^ seen).testBit i = false := by
          rw [hnone, Nat.zero_testBit]
        rw [Nat.testBit_xor] at hi
        exact bne_eq_false_iff_eq.mp hi
      refine rounds_closed (fun i hi _ j hij => ?_) hi hij
      rw [← hseen]
      exact explored_step h hfrontier hexplored hi hij
    · have hfresh : Within bound ((seen ||| step frontier) ^^^ seen) :=
        fun i hi => h.within hR hfrontier i (testBit_fresh.mp hi).1
      have honward : Explored R (seen ||| step frontier) ((seen ||| step frontier) ^^^ seen) := by
        intro i hi hnew j hij
        refine explored_step h hfrontier hexplored ?_ hij
        rw [Nat.testBit_xor, hi] at hnew
        simpa using hnew
      cases k with
      | zero => exact ih hfresh honward (Nat.zero_le n) (by rw [Nat.testBit_or, hi, Bool.true_or]) hij
      | succ k =>
        obtain ⟨i', hii', hij⟩ := hij
        exact ih hfresh honward (Nat.le_of_succ_le_succ hk)
          (explored_step h hfrontier hexplored hi hii') hij

/-! ## Enough rounds -/

/-- The places of a text that are not in the set. -/
def unseen (bound seen : Nat) : Finset Nat :=
  (Finset.range (bound + 1)).filter fun i => seen.testBit i = false

theorem unseen_card_lt {seen next : Nat} (hnext : Within bound next)
    (hfresh : (seen ||| next) ^^^ seen ≠ 0) :
    (unseen bound (seen ||| next)).card < (unseen bound seen).card := by
  obtain ⟨i, hi⟩ := Nat.exists_testBit_of_ne_zero hfresh
  obtain ⟨hnew, hold⟩ := testBit_fresh.mp hi
  refine Finset.card_lt_card ⟨fun j hj => ?_, fun hsub => ?_⟩
  · simp only [unseen, Finset.mem_filter, Nat.testBit_or, Bool.or_eq_false_iff] at hj ⊢
    exact ⟨hj.1, hj.2.1⟩
  · have hmem : i ∈ unseen bound seen := by
      simp [unseen, hold, Nat.lt_succ_of_le (hnext i hnew)]
    simpa [unseen, hnew] using hsub hmem

theorem reach_eq (h : Leads bound R step) (hR : ∀ i j, R i j → i ≤ bound → j ≤ bound) {n : Nat} :
    ∀ {m seen frontier : Nat}, Within bound frontier → (unseen bound seen).card ≤ n →
      (unseen bound seen).card ≤ m → reach step n seen frontier = reach step m seen frontier := by
  have hdone : ∀ {m seen frontier : Nat}, Within bound frontier → (unseen bound seen).card = 0 →
      reach step m seen frontier = seen := by
    intro m seen frontier hfrontier hcard
    cases m with
    | zero => rfl
    | succ m =>
      by_cases hfresh : (seen ||| step frontier) ^^^ seen = 0
      · rw [reach, if_pos hfresh]
      · have := unseen_card_lt (h.within hR hfrontier) hfresh
        omega
  induction n with
  | zero =>
    intro m seen frontier hfrontier hn _
    rw [hdone hfrontier (Nat.le_zero.mp hn), hdone hfrontier (Nat.le_zero.mp hn)]
  | succ n ih =>
    intro m seen frontier hfrontier hn hm
    by_cases hfresh : (seen ||| step frontier) ^^^ seen = 0
    · cases m with
      | zero => rw [hdone hfrontier (Nat.le_zero.mp hm), hdone hfrontier (Nat.le_zero.mp hm)]
      | succ m => rw [reach, if_pos hfresh, reach, if_pos hfresh]
    · have hlt := unseen_card_lt (h.within hR hfrontier) hfresh
      obtain ⟨m, rfl⟩ : ∃ k, m = k + 1 := ⟨m - 1, by omega⟩
      rw [reach, if_neg hfresh, reach, if_neg hfresh]
      exact ih (fun i hi => h.within hR hfrontier i (testBit_fresh.mp hi).1) (by omega) (by omega)

theorem unseen_card_le (bound seen : Nat) : (unseen bound seen).card ≤ bound + 1 :=
  (Finset.card_filter_le _ _).trans (Finset.card_range _).le

theorem testBit_reach (h : Leads bound R step) (hR : ∀ i j, R i j → i ≤ bound → j ≤ bound) {s : Nat}
    (hs : Within bound s) (n j : Nat) : (reach step n s s).testBit j = true ↔
      ∃ k, k ≤ n ∧ ∃ i, s.testBit i = true ∧ Rounds R k i j := by
  constructor
  · intro hj
    rcases reach_sound h hR hs hj with hj | hj
    · exact ⟨0, Nat.zero_le n, j, hj, rfl⟩
    · exact hj
  · rintro ⟨k, hk, i, hi, hij⟩
    have hexplored : Explored R s s := fun i hi hnew => by rw [hi] at hnew; cases hnew
    exact reach_complete h hR hs hexplored hk hi hij

theorem testBit_reach_bounded (h : Leads bound R step) (hR : ∀ i j, R i j → i ≤ bound → j ≤ bound)
    {s : Nat} (hs : Within bound s) (n j : Nat) :
    (reach step (Nat.min n (bound + 1)) s s).testBit j = true ↔
      ∃ k, k ≤ n ∧ ∃ i, s.testBit i = true ∧ Rounds R k i j := by
  by_cases hn : n ≤ bound + 1
  · rw [show Nat.min n (bound + 1) = n from Nat.min_eq_left hn, testBit_reach h hR hs]
  · have hle := unseen_card_le bound s
    rw [show Nat.min n (bound + 1) = bound + 1 from Nat.min_eq_right (by omega),
      reach_eq h hR hs hle (m := n) (by omega), testBit_reach h hR hs]

theorem testBit_reach_unbounded (h : Leads bound R step)
    (hR : ∀ i j, R i j → i ≤ bound → j ≤ bound) {s : Nat} (hs : Within bound s) (j : Nat) :
    (reach step (bound + 1) s s).testBit j = true ↔
      ∃ k i, s.testBit i = true ∧ Rounds R k i j := by
  have hle := unseen_card_le bound s
  constructor
  · intro hj
    obtain ⟨k, -, hk⟩ := (testBit_reach h hR hs _ j).mp hj
    exact ⟨k, hk⟩
  · rintro ⟨k, hk⟩
    rw [reach_eq h hR hs hle (m := Nat.max k (bound + 1)) (hle.trans (Nat.le_max_right _ _))]
    exact (testBit_reach h hR hs _ j).mpr ⟨k, Nat.le_max_left _ _, hk⟩

end

/-! ## The places of a text -/

@[simp]
theorem testBit_bit_zero (b : Bool) (n : Nat) :
    ((if b then 1 else 0) + 2 * n).testBit 0 = b := by
  cases b <;> simp [Nat.testBit_zero]

@[simp]
theorem testBit_bit_succ (b : Bool) (n i : Nat) :
    ((if b then 1 else 0) + 2 * n).testBit (i + 1) = n.testBit i := by
  have hhalf : ((if b then 1 else 0) + 2 * n) / 2 = n := by cases b <;> simp; omega
  rw [Nat.testBit_succ, hhalf]

theorem testBit_placesOf (c : Char) (text : List Char) (i : Nat) :
    (placesOf c text).testBit i = true ↔ text[i]? = some c := by
  induction text generalizing i with
  | nil => simp [placesOf]
  | cons d text ih =>
    have hbit := testBit_bit_zero (d = c) (placesOf c text)
    have hbits := testBit_bit_succ (d = c) (placesOf c text)
    simp only [decide_eq_true_eq] at hbit hbits
    cases i with
    | zero => simp [placesOf, hbit]
    | succ i => simp [placesOf, hbits, ih]

theorem testBit_indexedPlaces (p : Char → Bool) (index : List (Char × Nat)) (i : Nat) :
    (indexedPlaces p index).testBit i = true ↔
      ∃ q ∈ index, p q.1 = true ∧ q.2.testBit i = true := by
  induction index with
  | nil => simp [indexedPlaces]
  | cons q index ih =>
    obtain ⟨c, places⟩ := q
    by_cases hc : p c <;> simp [indexedPlaces, hc, ih, Nat.testBit_or]

@[simp]
theorem Subject.ofText_text (text : List Char) : (ofText text).text = text := rfl

theorem testBit_charPlaces (text : List Char) (p : Char → Bool) (i : Nat) :
    ((Subject.ofText text).charPlaces p).testBit i = true ↔ ∃ c, text[i]? = some c ∧ p c = true := by
  simp only [Subject.charPlaces, Subject.ofText, testBit_indexedPlaces, List.mem_map,
    List.mem_eraseDups]
  constructor
  · rintro ⟨-, ⟨c, -, rfl⟩, hp, hi⟩
    exact ⟨c, (testBit_placesOf c text i).mp hi, hp⟩
  · rintro ⟨c, hc, hp⟩
    exact ⟨_, ⟨c, List.mem_of_getElem? hc, rfl⟩, hp, (testBit_placesOf c text i).mpr hc⟩

theorem testBit_gapPlaces (p : Option Char → Option Char → Bool) (before : Option Char)
    (text : List Char) (i : Nat) : (gapPlaces p before text).testBit i = true ↔
      i ≤ text.length ∧ p (if i = 0 then before else text[i - 1]?) text[i]? = true := by
  induction text generalizing before i with
  | nil =>
    have hnil : gapPlaces p before [] = (if p before none then 1 else 0) + 2 * 0 := rfl
    cases i with
    | zero => rw [hnil, testBit_bit_zero]; simp
    | succ i => rw [hnil, testBit_bit_succ]; simp
  | cons c text ih =>
    cases i with
    | zero => rw [gapPlaces, testBit_bit_zero]; simp
    | succ i =>
      rw [gapPlaces, testBit_bit_succ, ih]
      cases i <;> simp

/-! ## Expressions -/

theorem charBefore_eq (text : List Char) (i : Nat) :
    charBefore text i = if i = 0 then none else text[i - 1]? := by
  cases i <;> simp [charBefore]

/-- The sets of places that are computed for an expression are those that it leads to. -/
theorem leads_ends (text : List Char) (r : Regex) :
    Leads text.length (Spans text r) (ends (.ofText text) r) := by
  induction r with
  | empty => intro s _ j; simp [ends, Spans]
  | char set =>
    intro s _ j
    simp only [ends, Spans, Nat.testBit_shiftLeft, Nat.testBit_and, Bool.and_eq_true,
      decide_eq_true_eq, testBit_charPlaces]
    constructor
    · rintro ⟨hj, hi, hc⟩
      exact ⟨j - 1, hi, hc, by omega⟩
    · rintro ⟨i, hi, hc, rfl⟩
      exact ⟨by omega, hi, hc⟩
  | look l =>
    intro s _ j
    simp only [ends, Spans, Nat.testBit_and, Bool.and_eq_true, testBit_gapPlaces, charBefore_eq,
      Subject.ofText_text]
    constructor
    · rintro ⟨hi, hle, hl⟩
      exact ⟨j, hi, hle, hl, rfl⟩
    · rintro ⟨i, hi, hle, hl, rfl⟩
      exact ⟨hi, hle, hl⟩
  | cat first second ihf ihs =>
    intro s hs k
    have hwithin : Within text.length (ends (.ofText text) first s) :=
      ihf.within (fun _ _ h hi => spans_le text h hi) hs
    simp only [ends, Spans, ihs _ hwithin, ihf s hs]
    constructor
    · rintro ⟨j, ⟨i, hi, hij⟩, hjk⟩
      exact ⟨i, hi, j, hij, hjk⟩
    · rintro ⟨i, hi, j, hij, hjk⟩
      exact ⟨j, ⟨i, hi, hij⟩, hjk⟩
  | alt left right ihl ihr =>
    intro s hs j
    simp only [ends, Spans, Nat.testBit_or, Bool.or_eq_true, ihl s hs, ihr s hs]
    constructor
    · rintro (⟨i, hi, hij⟩ | ⟨i, hi, hij⟩)
      · exact ⟨i, hi, .inl hij⟩
      · exact ⟨i, hi, .inr hij⟩
    · rintro ⟨i, hi, hij | hij⟩
      · exact .inl ⟨i, hi, hij⟩
      · exact .inr ⟨i, hi, hij⟩
  | rep body min max ih =>
    intro s hs j
    have hbound : ∀ i j, Spans text body i j → i ≤ text.length → j ≤ text.length :=
      fun _ _ h hi => spans_le text h hi
    have hleast := leads_iterate ih hbound min
    have hwithin : Within text.length (iterate (ends (.ofText text) body) min s) :=
      hleast.within (fun _ _ h hi => rounds_le hbound h hi) hs
    have hmore : (ends (.ofText text) (.rep body min max) s).testBit j = true ↔
        ∃ k, (∀ m ∈ max, k ≤ m - min) ∧
          ∃ i, (iterate (ends (.ofText text) body) min s).testBit i = true ∧
            Rounds (Spans text body) k i j := by
      cases max with
      | none => simpa [ends] using testBit_reach_unbounded ih hbound hwithin j
      | some m => simpa [ends] using testBit_reach_bounded ih hbound hwithin (m - min) j
    simp only [hmore, hleast s hs, Spans]
    constructor
    · rintro ⟨k, hk, i', ⟨i, hi, hii'⟩, hi'j⟩
      refine ⟨i, hi, min + k, by omega, fun m hm => ?_, rounds_add.mpr ⟨i', hii', hi'j⟩⟩
      have := hk m hm
      omega
    · rintro ⟨i, hi, n, hn, hmax, hij⟩
      obtain ⟨k, rfl⟩ := Nat.exists_eq_add_of_le hn
      obtain ⟨i', hii', hi'j⟩ := rounds_add.mp hij
      refine ⟨k, fun m hm => ?_, i', ⟨i, hi, hii'⟩, hi'j⟩
      have := hmax m hm
      omega

theorem testBit_allPlaces (text : List Char) (i : Nat) :
    (allPlaces text).testBit i = true ↔ i ≤ text.length := by
  have hplaces : allPlaces text = 2 ^ (text.length + 1) - 1 := rfl
  rw [hplaces, Nat.testBit_two_pow_sub_one, decide_eq_true_eq, Nat.lt_succ_iff]

/-- An expression matches a text if it matches some part of it. -/
theorem isMatch_iff (r : Regex) (text : String) :
    r.isMatch text = true ↔ ∃ i j, i ≤ text.toList.length ∧ Spans text.toList r i j := by
  have hall : Within text.toList.length (allPlaces text.toList) :=
    fun i hi => (testBit_allPlaces text.toList i).mp hi
  have hends := leads_ends text.toList r _ hall
  rw [isMatch, bne_iff_ne]
  constructor
  · intro hne
    obtain ⟨j, hj⟩ := Nat.exists_testBit_of_ne_zero hne
    obtain ⟨i, hi, hij⟩ := (hends j).mp hj
    exact ⟨i, j, hall i hi, hij⟩
  · rintro ⟨i, j, hi, hij⟩ hzero
    have hj := (hends j).mpr ⟨i, (testBit_allPlaces text.toList i).mpr hi, hij⟩
    rw [hzero, Nat.zero_testBit] at hj
    cases hj

end Regex
end RequestMatching
