import RequestMatching.Store.Basic

/-!
# Rankings

A ranking holds places in strictly ascending order. Putting in a place that has no equal, and taking
out one that is there, change nothing else. A stable sort by priority of values in the order of their
sequence arrives at the same order.
-/

namespace RequestMatching

namespace Rank

variable {K P : Type} [Ord P]

def Ascending (ranking : List (Rank K P)) : Prop :=
  ranking.Pairwise fun a b => a.order b = .lt

theorem order_ne_eq {a b : Rank K P} (h : a.sequence ≠ b.sequence) : a.order b ≠ .eq := by
  intro he
  obtain ⟨_, hs⟩ := Ordering.then_eq_eq.mp he
  exact h (Nat.compare_eq_eq.mp hs)

theorem insert_perm {r : Rank K P} {ranking : List (Rank K P)} (h : ∀ q ∈ ranking, r.order q ≠ .eq) :
    (r.insert ranking).Perm (r :: ranking) := by
  induction ranking with
  | nil => exact .refl _
  | cons q rest ih =>
    have hq := h q (List.mem_cons_self ..)
    rw [insert]
    cases ho : r.order q with
    | lt => exact .refl _
    | eq => exact absurd ho hq
    | gt =>
      have hrest := ih fun p hp => h p (List.mem_cons_of_mem _ hp)
      exact (hrest.cons q).trans (.swap r q rest)

theorem erase_ascending {r : Rank K P} {ranking : List (Rank K P)} (hs : Ascending ranking) :
    Ascending (r.erase ranking) :=
  hs.filter _

variable [Std.TransOrd P]

instance : Std.TransCmp (Rank.order (K := K) (P := P)) :=
  inferInstanceAs <| Std.TransCmp <|
    compareLex (compareOn (Rank.priority (K := K) (P := P))) (compareOn (Rank.sequence (K := K) (P := P)))

theorem insert_ascending {r : Rank K P} {ranking : List (Rank K P)} (h : ∀ q ∈ ranking, r.order q ≠ .eq)
    (hs : Ascending ranking) : Ascending (r.insert ranking) := by
  induction ranking with
  | nil => exact List.pairwise_singleton _ _
  | cons q rest ih =>
    obtain ⟨hq, hrest⟩ := List.pairwise_cons.mp hs
    have hne : ∀ p ∈ rest, r.order p ≠ .eq := fun p hp => h p (List.mem_cons_of_mem _ hp)
    rw [insert]
    cases ho : r.order q with
    | lt =>
      refine List.pairwise_cons.mpr ⟨?_, hs⟩
      intro p hp
      rcases List.mem_cons.mp hp with rfl | hp
      · exact ho
      · exact Std.TransCmp.lt_trans ho (hq p hp)
    | eq => exact absurd ho (h q (List.mem_cons_self ..))
    | gt =>
      refine List.pairwise_cons.mpr ⟨?_, ih hne hrest⟩
      intro p hp
      rcases List.mem_cons.mp ((insert_perm hne).mem_iff.mp hp) with rfl | hp
      · exact Std.OrientedCmp.lt_of_gt ho
      · exact hq p hp

theorem erase_perm {r : Rank K P} {ranking : List (Rank K P)} (hs : Ascending ranking)
    (hr : r ∈ ranking) : ranking.Perm (r :: r.erase ranking) := by
  induction ranking with
  | nil => cases hr
  | cons q rest ih =>
    obtain ⟨hq, hrest⟩ := List.pairwise_cons.mp hs
    rcases List.mem_cons.mp hr with rfl | hr
    · have hkeep : r.erase rest = rest := by
        refine List.filter_eq_self.mpr fun p hp => ?_
        simp [hq p hp]
      have hself : r.order r = .eq := Std.ReflCmp.compare_self
      rw [show r.erase (r :: rest) = r.erase rest by simp [erase, hself], hkeep]
    · have hne : (r.order q != .eq) = true := by
        rw [Std.OrientedCmp.gt_of_lt (hq r hr)]
        rfl
      rw [show r.erase (q :: rest) = q :: r.erase rest by simp [erase, hne]]
      exact ((ih hrest hr).cons q).trans (.swap r q _)

theorem eq_of_perm_of_ascending {l₁ l₂ : List (Rank K P)} (h : l₁.Perm l₂) (h₁ : Ascending l₁)
    (h₂ : Ascending l₂) : l₁ = l₂ := by
  refine h.eq_of_pairwise ?_ h₁ h₂
  intro a b _ _ hab hba
  exact absurd (Std.OrientedCmp.gt_of_lt hab) (by rw [hba]; nofun)

/-! ## Sorting by priority -/

/-- Whether a place comes no later than another if only the priority counts. -/
def notAfter (a b : Rank K P) : Bool :=
  (compare a.priority b.priority).isLE

theorem notAfter_trans (a b c : Rank K P) (hab : a.notAfter b = true) (hbc : b.notAfter c = true) :
    a.notAfter c = true :=
  Std.TransCmp.isLE_trans hab hbc

theorem notAfter_total (a b : Rank K P) : (a.notAfter b || b.notAfter a) = true := by
  cases h : a.notAfter b with
  | true => rfl
  | false =>
    have hgt : compare a.priority b.priority = .gt := by
      simpa [notAfter] using h
    simp [notAfter, Std.OrientedCmp.lt_of_gt hgt]

theorem mergeSort_ascending {l : List (Rank K P)} (h : l.Pairwise fun a b => a.sequence < b.sequence) :
    Ascending (l.mergeSort notAfter) := by
  induction l with
  | nil => simp [Ascending]
  | cons a l ih =>
    obtain ⟨ha, hl⟩ := List.pairwise_cons.mp h
    obtain ⟨l₁, l₂, hcons, htail, hlate⟩ := List.mergeSort_cons notAfter_trans notAfter_total a l
    have hsorted := List.pairwise_mergeSort notAfter_trans notAfter_total (a :: l)
    have hperm : ∀ b, b ∈ l₁ ∨ b ∈ l₂ → b ∈ l := by
      intro b hb
      rw [← List.mem_append, ← htail, List.mem_mergeSort] at hb
      exact hb
    have hasc := ih hl
    rw [htail, Ascending, List.pairwise_append] at hasc
    rw [hcons, List.pairwise_append, List.pairwise_cons] at hsorted
    rw [hcons, Ascending, List.pairwise_append, List.pairwise_cons]
    have hbefore : ∀ b ∈ l₁, b.order a = .lt := by
      intro b hb
      have hgt : compare a.priority b.priority = .gt := by
        simpa [notAfter] using hlate b hb
      simp [order, Std.OrientedCmp.lt_of_gt hgt]
    have hafter : ∀ b ∈ l₂, a.order b = .lt := by
      intro b hb
      have hle : (compare a.priority b.priority).isLE = true := hsorted.2.1.1 b hb
      have hseq : compare a.sequence b.sequence = .lt := Nat.compare_eq_lt.mpr (ha b (hperm b (.inr hb)))
      rw [order, hseq]
      cases hc : compare a.priority b.priority with
      | lt => rfl
      | eq => rfl
      | gt => simp [hc] at hle
    refine ⟨hasc.1, ⟨hafter, hasc.2.1⟩, ?_⟩
    intro b hb p hp
    rcases List.mem_cons.mp hp with rfl | hp
    · exact hbefore b hb
    · exact hasc.2.2 b hb p hp

theorem eq_mergeSort {ranking l : List (Rank K P)} (hperm : ranking.Perm l) (hs : Ascending ranking)
    (hl : l.Pairwise fun a b => a.sequence < b.sequence) : ranking = l.mergeSort notAfter :=
  eq_of_perm_of_ascending (hperm.trans (List.mergeSort_perm l _).symm) hs (mergeSort_ascending hl)

end Rank
end RequestMatching
