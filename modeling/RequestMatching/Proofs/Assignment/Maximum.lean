import Mathlib.Data.Finset.Card
import Mathlib.Data.Set.Function
import RequestMatching.Proofs.Assignment.Search

/-!
# Assignments are maximum matchings

After the first `n` items the owners are a matching along their choices, and no matching of these
items is larger. A failed search proves that nothing is gained by one more item: the places it tried
are all owned, and whoever owns them, like the item itself, has no choice elsewhere.
-/

namespace RequestMatching

namespace Assignment

/-- Pairs of one of the first `n` items and one of its choices, where nothing is in two pairs. -/
structure IsMatching (edges : List (List Nat)) (n : Nat) (M : Finset (Nat × Nat)) : Prop where
  lt : ∀ p ∈ M, p.1 < n
  edge : ∀ p ∈ M, p.2 ∈ edges.getD p.1 []
  left_inj : Set.InjOn Prod.fst (M : Set (Nat × Nat))
  right_inj : Set.InjOn Prod.snd (M : Set (Nat × Nat))

/-- The owners of `size` places are a matching of the first `n` items. -/
structure IsPlacing (edges : List (List Nat)) (size n : Nat) (owner : List (Option Nat)) : Prop where
  length_eq : owner.length = size
  lt : ∀ j k : Nat, owner[j]? = some (some k) → k < n
  edge : ∀ j k : Nat, owner[j]? = some (some k) → j ∈ edges.getD k []
  once : ∀ k : Nat, owner.count (some k) ≤ 1

def placed (n : Nat) (owner : List (Option Nat)) : Nat :=
  (List.range n).countP fun i => decide (some i ∈ owner)

def pairs (owner : List (Option Nat)) : Finset (Nat × Nat) :=
  ((List.range owner.length).filterMap fun j => (owner.getD j none).map (·, j)).toFinset

/-- Owners of which no matching of the first `n` items has more. -/
structure IsBest (edges : List (List Nat)) (size n : Nat) (owner : List (Option Nat)) : Prop where
  placing : IsPlacing edges size n owner
  card_le : ∀ M, IsMatching edges n M → M.card ≤ placed n owner

/-! ## Owners as pairs -/

theorem mem_pairs {owner : List (Option Nat)} {p : Nat × Nat} :
    p ∈ pairs owner ↔ owner[p.2]? = some (some p.1) := by
  obtain ⟨k, j⟩ := p
  simp only [pairs, List.mem_toFinset, List.mem_filterMap, List.mem_range, Option.map_eq_some_iff,
    Prod.mk.injEq]
  constructor
  · rintro ⟨m, _, l, hl, rfl, rfl⟩
    exact owner_of_getD hl
  · intro h
    obtain ⟨hj, _⟩ := List.getElem?_eq_some_iff.mp h
    exact ⟨j, hj, k, by simp [List.getD_eq_getElem?_getD, h], rfl, rfl⟩

theorem place_unique {owner : List (Option Nat)} {i j : Nat} {o : Option Nat}
    (hc : owner.count o ≤ 1) (hi : owner[i]? = some o) (hj : owner[j]? = some o) : i = j := by
  induction owner generalizing i j with
  | nil => simp at hi
  | cons a owner ih =>
    rw [List.count_cons] at hc
    have hnot : ∀ m : Nat, a = o → owner[m]? = some o → False := by
      intro m ha hm
      have hpos : 0 < owner.count o := List.count_pos_iff.mpr (List.mem_of_getElem? hm)
      simp only [ha, beq_self_eq_true, if_true] at hc
      omega
    cases i with
    | zero =>
      cases j with
      | zero => rfl
      | succ j => exact (hnot j (by simpa using hi) (by simpa using hj)).elim
    | succ i =>
      cases j with
      | zero => exact (hnot i (by simpa using hj) (by simpa using hi)).elim
      | succ j => exact congrArg Nat.succ (ih (by omega) (by simpa using hi) (by simpa using hj))

theorem IsPlacing.isMatching {edges : List (List Nat)} {size n : Nat} {owner : List (Option Nat)}
    (h : IsPlacing edges size n owner) : IsMatching edges n (pairs owner) where
  lt p hp := h.lt p.2 p.1 (mem_pairs.mp hp)
  edge p hp := h.edge p.2 p.1 (mem_pairs.mp hp)
  left_inj := by
    rintro ⟨k, i⟩ hp ⟨l, j⟩ hq (rfl : k = l)
    have hi : owner[i]? = some (some k) := mem_pairs.mp hp
    have hj : owner[j]? = some (some k) := mem_pairs.mp hq
    rw [place_unique (h.once k) hi hj]
  right_inj := by
    rintro ⟨k, i⟩ hp ⟨l, j⟩ hq (rfl : i = j)
    have hk : owner[i]? = some (some k) := mem_pairs.mp hp
    have hl : owner[i]? = some (some l) := mem_pairs.mp hq
    rw [hk] at hl
    cases hl
    rfl

/-! ## One more item -/

theorem IsMatching.filter {edges : List (List Nat)} {n : Nat} {M : Finset (Nat × Nat)}
    (h : IsMatching edges n M) (p : Nat × Nat → Prop) [DecidablePred p] :
    IsMatching edges n (M.filter p) where
  lt q hq := h.lt q (Finset.mem_filter.mp hq).1
  edge q hq := h.edge q (Finset.mem_filter.mp hq).1
  left_inj := h.left_inj.mono fun _ hq => (Finset.mem_filter.mp hq).1
  right_inj := h.right_inj.mono fun _ hq => (Finset.mem_filter.mp hq).1

theorem IsMatching.union {edges : List (List Nat)} {n : Nat} {A B : Finset (Nat × Nat)}
    (hA : IsMatching edges n A) (hB : IsMatching edges n B)
    (hleft : ∀ p ∈ A, ∀ q ∈ B, p.1 ≠ q.1) (hright : ∀ p ∈ A, ∀ q ∈ B, p.2 ≠ q.2) :
    IsMatching edges n (A ∪ B) := by
  constructor
  · intro p hp
    rcases Finset.mem_union.mp hp with hp | hp
    · exact hA.lt p hp
    · exact hB.lt p hp
  · intro p hp
    rcases Finset.mem_union.mp hp with hp | hp
    · exact hA.edge p hp
    · exact hB.edge p hp
  · intro p hp q hq he
    rcases Finset.mem_union.mp hp with hp | hp <;> rcases Finset.mem_union.mp hq with hq | hq
    · exact hA.left_inj hp hq he
    · exact absurd he (hleft p hp q hq)
    · exact absurd he.symm (hleft q hq p hp)
    · exact hB.left_inj hp hq he
  · intro p hp q hq he
    rcases Finset.mem_union.mp hp with hp | hp <;> rcases Finset.mem_union.mp hq with hq | hq
    · exact hA.right_inj hp hq he
    · exact absurd he (hright p hp q hq)
    · exact absurd he.symm (hright q hq p hp)
    · exact hB.right_inj hp hq he

theorem IsMatching.of_succ {edges : List (List Nat)} {n : Nat} {M : Finset (Nat × Nat)}
    (h : IsMatching edges (n + 1) M) (hn : ∀ p ∈ M, p.1 ≠ n) : IsMatching edges n M where
  lt p hp := by
    have := h.lt p hp
    have := hn p hp
    omega
  edge := h.edge
  left_inj := h.left_inj
  right_inj := h.right_inj

theorem IsMatching.card_le_succ {edges : List (List Nat)} {n : Nat} {M : Finset (Nat × Nat)}
    (h : IsMatching edges (n + 1) M) : M.card ≤ (M.filter fun p => p.1 ≠ n).card + 1 := by
  have hone : (M.filter fun p => p.1 = n).card ≤ 1 := by
    refine Finset.card_le_one.mpr fun p hp q hq => ?_
    obtain ⟨hp, hpn⟩ := Finset.mem_filter.mp hp
    obtain ⟨hq, hqn⟩ := Finset.mem_filter.mp hq
    exact h.left_inj hp hq (hpn.trans hqn.symm)
  have hsplit := Finset.card_filter_add_card_filter_not (s := M) (fun p => p.1 = n)
  rw [← hsplit, Nat.add_comm]
  exact Nat.add_le_add_left hone _

def start (owner : List (Option Nat)) (size : Nat) : Search :=
  ⟨owner, List.replicate size false⟩

theorem tried_start {owner : List (Option Nat)} {size j : Nat} :
    (start owner size).Tried j ↔ size ≤ j := by
  simp only [Search.Tried, start, List.getD_eq_getElem?_getD, List.getElem?_replicate]
  rcases Nat.lt_or_ge j size with h | h
  · simp [h]
  · simp [Nat.not_lt.mpr h, h]

theorem fits_start {owner : List (Option Nat)} {size : Nat} (h : owner.length = size) :
    (start owner size).Fits := by
  simp [Search.Fits, start, h]

theorem untried_start_lt (owner : List (Option Nat)) (size : Nat) :
    (start owner size).untried < size + 1 := by
  simp [Search.untried, start]

theorem Keeps.length_of_start {owner : List (Option Nat)} {size : Nat} {t : Search}
    (h : Keeps (start owner size) t) : t.owner.length = size := by
  have hplaces : t.visited.length = size := by simpa [start] using h.places
  exact h.fits.trans hplaces

theorem augment_start_searches (edges : List (List Nat)) (i : Nat) {owner : List (Option Nat)}
    {size : Nat} (h : owner.length = size) : Searches edges i (edges.getD i []) (start owner size)
      (augment edges (size + 1) i (start owner size)) :=
  augment_searches edges (size + 1) i _ (fits_start h) (untried_start_lt owner size)

theorem augment_start_ends (edges : List (List Nat)) (i : Nat) {owner : List (Option Nat)} {size : Nat}
    (h : owner.length = size) : Ends edges (edges.getD i []) i (start owner size)
      (augment edges (size + 1) i (start owner size)) :=
  (augment_start_searches edges i h).ends (fits_start h) fun _ h => h

theorem placed_succ (n : Nat) (owner : List (Option Nat)) :
    placed (n + 1) owner = placed n owner + if some n ∈ owner then 1 else 0 := by
  simp [placed, List.range_succ, List.countP_append, List.countP_singleton]

theorem placed_congr {n : Nat} {owner other : List (Option Nat)}
    (h : ∀ i < n, (some i ∈ owner ↔ some i ∈ other)) : placed n owner = placed n other := by
  refine List.countP_congr fun i hi => ?_
  simpa using h i (List.mem_range.mp hi)

section
variable {edges : List (List Nat)} {size n : Nat} {owner : List (Option Nat)} {t : Search}

theorem IsPlacing.not_mem (h : IsPlacing edges size n owner) : some n ∉ owner := by
  intro hn
  obtain ⟨j, hj⟩ := List.getElem?_of_mem hn
  exact Nat.lt_irrefl n (h.lt j n hj)

/-- The pairs of owners whose places were tried. -/
def settled (owner : List (Option Nat)) (t : Search) : Finset (Nat × Nat) :=
  (pairs owner).filter fun p => t.Tried p.2

/-- The pairs of a matching whose places were not tried. -/
def untouched (M : Finset (Nat × Nat)) (t : Search) : Finset (Nat × Nat) :=
  M.filter fun p => ¬ t.Tried p.2

/-- A place that was tried in vain has an owner who has no untried choice. -/
theorem Failed.exists_owner {choices : List Nat} {j : Nat}
    (ht : Failed edges choices (start owner size) t) (hj : t.Tried j) (hlt : j < size) :
    ∃ k : Nat, owner[j]? = some (some k) ∧ ∀ m ∈ edges.getD k [], t.Tried m := by
  rcases ht.closed j hj with hs | hk
  · exact absurd (tried_start.mp hs) (Nat.not_le.mpr hlt)
  · exact hk

section
variable (hb : ∀ k : Nat, ∀ j ∈ edges.getD k [], j < size)
  (ht : Failed edges (edges.getD n []) (start owner size) t)
include hb ht

theorem tried_of_settled (h : IsPlacing edges size n owner) {p : Nat × Nat}
    (hp : p ∈ settled owner t) : ∀ m ∈ edges.getD p.1 [], t.Tried m := by
  obtain ⟨hp, hpt⟩ := Finset.mem_filter.mp hp
  have hown := mem_pairs.mp hp
  obtain ⟨k, hk, hc⟩ := ht.exists_owner hpt (hb p.1 p.2 (h.edge _ _ hown))
  rw [hown] at hk
  cases hk
  exact hc

theorem card_tried_le_settled {m : Nat} {M : Finset (Nat × Nat)} (hM : IsMatching edges m M) :
    (M.filter fun p => t.Tried p.2).card ≤ (settled owner t).card := by
  have hsub : (M.filter fun p => t.Tried p.2).image Prod.snd ⊆ (settled owner t).image Prod.snd := by
    intro j hj
    obtain ⟨p, hp, rfl⟩ := Finset.mem_image.mp hj
    obtain ⟨hp, hpt⟩ := Finset.mem_filter.mp hp
    obtain ⟨k, hk, _⟩ := ht.exists_owner hpt (hb p.1 p.2 (hM.edge p hp))
    exact Finset.mem_image.mpr ⟨(k, p.2), Finset.mem_filter.mpr ⟨mem_pairs.mpr hk, hpt⟩, rfl⟩
  rw [← Finset.card_image_of_injOn (hM.filter _).right_inj]
  exact (Finset.card_le_card hsub).trans Finset.card_image_le

/-- What a matching has beyond the tried places goes together with what is settled, and leaves out
item `n`, all of whose choices were tried. -/
theorem settled_union_untouched (h : IsPlacing edges size n owner) {M : Finset (Nat × Nat)}
    (hM : IsMatching edges (n + 1) M) : IsMatching edges n (settled owner t ∪ untouched M t) := by
  have hlast : ∀ p ∈ untouched M t, p.1 ≠ n := by
    intro p hp he
    obtain ⟨hp, hpt⟩ := Finset.mem_filter.mp hp
    exact hpt (ht.tried_choices p.2 (he ▸ hM.edge p hp))
  refine (h.isMatching.filter _).union ((hM.filter _).of_succ hlast) ?_ ?_
  · intro p hp q hq he
    obtain ⟨hq, hqt⟩ := Finset.mem_filter.mp hq
    exact hqt (tried_of_settled hb ht h hp q.2 (he ▸ hM.edge q hq))
  · intro p hp q hq he
    exact (Finset.mem_filter.mp hq).2 (he ▸ (Finset.mem_filter.mp hp).2)

/-- After a failed search for item `n`, a matching with it can be traded for one without it that is
as large. -/
theorem IsBest.trade (h : IsBest edges size n owner) {M : Finset (Nat × Nat)}
    (hM : IsMatching edges (n + 1) M) : M.card ≤ placed n owner := by
  have hdisj : Disjoint (settled owner t) (untouched M t) := by
    refine Finset.disjoint_left.mpr fun p hp hq => ?_
    exact (Finset.mem_filter.mp hq).2 (Finset.mem_filter.mp hp).2
  have hsplit := Finset.card_filter_add_card_filter_not (s := M) (fun p => t.Tried p.2)
  calc M.card = (M.filter fun p => t.Tried p.2).card + (untouched M t).card := hsplit.symm
    _ ≤ (settled owner t).card + (untouched M t).card :=
        Nat.add_le_add_right (card_tried_le_settled hb ht hM) _
    _ = (settled owner t ∪ untouched M t).card := (Finset.card_union_of_disjoint hdisj).symm
    _ ≤ placed n owner := h.card_le _ (settled_union_untouched hb ht h.placing hM)

theorem IsBest.failed (h : IsBest edges size n owner) : IsBest edges size (n + 1) t.owner := by
  have hown : t.owner = owner := ht.owner_eq
  rw [hown]
  have hp := h.placing
  refine ⟨⟨hp.length_eq, fun j k hk => Nat.lt_succ_of_lt (hp.lt j k hk), hp.edge, hp.once⟩, ?_⟩
  intro M hM
  rw [placed_succ, if_neg hp.not_mem]
  exact IsBest.trade hb ht h hM

end

theorem IsBest.found (h : IsBest edges size n owner) (hk : Keeps (start owner size) t)
    (ht : Found edges n (start owner size) t) : IsBest edges size (n + 1) t.owner := by
  have hp := h.placing
  have hcount : ∀ l, t.owner.count (some l) = owner.count (some l) + if l = n then 1 else 0 :=
    ht.count_owner
  have hzero : owner.count (some n) = 0 := List.count_eq_zero.mpr hp.not_mem
  have hold : ∀ l, l ≠ n → (some l ∈ t.owner ↔ some l ∈ owner) := fun l hl => ht.mem_owner_iff hl
  have hnew : some n ∈ t.owner := by
    rw [← List.count_pos_iff, hcount n, if_pos rfl]
    exact Nat.succ_pos _
  have hplaced : placed (n + 1) t.owner = placed n owner + 1 := by
    rw [placed_succ, if_pos hnew, placed_congr fun l hl => hold l (Nat.ne_of_lt hl)]
  refine ⟨⟨hk.length_of_start, ?_, ?_, ?_⟩, ?_⟩
  · intro j k hj
    by_cases hkn : k = n
    · omega
    · obtain ⟨m, hm⟩ := List.getElem?_of_mem ((hold k hkn).mp (List.mem_of_getElem? hj))
      exact Nat.lt_succ_of_lt (hp.lt m k hm)
  · intro j k hj
    rcases ht.along j k hj with h | h
    · exact hp.edge j k h
    · exact h
  · intro l
    rw [hcount l]
    by_cases hl : l = n
    · rw [hl, hzero, if_pos rfl]
    · rw [if_neg hl]
      exact hp.once l
  · intro M hM
    rw [hplaced]
    have hM₀ := (hM.filter _).of_succ fun p hp => (Finset.mem_filter.mp hp).2
    exact hM.card_le_succ.trans (Nat.add_le_add_right (h.card_le _ hM₀) 1)

end

/-! ## All items -/

theorem owners_append (edges : List (List Nat)) (size i : Nat) : ∀ (items : List Nat)
    (owner : List (Option Nat)), owners edges size (items ++ [i]) owner =
      (augment edges (size + 1) i (start (owners edges size items owner) size)).2.owner
  | [], _ => rfl
  | _ :: items, _ => owners_append edges size i items _

theorem owners_best {edges : List (List Nat)} {size : Nat}
    (hb : ∀ k : Nat, ∀ j ∈ edges.getD k [], j < size) (n : Nat) :
    IsBest edges size n (owners edges size (List.range n) (List.replicate size none)) := by
  induction n with
  | zero =>
    have hnone : ∀ j k : Nat, (List.replicate size (none : Option Nat))[j]? ≠ some (some k) := by
      intro j k h
      simp [List.getElem?_replicate] at h
    refine ⟨⟨by simp [owners], ?_, ?_, ?_⟩, ?_⟩
    · exact fun j k h => absurd h (hnone j k)
    · exact fun j k h => absurd h (hnone j k)
    · intro k
      simp [owners, List.count_replicate]
    · intro M hM
      have hM₀ : M = ∅ := Finset.eq_empty_of_forall_notMem fun p hp => Nat.not_lt_zero _ (hM.lt p hp)
      simp [hM₀]
  | succ n ih =>
    rw [List.range_succ, owners_append]
    generalize owners edges size (List.range n) (List.replicate size none) = owner at ih ⊢
    have hends := augment_start_ends edges n ih.placing.length_eq
    cases hr : (augment edges (size + 1) n (start owner size)).1 with
    | false => exact IsBest.failed hb (hends.failed hr) ih
    | true => exact ih.found hends.keeps (hends.found hr)

theorem count_ofEdges (edges : List (List Nat)) (size : Nat) : count (ofEdges edges size) =
    placed edges.length (owners edges size (List.range edges.length) (List.replicate size none)) := by
  simp only [count, ofEdges, placed, List.countP_map]
  refine List.countP_congr fun i _ => ?_
  simp [List.isSome_idxOf?]

theorem card_le_count_ofEdges {edges : List (List Nat)} {size : Nat}
    (hb : ∀ k : Nat, ∀ j ∈ edges.getD k [], j < size) {M : Finset (Nat × Nat)}
    (hM : IsMatching edges edges.length M) : M.card ≤ count (ofEdges edges size) := by
  rw [count_ofEdges]
  exact (owners_best hb edges.length).card_le M hM

def graph (f : Nat → Nat) (n : Nat) : Finset (Nat × Nat) :=
  (Finset.range n).image fun i => (i, f i)

theorem card_graph (f : Nat → Nat) (n : Nat) : (graph f n).card = n := by
  rw [graph, Finset.card_image_of_injective _ fun i j h => congrArg Prod.fst h, Finset.card_range]

theorem isMatching_graph {edges : List (List Nat)} {n : Nat} {f : Nat → Nat}
    (hinj : Set.InjOn f {i | i < n}) (hf : ∀ i < n, f i ∈ edges.getD i []) :
    IsMatching edges n (graph f n) := by
  have hmem : ∀ p ∈ graph f n, p.1 < n ∧ p.2 = f p.1 := by
    intro p hp
    obtain ⟨i, hi, rfl⟩ := Finset.mem_image.mp hp
    exact ⟨Finset.mem_range.mp hi, rfl⟩
  constructor
  · exact fun p hp => (hmem p hp).1
  · intro p hp
    obtain ⟨hi, he⟩ := hmem p hp
    exact he ▸ hf p.1 hi
  · intro p hp q hq he
    exact Prod.ext he (by rw [(hmem p hp).2, (hmem q hq).2, he])
  · intro p hp q hq he
    obtain ⟨hi, hpe⟩ := hmem p hp
    obtain ⟨hj, hqe⟩ := hmem q hq
    rw [hpe, hqe] at he
    exact Prod.ext (hinj hi hj he) (by rw [hpe, hqe, he])

/-- All items are assigned exactly if they can have distinct choices. -/
theorem length_le_count_ofEdges_iff {edges : List (List Nat)} {size : Nat}
    (hb : ∀ k : Nat, ∀ j ∈ edges.getD k [], j < size) :
    edges.length ≤ count (ofEdges edges size) ↔
      ∃ f : Nat → Nat, Set.InjOn f {i | i < edges.length} ∧
        ∀ i < edges.length, f i ∈ edges.getD i [] := by
  constructor
  · intro h
    have hp := (owners_best hb edges.length).placing
    rw [count_ofEdges] at h
    generalize owners edges size (List.range edges.length) (List.replicate size none) = owner at hp h
    have hall : ∀ i ∈ List.range edges.length, some i ∈ owner := by
      have hle := List.countP_le_length (p := fun i => decide (some i ∈ owner))
        (l := List.range edges.length)
      rw [List.length_range] at hle
      have heq := Nat.le_antisymm hle h
      simpa using List.countP_eq_length.mp (heq.trans List.length_range.symm)
    have hplace : ∀ i : Nat, ∃ j : Nat, i < edges.length → owner[j]? = some (some i) := by
      intro i
      by_cases hi : i < edges.length
      · obtain ⟨j, hj⟩ := List.getElem?_of_mem (hall i (List.mem_range.mpr hi))
        exact ⟨j, fun _ => hj⟩
      · exact ⟨0, fun h => absurd h hi⟩
    choose f hf using hplace
    refine ⟨f, ?_, fun i hi => hp.edge _ _ (hf i hi)⟩
    intro i hi j hj he
    have hfi := hf i hi
    rw [he, hf j hj] at hfi
    cases hfi
    rfl
  · rintro ⟨f, hinj, hf⟩
    rw [← card_graph f edges.length]
    exact card_le_count_ofEdges hb (isMatching_graph hinj hf)

end Assignment
end RequestMatching
