import Mathlib.Order.Lattice.Nat
import RequestMatching.Proofs.Assignment.Placing

/-!
# The items that are assigned

An item that is placed stays placed, and it is placed exactly if the largest matchings of the items up
to it are larger than those of the items before it. So the items that are left out are told by the
sizes of matchings alone, and these do not change when choices are listed in another order or places
get other names.
-/

namespace RequestMatching

namespace Assignment

/-- Items are assigned choices of theirs, and no two of them the same. -/
structure IsAssignment (edges : List (List Nat)) (assignment : List (Option Nat)) : Prop where
  length_eq : assignment.length = edges.length
  edge : ∀ i j : Nat, assignment[i]? = some (some j) → j ∈ edges.getD i []
  once : ∀ i k j : Nat, assignment[i]? = some (some j) → assignment[k]? = some (some j) → i = k

/-- The size of the largest matchings of the first `n` items. -/
noncomputable def largest (edges : List (List Nat)) (n : Nat) : Nat :=
  sSup {m | ∃ M, IsMatching edges n M ∧ M.card = m}

def used (edges : List (List Nat)) : Set Nat :=
  {j | ∃ i : Nat, j ∈ edges.getD i []}

/-- The choices of each item are the same under other names, in whatever order they are listed. -/
structure Renames (f : Nat → Nat) (edges renamed : List (List Nat)) : Prop where
  length_eq : renamed.length = edges.length
  mem_iff : ∀ i m : Nat, m ∈ renamed.getD i [] ↔ ∃ j ∈ edges.getD i [], f j = m

/-! ## Sizes of matchings -/

theorem isMatching_empty (edges : List (List Nat)) (n : Nat) : IsMatching edges n ∅ := by
  constructor <;> simp

section
variable {edges : List (List Nat)} {n : Nat} {M : Finset (Nat × Nat)}

theorem IsMatching.card_le (h : IsMatching edges n M) : M.card ≤ n := by
  have hsub : M.image Prod.fst ⊆ Finset.range n := by
    intro i hi
    obtain ⟨p, hp, rfl⟩ := Finset.mem_image.mp hi
    exact Finset.mem_range.mpr (h.lt p hp)
  have hcard := Finset.card_le_card hsub
  rwa [Finset.card_image_of_injOn h.left_inj, Finset.card_range] at hcard

theorem isGreatest_largest (edges : List (List Nat)) (n : Nat) :
    IsGreatest {m | ∃ M, IsMatching edges n M ∧ M.card = m} (largest edges n) := by
  have hbounded : BddAbove {m | ∃ M, IsMatching edges n M ∧ M.card = m} := by
    refine ⟨n, ?_⟩
    rintro m ⟨M, hM, rfl⟩
    exact hM.card_le
  have hsome : {m | ∃ M, IsMatching edges n M ∧ M.card = m}.Nonempty :=
    ⟨0, ∅, isMatching_empty edges n, Finset.card_empty⟩
  exact ⟨Nat.sSup_mem hsome hbounded, fun m hm => le_csSup hbounded hm⟩

theorem IsMatching.card_le_largest (h : IsMatching edges n M) : M.card ≤ largest edges n :=
  (isGreatest_largest edges n).2 ⟨M, h, rfl⟩

/-- A matching is one under other names as well. -/
theorem IsMatching.rename {renamed : List (List Nat)} {f : Nat → Nat}
    (hinj : Set.InjOn f (used edges)) (hf : Renames f edges renamed) (h : IsMatching edges n M) :
    IsMatching renamed n (M.image fun p => (p.1, f p.2)) where
  lt := by
    intro q hq
    obtain ⟨p, hp, rfl⟩ := Finset.mem_image.mp hq
    exact h.lt p hp
  edge := by
    intro q hq
    obtain ⟨p, hp, rfl⟩ := Finset.mem_image.mp hq
    exact (hf.mem_iff p.1 (f p.2)).mpr ⟨p.2, h.edge p hp, rfl⟩
  left_inj := by
    intro q hq r hr he
    obtain ⟨p, hp, rfl⟩ := Finset.mem_image.mp hq
    obtain ⟨p', hp', rfl⟩ := Finset.mem_image.mp hr
    rw [h.left_inj hp hp' he]
  right_inj := by
    intro q hq r hr he
    obtain ⟨p, hp, rfl⟩ := Finset.mem_image.mp hq
    obtain ⟨p', hp', rfl⟩ := Finset.mem_image.mp hr
    have hsame : p.2 = p'.2 := hinj ⟨p.1, h.edge p hp⟩ ⟨p'.1, h.edge p' hp'⟩ he
    rw [h.right_inj hp hp' hsame]

theorem IsMatching.card_rename (h : IsMatching edges n M) (f : Nat → Nat) :
    (M.image fun p => (p.1, f p.2)).card = M.card := by
  refine Finset.card_image_of_injOn ?_
  intro p hp p' hp' he
  exact h.left_inj hp hp' (Prod.mk.inj he).1

end

section
variable {edges renamed : List (List Nat)} {f : Nat → Nat}

theorem largest_le_renamed (hinj : Set.InjOn f (used edges)) (hf : Renames f edges renamed) (n : Nat) :
    largest edges n ≤ largest renamed n := by
  obtain ⟨M, hM, hcard⟩ := (isGreatest_largest edges n).1
  rw [← hcard, ← hM.card_rename f]
  exact (hM.rename hinj hf).card_le_largest

/-- Names that tell the places apart can be taken back. -/
theorem Renames.exists_back (hinj : Set.InjOn f (used edges)) (hf : Renames f edges renamed) :
    ∃ g : Nat → Nat, Set.InjOn g (used renamed) ∧ Renames g renamed edges := by
  have hback : ∀ j ∈ used edges, Function.invFunOn f (used edges) (f j) = j :=
    fun j hj => hinj.leftInvOn_invFunOn hj
  refine ⟨Function.invFunOn f (used edges), ?_, hf.length_eq.symm, ?_⟩
  · rintro m ⟨i, hm⟩ m' ⟨i', hm'⟩ he
    obtain ⟨j, hj, rfl⟩ := (hf.mem_iff i m).mp hm
    obtain ⟨j', hj', rfl⟩ := (hf.mem_iff i' m').mp hm'
    rw [hback j ⟨i, hj⟩, hback j' ⟨i', hj'⟩] at he
    rw [he]
  · intro i j
    constructor
    · intro hj
      exact ⟨f j, (hf.mem_iff i (f j)).mpr ⟨j, hj, rfl⟩, hback j ⟨i, hj⟩⟩
    · rintro ⟨m, hm, rfl⟩
      obtain ⟨j, hj, rfl⟩ := (hf.mem_iff i m).mp hm
      rwa [hback j ⟨i, hj⟩]

theorem largest_renamed (hinj : Set.InjOn f (used edges)) (hf : Renames f edges renamed) (n : Nat) :
    largest renamed n = largest edges n := by
  obtain ⟨g, hg, hback⟩ := hf.exists_back hinj
  exact Nat.le_antisymm (largest_le_renamed hg hback n) (largest_le_renamed hinj hf n)

end

/-! ## Items that are placed -/

theorem card_range_filter (n : Nat) (owner : List (Option Nat)) :
    ((Finset.range n).filter fun i => some i ∈ owner).card = placed n owner := by
  induction n with
  | zero => rfl
  | succ n ih =>
    rw [Finset.range_add_one, Finset.filter_insert, placed_succ, ← ih]
    by_cases hn : some n ∈ owner
    · rw [if_pos hn, if_pos hn, Finset.card_insert_of_notMem (by simp)]
    · rw [if_neg hn, if_neg hn, Nat.add_zero]

theorem IsPlacing.card_pairs {edges : List (List Nat)} {size n : Nat} {owner : List (Option Nat)}
    (h : IsPlacing edges size n owner) : (pairs owner).card = placed n owner := by
  have hfirst : (pairs owner).image Prod.fst = (Finset.range n).filter fun i => some i ∈ owner := by
    ext i
    rw [Finset.mem_image, Finset.mem_filter, Finset.mem_range]
    constructor
    · rintro ⟨p, hp, rfl⟩
      exact ⟨h.lt p.2 p.1 (mem_pairs.mp hp), List.mem_of_getElem? (mem_pairs.mp hp)⟩
    · rintro ⟨-, hi⟩
      obtain ⟨j, hj⟩ := List.getElem?_of_mem hi
      exact ⟨(i, j), mem_pairs.mpr hj, rfl⟩
  rw [← card_range_filter, ← hfirst, Finset.card_image_of_injOn h.isMatching.left_inj]

theorem IsBest.placed_eq {edges : List (List Nat)} {size n : Nat} {owner : List (Option Nat)}
    (h : IsBest edges size n owner) : placed n owner = largest edges n := by
  obtain ⟨M, hM, hcard⟩ := (isGreatest_largest edges n).1
  refine Nat.le_antisymm ?_ (hcard ▸ h.card_le M hM)
  rw [← h.placing.card_pairs]
  exact h.placing.isMatching.card_le_largest

/-- The owners after the first `n` items have been placed. -/
def ownersUpTo (edges : List (List Nat)) (size n : Nat) : List (Option Nat) :=
  owners edges size (List.range n) (List.replicate size none)

theorem ownersUpTo_succ (edges : List (List Nat)) (size n : Nat) : ownersUpTo edges size (n + 1) =
    (augment edges (size + 1) n (start (ownersUpTo edges size n) size)).2.owner := by
  rw [ownersUpTo, List.range_succ, owners_append]
  rfl

section
variable {edges : List (List Nat)} {size : Nat} (hb : ∀ k : Nat, ∀ j ∈ edges.getD k [], j < size)
include hb

theorem length_ownersUpTo (n : Nat) : (ownersUpTo edges size n).length = size :=
  (owners_best hb n).placing.length_eq

/-- The step: only the item that is placed next can gain a place, and none loses one. -/
theorem mem_ownersUpTo_succ {n i : Nat} (hi : i ≠ n) :
    some i ∈ ownersUpTo edges size (n + 1) ↔ some i ∈ ownersUpTo edges size n := by
  have hends := augment_start_ends edges n (length_ownersUpTo hb n)
  rw [ownersUpTo_succ]
  cases hr : (augment edges (size + 1) n (start (ownersUpTo edges size n) size)).1 with
  | false => rw [(hends.failed hr).owner_eq, start]
  | true => exact (hends.found hr).mem_owner_iff hi

/-- The run: whether an item has a place is settled when its turn is over. -/
theorem mem_ownersUpTo {n i : Nat} (hi : i < n) :
    some i ∈ ownersUpTo edges size n ↔ some i ∈ ownersUpTo edges size (i + 1) := by
  induction n with
  | zero => exact absurd hi (Nat.not_lt_zero i)
  | succ n ih =>
    by_cases hlast : i = n
    · rw [hlast]
    · rw [mem_ownersUpTo_succ hb hlast]
      exact ih (by omega)

theorem largest_succ (n : Nat) : largest edges (n + 1) =
    largest edges n + if some n ∈ ownersUpTo edges size (n + 1) then 1 else 0 := by
  have hsame : placed n (ownersUpTo edges size (n + 1)) = placed n (ownersUpTo edges size n) :=
    placed_congr fun i hi => mem_ownersUpTo_succ hb (Nat.ne_of_lt hi)
  calc largest edges (n + 1)
      = placed (n + 1) (ownersUpTo edges size (n + 1)) := (owners_best hb (n + 1)).placed_eq.symm
    _ = placed n (ownersUpTo edges size (n + 1)) +
          if some n ∈ ownersUpTo edges size (n + 1) then 1 else 0 := placed_succ n _
    _ = largest edges n + if some n ∈ ownersUpTo edges size (n + 1) then 1 else 0 := by
        rw [hsame, ownersUpTo, (owners_best hb n).placed_eq]

end

/-! ## What is assigned -/

section
variable {edges : List (List Nat)} {size : Nat}

theorem getElem?_ofEdges (edges : List (List Nat)) (size i : Nat) (hi : i < edges.length) :
    (ofEdges edges size)[i]? = some ((ownersUpTo edges size edges.length).idxOf? (some i)) := by
  simp [ofEdges, ownersUpTo, hi]

theorem isSome_ofEdges {i : Nat} (hi : i < edges.length) :
    ((ofEdges edges size).getD i none).isSome = true ↔
      some i ∈ ownersUpTo edges size edges.length := by
  rw [List.getD_eq_getElem?_getD, getElem?_ofEdges edges size i hi, Option.getD_some,
    List.isSome_idxOf?]

theorem length_ofEdges (edges : List (List Nat)) (size : Nat) :
    (ofEdges edges size).length = edges.length := by
  simp [ofEdges]

theorem map_isSome_ofEdges (edges : List (List Nat)) (size : Nat) :
    (ofEdges edges size).map (·.isSome) = (List.range edges.length).map fun i =>
      decide (some i ∈ ownersUpTo edges size edges.length) := by
  simp only [ofEdges, List.map_map]
  refine List.map_congr_left fun i _ => ?_
  rw [Function.comp_apply, Bool.eq_iff_iff, List.isSome_idxOf?, decide_eq_true_iff, ownersUpTo]

section
variable (hb : ∀ k : Nat, ∀ j ∈ edges.getD k [], j < size)
include hb

theorem ofEdges_eq_some_iff {i j : Nat} : (ofEdges edges size)[i]? = some (some j) ↔
    (ownersUpTo edges size edges.length)[j]? = some (some i) := by
  have hp : IsPlacing edges size edges.length (ownersUpTo edges size edges.length) :=
    (owners_best hb edges.length).placing
  by_cases hi : i < edges.length
  · rw [getElem?_ofEdges edges size i hi, Option.some_inj, List.idxOf?_eq_some_iff,
      List.getElem?_eq_some_iff]
    constructor
    · exact fun ⟨hj, howner, _⟩ => ⟨hj, howner⟩
    · rintro ⟨hj, howner⟩
      refine ⟨hj, howner, fun k hk hsame => Nat.ne_of_lt hk ?_⟩
      have hklt : k < (ownersUpTo edges size edges.length).length := Nat.lt_trans hk hj
      exact place_unique (hp.once i) (List.getElem?_eq_some_iff.mpr ⟨hklt, hsame⟩)
        (List.getElem?_eq_some_iff.mpr ⟨hj, howner⟩)
  · have hnone : (ofEdges edges size)[i]? = none := by
      rw [List.getElem?_eq_none_iff, length_ofEdges]
      exact Nat.le_of_not_lt hi
    rw [hnone]
    exact ⟨nofun, fun h => absurd (hp.lt j i h) hi⟩

theorem ofEdges_isAssignment : IsAssignment edges (ofEdges edges size) where
  length_eq := length_ofEdges edges size
  edge i j h :=
    (owners_best hb edges.length).placing.edge j i ((ofEdges_eq_some_iff hb).mp h)
  once i k j hi hk := by
    rw [ofEdges_eq_some_iff hb] at hi hk
    rw [hi] at hk
    cases hk
    rfl

theorem mem_ownersUpTo_iff_lt {i : Nat} (hi : i < edges.length) :
    some i ∈ ownersUpTo edges size edges.length ↔ largest edges i < largest edges (i + 1) := by
  rw [mem_ownersUpTo hb hi, largest_succ hb]
  by_cases hplaced : some i ∈ ownersUpTo edges size (i + 1)
  · simp [hplaced]
  · simp [hplaced]

theorem count_ofEdges_eq_largest : count (ofEdges edges size) = largest edges edges.length := by
  rw [count_ofEdges]
  exact (owners_best hb edges.length).placed_eq

end

theorem lt_of_mem_getD (hb : ∀ choices ∈ edges, ∀ j ∈ choices, j < size) (k : Nat) :
    ∀ j ∈ edges.getD k [], j < size := by
  intro j hj
  rw [List.getD_eq_getElem?_getD] at hj
  cases hk : edges[k]? with
  | none => simp [hk] at hj
  | some choices =>
    rw [hk, Option.getD_some] at hj
    exact hb choices (List.mem_of_getElem? hk) j hj

/-- Placing the items comes to an end, and the assignment is read off the owners. It is a matching, and
it leaves out the items that do not make the largest matchings larger, whatever the order and the names
of the choices are. -/
theorem ofEdges_largest (hb : ∀ choices ∈ edges, ∀ j ∈ choices, j < size) :
    (∃ owner, (∀ final, Places edges size (List.range edges.length) (List.replicate size none) final ↔
        final = owner) ∧
      ∀ i j : Nat, (ofEdges edges size)[i]? = some (some j) ↔ owner[j]? = some (some i)) ∧
    IsAssignment edges (ofEdges edges size) ∧
    (∀ i < edges.length, ((ofEdges edges size).getD i none).isSome = true ↔
      largest edges i < largest edges (i + 1)) ∧
    count (ofEdges edges size) = largest edges edges.length ∧
    ∀ (f : Nat → Nat) (renamed : List (List Nat)) (places : Nat), Set.InjOn f (used edges) →
      Renames f edges renamed → (∀ choices ∈ renamed, ∀ j ∈ choices, j < places) →
      (ofEdges renamed places).map (·.isSome) = (ofEdges edges size).map (·.isSome) := by
  have hlt := lt_of_mem_getD hb
  refine ⟨⟨ownersUpTo edges size edges.length, fun final => ?_, fun i j => ofEdges_eq_some_iff hlt⟩,
    ofEdges_isAssignment hlt, fun i hi => ?_, count_ofEdges_eq_largest hlt, ?_⟩
  · exact places_iff List.length_replicate
  · rw [isSome_ofEdges hi, mem_ownersUpTo_iff_lt hlt hi]
  · intro f renamed places hinj hf hrenamed
    have hlt' := lt_of_mem_getD hrenamed
    rw [map_isSome_ofEdges, map_isSome_ofEdges, hf.length_eq]
    refine List.map_congr_left fun i hi => ?_
    have hi : i < edges.length := List.mem_range.mp hi
    have hi' : i < renamed.length := hf.length_eq ▸ hi
    rw [decide_eq_decide, ← hf.length_eq, mem_ownersUpTo_iff_lt hlt' hi', hf.length_eq,
      mem_ownersUpTo_iff_lt hlt hi, largest_renamed hinj hf, largest_renamed hinj hf]

end

/-- The second of three items makes the first one move, and nothing is left for the third. It is the
same if the places are called 1 and 2 and the first item lists them the other way round. -/
theorem ofEdges_largest_of_three :
    (∀ choices ∈ [[0, 1], [0], [0]], ∀ j ∈ choices, j < 2) ∧
      ofEdges [[0, 1], [0], [0]] 2 = [some 1, some 0, none] ∧
      largest [[0, 1], [0], [0]] 1 < largest [[0, 1], [0], [0]] 2 ∧
      ¬ largest [[0, 1], [0], [0]] 2 < largest [[0, 1], [0], [0]] 3 ∧
      (ofEdges [[2, 1], [1], [1]] 3).map (·.isSome) = [true, true, false] := by
  have hb : ∀ choices ∈ [[0, 1], [0], [0]], ∀ j ∈ choices, j < 2 := by decide
  have hassigned : ofEdges [[0, 1], [0], [0]] 2 = [some 1, some 0, none] := by decide
  obtain ⟨-, -, hgrows, -, hrenamed⟩ := ofEdges_largest hb
  have hnames : Renames Nat.succ [[0, 1], [0], [0]] [[2, 1], [1], [1]] := by
    refine ⟨rfl, fun i m => ?_⟩
    rcases i with _ | _ | _ | i <;> simp [eq_comm, or_comm]
  refine ⟨hb, hassigned, (hgrows 1 (by decide)).mp (by decide), fun h => ?_, ?_⟩
  · exact absurd ((hgrows 2 (by decide)).mpr h) (by decide)
  · rw [hrenamed Nat.succ _ 3 (fun _ _ _ _ => Nat.succ.inj) hnames (by decide), hassigned]
    rfl

end Assignment
end RequestMatching
