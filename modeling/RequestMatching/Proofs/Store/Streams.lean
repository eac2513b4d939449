import RequestMatching.Proofs.Store.Refinement

/-!
# Streams beside changes

A stream of a store is read while the store goes through changes of any kind. Its calls visit the keys
that were in the priority order at the start, one after the other: a call passes over those that are
not in that order at its moment and ends at the first one that is, with the value that it has then.
-/

namespace RequestMatching

namespace Store

/-- What can happen while a stream is read. -/
inductive Move (K V : Type) where
  | next
  | change (op : Op K V)

/-- The keys that one call of `next` passes over, and the entry at which it ends unless the keys do. -/
structure Visit (K V : Type) where
  passed : List K
  found : Option (Listed K V)

namespace Visit

variable {K V : Type}

def keys (v : Visit K V) : List K :=
  v.passed ++ (v.found.map (·.key)).toList

def value? (v : Visit K V) : Option V :=
  v.found.map (·.value)

/-- A visit deals with its keys as a roster has them. -/
structure Fits (v : Visit K V) (l : Roster K V) : Prop where
  passed : ∀ r ∈ l, r.key ∈ v.passed → r.ranked = false
  found : ∀ r, v.found = some r → r ∈ l ∧ r.ranked = true

theorem fits_none (l : Roster K V) : Fits ⟨[], none⟩ l where
  passed _ _ hmem := absurd hmem List.not_mem_nil
  found _ hfound := absurd hfound.symm (Option.some_ne_none _)

theorem fits_some {l : Roster K V} {r : Listed K V} (hr : r ∈ l) (hmarked : r.ranked = true) :
    Fits ⟨[], some r⟩ l where
  passed _ _ hmem := absurd hmem List.not_mem_nil
  found _ hfound := Option.some.inj hfound ▸ ⟨hr, hmarked⟩

end Visit

section
variable {K V P : Type} [DecidableEq K] [Ord P]

/-- What the calls of `next` give, in turn, and the keys that are left after them. -/
def read (s : Store K V P) (stream : List K) : List (Move K V) → List (Option V) × List K
  | [] => ([], stream)
  | .next :: moves =>
    ((s.next stream).1 :: (s.read (s.next stream).2 moves).1, (s.read (s.next stream).2 moves).2)
  | .change op :: moves => (s.apply op).2.read stream moves

end

end Store

namespace Roster

variable {K V P : Type}

/-- The keys of the marked entries, those of lower priority first and others as they stand. -/
def keysByPriority [Ord P] (priorityOf : V → P) (l : Roster K V) : List K :=
  ((l.filter (·.ranked)).mergeSort fun a b =>
    (compare (priorityOf a.value) (priorityOf b.value)).isLE).map (·.key)

/-- The entries are under the keys of their values. -/
def Keyed (keyOf : V → K) (l : Roster K V) : Prop :=
  ∀ r ∈ l, keyOf r.value = r.key

variable [DecidableEq K]

/-- The rosters that the calls of `next` come upon. -/
def atCalls (capacity : Nat) (keyOf : V → K) (l : Roster K V) : List (Store.Move K V) → List (Roster K V)
  | [] => []
  | .next :: moves => l :: l.atCalls capacity keyOf moves
  | .change op :: moves => (l.apply capacity keyOf op).2.atCalls capacity keyOf moves

/-! ## Values under their keys -/

section
variable {keyOf : V → K} {l : Roster K V} {capacity : Nat}

theorem Keyed.change (h : l.Keyed keyOf) {key : K} {f : Listed K V → Listed K V}
    (hf : ∀ r ∈ l, r.key = key → keyOf (f r).value = (f r).key) : (l.change key f).Keyed keyOf := by
  intro r' hr'
  obtain ⟨r, hr, rfl⟩ := List.mem_map.mp hr'
  by_cases hk : r.key = key
  · rw [if_pos hk]
    exact hf r hr hk
  · rw [if_neg hk]
    exact h r hr

omit [DecidableEq K] in
theorem Keyed.push (h : l.Keyed keyOf) (value : V) :
    (l.push capacity (keyOf value) value).2.Keyed keyOf := by
  have hlonger : Keyed keyOf (l ++ [⟨keyOf value, value, true⟩]) := by
    intro r hr
    rcases List.mem_append.mp hr with hr | hr
    · exact h r hr
    · rw [List.mem_singleton.mp hr]
  simp only [Roster.push]
  split
  · exact hlonger
  · exact fun r hr => hlonger r (List.mem_of_mem_tail hr)

theorem Keyed.add (h : l.Keyed keyOf) (value : V) : (l.add capacity keyOf value).2.Keyed keyOf := by
  unfold Roster.add
  split
  · exact h
  · split
    · exact h.change fun r _ hk => hk.symm
    · exact h.push value

theorem Keyed.apply (h : l.Keyed keyOf) (op : Store.Op K V) : (l.apply capacity keyOf op).2.Keyed keyOf := by
  have hfilter : ∀ key, Keyed keyOf (l.filter fun r => r.key ≠ key) :=
    fun _ r hr => h r (List.mem_of_mem_filter hr)
  cases op with
  | add value => exact h.add value
  | remove value => exact hfilter _
  | removeKey key => exact hfilter key
  | unrank key | rerank key => exact h.change fun r hr _ => h r hr
  | clear => exact fun r hr => absurd hr List.not_mem_nil

theorem Keyed.run (ops : List (Store.Op K V)) : ∀ {l : Roster K V}, l.Keyed keyOf →
    (l.run capacity keyOf ops).2.Keyed keyOf := by
  induction ops with
  | nil => exact fun h => h
  | cons op ops ih => exact fun h => ih (h.apply op)

theorem Keyed.atCalls (moves : List (Store.Move K V)) : ∀ {l : Roster K V}, l.Keyed keyOf →
    ∀ l' ∈ l.atCalls capacity keyOf moves, l'.Keyed keyOf := by
  induction moves with
  | nil => exact fun _ _ hl => absurd hl List.not_mem_nil
  | cons move moves ih =>
    intro l h l' hl
    cases move with
    | next =>
      rcases List.mem_cons.mp hl with rfl | hl
      · exact h
      · exact ih h l' hl
    | change op => exact ih (h.apply op) l' hl

end

end Roster

namespace Store

variable {K V P : Type} [DecidableEq K] [Ord P] {s : Store K V P}

/-! ## One call -/

theorem Coherent.slot?_of_mem (h : Coherent s) {r : Listed K V} (hr : r ∈ s.roster) :
    ∃ slot, s.slot? r.key = some slot ∧ r = listed (r.key, slot) := by
  obtain ⟨e, he, rfl⟩ := List.mem_map.mp hr
  exact ⟨e.2, lookup_of_mem h.nodup he, rfl⟩

theorem Coherent.not_ranked (h : Coherent s) {key : K}
    (hkey : ∀ slot, s.slot? key = some slot → slot.ranked = false) :
    ∀ r ∈ s.roster, r.key = key → r.ranked = false := by
  intro r hr hk
  obtain ⟨slot, hslot, hlisted⟩ := h.slot?_of_mem hr
  rw [hlisted]
  exact hkey slot (hk ▸ hslot)

omit [Ord P] in
theorem mem_roster_of_slot? {key : K} {slot : Slot K V P} (hs : s.slot? key = some slot) :
    listed (key, slot) ∈ s.roster := by
  refine List.mem_of_find?_eq_some (p := fun r => r.key = key) ?_
  rw [roster_find?, hs]
  rfl

/-- A call visits the first keys of the stream, all of them if it finds nothing. -/
theorem Coherent.next_visit (h : Coherent s) (stream : List K) :
    ∃ v : Visit K V, (s.next stream).1 = v.value? ∧ v.keys ++ (s.next stream).2 = stream ∧
      v.Fits s.roster ∧ (v.found = none → (s.next stream).2 = []) := by
  induction stream with
  | nil => exact ⟨⟨[], none⟩, rfl, rfl, Visit.fits_none _, fun _ => rfl⟩
  | cons key rest ih =>
    obtain ⟨v, hvalue, hkeys, hfits, hend⟩ := ih
    have hskip : (∀ slot, s.slot? key = some slot → slot.ranked = false) →
        Visit.Fits ⟨key :: v.passed, v.found⟩ s.roster := fun hkey =>
      { passed := fun r hr hmem => (List.mem_cons.mp hmem).elim (h.not_ranked hkey r hr)
          (hfits.passed r hr)
        found := hfits.found }
    have hcons : Visit.keys ⟨key :: v.passed, v.found⟩ ++ (s.next rest).2 = key :: rest :=
      congrArg (key :: ·) hkeys
    cases hs : s.slot? key with
    | none =>
      simp only [next, hs]
      exact ⟨⟨key :: v.passed, v.found⟩, hvalue, hcons, hskip (by simp [hs]), hend⟩
    | some slot =>
      cases hr : slot.ranked with
      | false =>
        simp only [next, hs, hr, Bool.false_eq_true, if_false]
        exact ⟨⟨key :: v.passed, v.found⟩, hvalue, hcons, hskip (by simp [hs, hr]), hend⟩
      | true =>
        simp only [next, hs, hr, if_true]
        exact ⟨⟨[], some (listed (key, slot))⟩, rfl, rfl, Visit.fits_some (mem_roster_of_slot? hs) hr,
          fun hnone => absurd hnone (Option.some_ne_none _)⟩

/-! ## Calls between changes -/

theorem read_nil (moves : List (Move K V)) : ∀ s : Store K V P, (s.read [] moves).2 = [] := by
  induction moves with
  | nil => exact fun _ => rfl
  | cons move moves ih =>
    intro s
    cases move with
    | next => exact ih s
    | change op => exact ih _

variable [Std.TransOrd P]

/-- The calls visit the keys of the stream in their order, each of them at the roster of its moment. -/
theorem Coherent.read_visits (moves : List (Move K V)) : ∀ {s : Store K V P}, Coherent s →
    ∀ stream : List K, ∃ visits : List (Visit K V),
      (s.read stream moves).1 = visits.map (·.value?) ∧
        visits.flatMap (·.keys) ++ (s.read stream moves).2 = stream ∧
        List.Forall₂ Visit.Fits visits (s.roster.atCalls s.capacity s.keyOf moves) ∧
        ∀ v ∈ visits, v.found = none → (s.read stream moves).2 = [] := by
  -- for every store and stream: a call takes from the stream alone, a change from the store alone
  induction moves with
  | nil => exact fun _ _ => ⟨[], rfl, rfl, .nil, nofun⟩
  | cons move moves ih =>
    intro s h stream
    cases move with
    | next =>
      obtain ⟨v, hvalue, hkeys, hfits, hend⟩ := h.next_visit stream
      obtain ⟨visits, hvalues, hmore, hall, hends⟩ := ih h (s.next stream).2
      refine ⟨v :: visits, ?_, ?_, .cons hfits hall, ?_⟩
      · rw [read, List.map_cons, hvalue, hvalues]
      · rw [read, List.flatMap_cons, List.append_assoc, hmore, hkeys]
      · intro w hw hnone
        rcases List.mem_cons.mp hw with rfl | hw
        · rw [read, hend hnone, read_nil]
        · exact hends w hw hnone
    | change op =>
      have hstep := h.apply op
      obtain ⟨visits, hvalues, hmore, hall, hends⟩ := ih hstep.coherent stream
      have hrules := s.apply_rules op
      rw [show (s.apply op).2.capacity = s.capacity from congrArg (·.1) hrules,
        show (s.apply op).2.keyOf = s.keyOf from congrArg (·.2.1) hrules, hstep.roster_eq] at hall
      exact ⟨visits, hvalues, hmore, hall, hends⟩

/-! ## The start of a stream -/

omit [DecidableEq K] in
theorem Coherent.stream_eq (h : Coherent s) : s.stream = s.roster.keysByPriority s.priorityOf := by
  have hroster : s.roster.filter (·.ranked) = (marked s.slots).map listed := by
    rw [roster, List.filter_map]
    rfl
  have hkeys : ∀ e ∈ (marked s.slots).mergeSort notAfter, e.2.rank.key = e.1 := fun e he =>
    (h.placed e (List.mem_of_mem_filter (List.mem_mergeSort.mp he))).1
  rw [Roster.keysByPriority, hroster, ← List.map_mergeSort (r := notAfter), stream, h.ranking_eq,
    List.map_map, List.map_map]
  · exact List.map_congr_left hkeys
  · intro a ha b hb
    rw [notAfter, Rank.notAfter, (h.placed a (List.mem_of_mem_filter ha)).2,
      (h.placed b (List.mem_of_mem_filter hb)).2]
    rfl

omit [DecidableEq K] [Ord P] [Std.TransOrd P] in
theorem keysByPriority_nodup [Ord P] (priorityOf : V → P) {l : Roster K V} (h : (l.map (·.key)).Nodup) :
    (l.keysByPriority priorityOf).Nodup := by
  have hperm := (List.mergeSort_perm (l.filter (·.ranked)) fun a b =>
    (compare (priorityOf a.value) (priorityOf b.value)).isLE).map (·.key)
  exact hperm.nodup_iff.mpr (h.sublist (List.filter_sublist.map _))

omit [DecidableEq K] in
theorem keys_sublist {keyOf : V → K} {rosters : List (Roster K V)} {visits : List (Visit K V)}
    (h : List.Forall₂ Visit.Fits visits rosters) (hkeyed : ∀ l ∈ rosters, l.Keyed keyOf) :
    ((visits.map (·.value?)).filterMap (Option.map keyOf)).Sublist (visits.flatMap (·.keys)) := by
  induction h with
  | nil => exact .slnil
  | @cons v l visits rosters hfits _ ih =>
    have hrest := ih fun l hl => hkeyed l (List.mem_cons_of_mem _ hl)
    rw [List.map_cons, List.flatMap_cons]
    cases hfound : v.found with
    | none =>
      rw [List.filterMap_cons_none (by simp [Visit.value?, hfound])]
      exact hrest.trans (List.sublist_append_right _ _)
    | some r =>
      have hkey : keyOf r.value = r.key := hkeyed l List.mem_cons_self r (hfits.found r hfound).1
      -- the key at which the visit ends is that of the value, as the roster of its moment has it
      have hlast : [r.key].Sublist v.keys := by simp [Visit.keys, hfound]
      rw [List.filterMap_cons_some (b := r.key) (by simp [Visit.value?, hfound, hkey])]
      exact hlast.append hrest

/-- Whatever happens between them, the calls on a stream visit the keys that the priority order had at
its start, in that order and each of them once at most: a visit passes over the keys that are not
there or not marked at its moment, and gives the value that stands under the first one that is. -/
theorem read_follows_start (capacity : Nat) (keyOf : V → K) (priorityOf : V → P) (ops : List (Op K V))
    (moves : List (Move K V)) :
    let start := (({ capacity, keyOf, priorityOf } : Store K V P).run ops).2
    let l := (Roster.run capacity keyOf [] ops).2
    let (answers, left) := start.read start.stream moves
    start.stream = l.keysByPriority priorityOf ∧ start.stream.Nodup ∧
      (answers.filterMap (Option.map keyOf)).Sublist start.stream ∧
      ∃ visits : List (Visit K V),
        answers = visits.map (·.value?) ∧
        start.stream = visits.flatMap (·.keys) ++ left ∧
        List.Forall₂ Visit.Fits visits (l.atCalls capacity keyOf moves) ∧
        ∀ v ∈ visits, v.found = none → left = [] := by
  intro start l
  obtain ⟨hfollows, hrules⟩ := Coherent.run ops (coherent_empty capacity keyOf priorityOf) rfl
  have hstart : Coherent start := hfollows.coherent
  have hroster : start.roster = l := hfollows.roster_eq
  have hstream := hstart.stream_eq
  rw [hroster, show start.priorityOf = priorityOf from congrArg (·.2.2) hrules] at hstream
  obtain ⟨visits, hvalues, hkeys, hfits, hends⟩ := hstart.read_visits moves start.stream
  rw [hroster, show start.capacity = capacity from congrArg (·.1) hrules,
    show start.keyOf = keyOf from congrArg (·.2.1) hrules] at hfits
  have hkeyed : l.Keyed keyOf := Roster.Keyed.run ops nofun
  have hnodup : (l.map (·.key)).Nodup := hroster ▸ roster_keys start ▸ hstart.nodup
  refine ⟨hstream, hstream ▸ keysByPriority_nodup priorityOf hnodup, ?_, visits, hvalues, hkeys.symm,
    hfits, hends⟩
  rw [hvalues, ← hkeys]
  exact (keys_sublist hfits (hkeyed.atCalls moves)).trans (List.sublist_append_left _ _)

/-- Of three keys the first is given at once; the second is removed and comes back with another value,
which is given; the third is evicted before its turn. -/
theorem read_follows_start_of_three :
    let store : Store Nat (Nat × Nat) Nat := { capacity := 3, keyOf := Prod.fst, priorityOf := Prod.snd }
    let start := (store.run [.add (1, 5), .add (2, 3), .add (3, 4)]).2
    let moves : List (Move Nat (Nat × Nat)) :=
      [.next, .change (.removeKey 3), .change (.add (3, 9)), .change (.unrank 1), .next,
        .change (.rerank 1), .change (.add (4, 0)), .next]
    start.stream = [2, 3, 1] ∧
      start.read start.stream moves = ([some (2, 3), some (3, 9), none], []) ∧
      ((start.read start.stream moves).1.filterMap (Option.map Prod.fst)).Sublist start.stream := by
  intro store start moves
  refine ⟨by decide, by decide, ?_⟩
  exact (read_follows_start 3 Prod.fst (Prod.snd : Nat × Nat → Nat)
    [.add (1, 5), .add (2, 3), .add (3, 4)] moves).2.2.1

end Store
end RequestMatching
