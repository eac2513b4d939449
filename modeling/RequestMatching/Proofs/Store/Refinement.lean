import RequestMatching.Proofs.Store.Coherence
import RequestMatching.Proofs.Store.Roster

/-!
# The store as one list

Whatever a store goes through, it behaves as its roster. The streams of a store are the marked values
of the roster in a stable sort by priority.
-/

namespace RequestMatching

namespace Store

variable {K V P : Type}

def listed (e : K × Slot K V P) : Listed K V :=
  ⟨e.1, e.2.value, e.2.ranked⟩

/-- The list that a store stands for. -/
def roster (s : Store K V P) : Roster K V :=
  s.slots.map listed

/-! ## Reading the list -/

theorem size_eq (s : Store K V P) : s.size = s.roster.length := by
  simp [size, roster]

theorem roster_keys (s : Store K V P) : s.roster.map (·.key) = keys s.slots := by
  simp [roster, keys, listed]

variable [DecidableEq K]

theorem roster_find? (s : Store K V P) (key : K) : (s.roster.find? fun r => r.key = key) =
    (s.slot? key).map fun slot => listed (key, slot) := by
  simp only [roster, slot?]
  induction s.slots with
  | nil => rfl
  | cons e slots ih =>
    obtain ⟨k, slot⟩ := e
    by_cases hk : k = key
    · simp [hk, listed]
    · rw [List.lookup_cons, beq_false_of_ne (Ne.symm hk)]
      simpa [hk, listed] using ih

theorem get?_eq (s : Store K V P) (key : K) : s.get? key = s.roster.get? key := by
  rw [Store.get?, Roster.get?, roster_find?, Option.map_map]
  rfl

theorem hasKey_eq_isSome (l : Roster K V) (key : K) : l.hasKey key = (l.get? key).isSome := by
  rw [Roster.hasKey, ← List.isSome_find?, Roster.get?, Option.isSome_map]

theorem hasKey_eq (s : Store K V P) (key : K) : s.roster.hasKey key = (s.slot? key).isSome := by
  rw [hasKey_eq_isSome, ← get?_eq, get?, Option.isSome_map]

theorem Coherent.values_eq [Ord P] {s : Store K V P} (h : Coherent s) : s.values = s.roster.map (·.value) := by
  have hget : ∀ e ∈ s.slots, s.get? e.1 = some e.2.value := fun e he => by
    rw [get?, slot?, lookup_of_mem h.nodup he]
    rfl
  rw [values, h.queue_eq, keys, List.filterMap_map, roster, List.map_map, ← List.filterMap_eq_map]
  exact List.filterMap_congr hget

/-! ## The priority order -/

/-- The value of a key that takes part in the priority order. -/
def live (s : Store K V P) (key : K) : Option V :=
  match s.slot? key with
  | some slot => if slot.ranked then some slot.value else none
  | none => none

theorem next_eq (s : Store K V P) (stream : List K) :
    (s.next stream).1 = (stream.filterMap s.live).head? ∧
      (s.next stream).2.filterMap s.live = (stream.filterMap s.live).tail := by
  induction stream with
  | nil => exact ⟨rfl, rfl⟩
  | cons key rest ih =>
    cases hs : s.slot? key with
    | none => simpa [next, hs, live] using ih
    | some slot =>
      cases hr : slot.ranked with
      | false => simpa [next, hs, hr, live] using ih
      | true => simp [next, hs, hr, live]

theorem draw_eq (s : Store K V P) : ∀ (n : Nat) (stream : List K),
    s.draw n stream = (stream.filterMap s.live)[n]?
  | 0, stream => by rw [draw, (s.next_eq stream).1, List.head?_eq_getElem?]
  | n + 1, stream => by
    rw [draw, draw_eq s n, (s.next_eq stream).2, List.getElem?_tail]

def notAfter [Ord P] (a b : K × Slot K V P) : Bool :=
  a.2.rank.notAfter b.2.rank

variable [Ord P] {s : Store K V P}

theorem Coherent.live_eq (h : Coherent s) {e : K × Slot K V P} (he : e ∈ marked s.slots) :
    s.live e.2.rank.key = some e.2.value := by
  obtain ⟨he, hr⟩ := List.mem_filter.mp he
  rw [(h.placed e he).1, live, slot?, lookup_of_mem h.nodup he]
  exact if_pos hr

section
variable [Std.TransOrd P]

omit [DecidableEq K] in
theorem Coherent.ranking_eq (h : Coherent s) :
    s.ranking = ((marked s.slots).mergeSort notAfter).map (·.2.rank) := by
  have hsub : (marked s.slots).Sublist s.slots := List.filter_sublist
  have hinc : (ranks s.slots).Pairwise fun a b => a.sequence < b.sequence :=
    List.pairwise_map.mpr ((List.pairwise_map.mp h.increasing).sublist hsub)
  rw [Rank.eq_mergeSort h.perm h.ascending hinc]
  exact (List.map_mergeSort (r := notAfter) (f := (·.2.rank)) fun _ _ _ _ => rfl).symm

theorem Coherent.inPriorityOrder_eq (h : Coherent s) :
    s.inPriorityOrder = s.roster.byPriority s.priorityOf := by
  have hvalues : s.inPriorityOrder = ((marked s.slots).mergeSort notAfter).map (·.2.value) := by
    rw [← List.filterMap_eq_map, inPriorityOrder, stream, h.ranking_eq, List.map_map,
      List.filterMap_map]
    exact List.filterMap_congr fun e he => h.live_eq (List.mem_mergeSort.mp he)
  have hroster : (s.roster.filter (·.ranked)).map (·.value) = (marked s.slots).map (·.2.value) := by
    rw [roster, List.filter_map, List.map_map]
    rfl
  rw [hvalues, Roster.byPriority, hroster]
  refine List.map_mergeSort fun a ha b hb => ?_
  rw [← (h.placed a (List.mem_of_mem_filter ha)).2, ← (h.placed b (List.mem_of_mem_filter hb)).2]
  rfl

end

/-! ## Operations on the roster -/

theorem change_eq_self {l : Roster K V} {key : K} {f : Listed K V → Listed K V}
    (h : ∀ r ∈ l, r.key = key → f r = r) : l.change key f = l := by
  refine (List.map_congr_left fun r hr => ?_).trans (List.map_id' l)
  by_cases hk : r.key = key
  · rw [if_pos hk, h r hr hk]
  · rw [if_neg hk]

theorem change_of_notMem {l : Roster K V} {key : K} (h : key ∉ l.map (·.key))
    (f : Listed K V → Listed K V) : l.change key f = l :=
  change_eq_self fun _ hr hk => absurd (hk ▸ List.mem_map_of_mem hr) h

theorem filter_of_notMem {l : Roster K V} {key : K} (h : key ∉ l.map (·.key)) :
    l.filter (fun r => r.key ≠ key) = l := by
  refine List.filter_eq_self.mpr fun r hr => decide_eq_true ?_
  exact fun hk => h (hk ▸ List.mem_map_of_mem hr)

section
variable {l₁ l₂ : List (K × Slot K V P)} {key : K} {old : Slot K V P}

omit [DecidableEq K] in
theorem Coherent.notMem_split (h : Coherent s) (hsplit : s.slots = l₁ ++ (key, old) :: l₂) :
    key ∉ (l₁.map listed).map (·.key) ∧ key ∉ (l₂.map listed).map (·.key) := by
  have hn := h.nodup
  rw [hsplit] at hn
  have hmid := (List.nodup_cons.mp (List.nodup_middle.mp (by simpa [keys] using hn))).1
  simpa [listed] using hmid

theorem Coherent.change_split (h : Coherent s) (hsplit : s.slots = l₁ ++ (key, old) :: l₂)
    (f : Listed K V → Listed K V) :
    s.roster.change key f = l₁.map listed ++ f (listed (key, old)) :: l₂.map listed := by
  obtain ⟨h₁, h₂⟩ := h.notMem_split hsplit
  have hc₁ := change_of_notMem h₁ f
  have hc₂ := change_of_notMem h₂ f
  simp only [Roster.change] at hc₁ hc₂ ⊢
  rw [roster, hsplit, List.map_append, List.map_cons, List.map_append, List.map_cons, hc₁, hc₂]
  simp [listed]

theorem Coherent.filter_split (h : Coherent s) (hsplit : s.slots = l₁ ++ (key, old) :: l₂) :
    s.roster.filter (fun r => r.key ≠ key) = (l₁ ++ l₂).map listed := by
  obtain ⟨h₁, h₂⟩ := h.notMem_split hsplit
  rw [roster, hsplit, List.map_append, List.map_cons, List.filter_append, List.filter_cons,
    filter_of_notMem h₁, filter_of_notMem h₂, List.map_append]
  simp [listed]

end

omit [Ord P] in
theorem notMem_roster {key : K} (hs : s.slot? key = none) : key ∉ s.roster.map (·.key) :=
  roster_keys s ▸ notMem_keys_of_lookup hs

omit [Ord P] in
theorem mark_of_none {key : K} (hs : s.slot? key = none) (ranked : Bool) :
    s.roster.mark key ranked = (false, s.roster) := by
  rw [Roster.mark, change_of_notMem (notMem_roster hs), roster_find?, hs]
  rfl

theorem Coherent.mark_split {l₁ l₂ : List (K × Slot K V P)} {key : K} {old : Slot K V P}
    (h : Coherent s) (hs : s.slot? key = some old) (hsplit : s.slots = l₁ ++ (key, old) :: l₂)
    (ranked : Bool) : s.roster.mark key ranked = (old.ranked != ranked,
      l₁.map listed ++ ⟨key, old.value, ranked⟩ :: l₂.map listed) := by
  rw [Roster.mark, h.change_split hsplit, roster_find?, hs]
  rfl

theorem Coherent.modify_roster (h : Coherent s) (key : K) (change : V → V) :
    (s.modify key change).roster =
      s.roster.change key fun r => { r with value := change r.value } := by
  cases hs : s.slot? key with
  | none =>
    rw [change_of_notMem (notMem_roster hs)]
    simp [Store.modify, hs]
  | some old =>
    obtain ⟨l₁, l₂, hsplit, hl⟩ := exists_split hs
    rw [h.change_split hsplit]
    simp [Store.modify, hs, hsplit, setSlot_split _ hl, roster, listed]

/-- A store follows a roster through an operation, answers included. -/
structure Follows {α : Type} (r : α × Store K V P) (l : α × Roster K V) : Prop where
  answer : r.1 = l.1
  coherent : Coherent r.2
  roster_eq : r.2.roster = l.2

variable [Std.TransOrd P]

theorem Coherent.push (h : Coherent s) {key : K} (hs : s.slot? key = none) (value : V) :
    Follows (if (s.append key value).queue.length ≤ s.capacity then (none, s.append key value)
      else (s.append key value).evict) (s.roster.push s.capacity key value) := by
  have happend := h.append hs value
  have hroster : (s.append key value).roster = s.roster ++ [⟨key, value, true⟩] := by
    simp [roster, Store.append, listed]
  have hlen : (s.append key value).queue.length = (s.append key value).roster.length := by
    rw [happend.queue_eq, ← roster_keys, List.length_map]
  rw [Roster.push, ← hroster, hlen]
  generalize s.append key value = t at happend
  by_cases hle : t.roster.length ≤ s.capacity
  · simp only [hle, if_true]
    exact ⟨rfl, happend, rfl⟩
  · simp only [hle, if_false]
    cases hslots : t.slots with
    | nil => simp [roster, hslots] at hle
    | cons e rest =>
      refine ⟨?_, happend.evict hslots, ?_⟩
      · simp [evict_split happend hslots, roster, hslots, listed]
      · simp [evict_split happend hslots, roster, hslots]

theorem Coherent.add (h : Coherent s) (value : V) :
    Follows (s.add value) (s.roster.add s.capacity s.keyOf value) := by
  unfold Store.add Roster.add
  by_cases hc : s.capacity = 0
  · simp only [isDisabled, hc, beq_self_eq_true, if_true]
    exact ⟨rfl, h, rfl⟩
  · simp only [isDisabled, beq_eq_false_iff_ne.mpr hc, Bool.false_eq_true, if_false, hc, hasKey_eq]
    cases hs : s.slot? (s.keyOf value) with
    | none =>
      simp only [Option.isSome_none, Bool.false_eq_true, if_false]
      exact h.push hs value
    | some old =>
      simp only [Option.isSome_some, if_true]
      refine ⟨rfl, h.replace hs value, ?_⟩
      obtain ⟨l₁, l₂, hsplit, hl⟩ := exists_split hs
      rw [h.change_split hsplit, replace_split hsplit hl, roster, List.map_append, List.map_cons]
      rfl

theorem Coherent.remove (h : Coherent s) (key : K) :
    Follows (s.removeKey key) (s.roster.removeKey key) := by
  refine ⟨?_, h.removeKey key, ?_⟩
  · cases hs : s.slot? key <;> simp [Store.removeKey, Roster.removeKey, hasKey_eq, hs]
  · rw [Roster.removeKey]
    cases hs : s.slot? key with
    | none =>
      rw [filter_of_notMem (notMem_roster hs)]
      simp [Store.removeKey, hs]
    | some old =>
      obtain ⟨l₁, l₂, hsplit, _⟩ := exists_split hs
      rw [removeKey_split h hs hsplit, h.filter_split hsplit, roster]

theorem Coherent.unmark (h : Coherent s) (key : K) :
    Follows (s.unrank key) (s.roster.mark key false) := by
  refine ⟨?_, h.unrank key, ?_⟩ <;> cases hs : s.slot? key with
  | none => simp [Store.unrank, mark_of_none hs, hs]
  | some old =>
    obtain ⟨l₁, l₂, hsplit, hl⟩ := exists_split hs
    rw [h.mark_split hs hsplit]
    cases hr : old.ranked <;>
      simp [Store.unrank, hs, hr, hsplit, setSlot_split _ hl, roster, listed]

theorem Coherent.mark (h : Coherent s) (key : K) :
    Follows (s.rerank key) (s.roster.mark key true) := by
  refine ⟨?_, h.rerank key, ?_⟩ <;> cases hs : s.slot? key with
  | none => simp [Store.rerank, mark_of_none hs, hs]
  | some old =>
    obtain ⟨l₁, l₂, hsplit, hl⟩ := exists_split hs
    rw [h.mark_split hs hsplit]
    cases hr : old.ranked <;>
      simp [Store.rerank, hs, hr, hsplit, setSlot_split _ hl, roster, listed]

def rules (s : Store K V P) : Nat × (V → K) × (V → P) :=
  (s.capacity, s.keyOf, s.priorityOf)

omit [Std.TransOrd P] in
theorem apply_rules (s : Store K V P) (op : Op K V) : (s.apply op).2.rules = s.rules := by
  cases op with
  | add value =>
    simp only [apply, Store.add, Store.evict]
    repeat' split
    all_goals rfl
  | remove value =>
    simp only [apply, Store.remove, Store.removeKey]
    split <;> rfl
  | removeKey key =>
    simp only [apply, Store.removeKey]
    split <;> rfl
  | unrank key =>
    simp only [apply, Store.unrank]
    repeat' split
    all_goals rfl
  | rerank key =>
    simp only [apply, Store.rerank]
    repeat' split
    all_goals rfl
  | clear => rfl

/-! ## Runs -/

theorem Coherent.apply (h : Coherent s) (op : Op K V) :
    Follows (s.apply op) (s.roster.apply s.capacity s.keyOf op) := by
  cases op with
  | add value => exact ⟨congrArg _ (h.add value).answer, (h.add value).coherent, (h.add value).roster_eq⟩
  | remove value =>
    have hr := h.remove (s.keyOf value)
    exact ⟨congrArg _ hr.answer, hr.coherent, hr.roster_eq⟩
  | removeKey key =>
    exact ⟨congrArg _ (h.remove key).answer, (h.remove key).coherent, (h.remove key).roster_eq⟩
  | unrank key =>
    exact ⟨congrArg _ (h.unmark key).answer, (h.unmark key).coherent, (h.unmark key).roster_eq⟩
  | rerank key =>
    exact ⟨congrArg _ (h.mark key).answer, (h.mark key).coherent, (h.mark key).roster_eq⟩
  | clear => exact ⟨rfl, coherent_clear s, rfl⟩

theorem Coherent.run {capacity : Nat} {keyOf : V → K} {priorityOf : V → P} (ops : List (Op K V)) :
    ∀ {s : Store K V P}, Coherent s → s.rules = (capacity, keyOf, priorityOf) →
      Follows (s.run ops) (s.roster.run capacity keyOf ops) ∧
        (s.run ops).2.rules = (capacity, keyOf, priorityOf) := by
  induction ops with
  | nil => exact fun h hr => ⟨⟨rfl, h, rfl⟩, hr⟩
  | cons op ops ih =>
    intro s h hr
    have hstep := h.apply op
    rw [show s.capacity = capacity from congrArg (·.1) hr,
      show s.keyOf = keyOf from congrArg (·.2.1) hr] at hstep
    obtain ⟨hrest, hrules⟩ := ih hstep.coherent ((s.apply_rules op).trans hr)
    rw [hstep.roster_eq] at hrest
    refine ⟨⟨?_, hrest.coherent, hrest.roster_eq⟩, hrules⟩
    rw [Store.run, Roster.run, hstep.answer, hrest.answer]

/-- What can be read from a store is what its list says. -/
structure Shows (s : Store K V P) (priorityOf : V → P) (l : Roster K V) : Prop where
  nodup : (l.map (·.key)).Nodup
  get? : ∀ key, s.get? key = l.get? key
  contains : ∀ key, s.contains key = l.hasKey key
  size : s.size = l.length
  values : s.values = l.map (·.value)
  inPriorityOrder : s.inPriorityOrder = l.byPriority priorityOf
  draw : ∀ n, s.draw n s.stream = (l.byPriority priorityOf)[n]?

theorem Coherent.shows (h : Coherent s) : s.Shows s.priorityOf s.roster where
  nodup := roster_keys s ▸ h.nodup
  get? := s.get?_eq
  contains key := (s.hasKey_eq key).symm
  size := s.size_eq
  values := h.values_eq
  inPriorityOrder := h.inPriorityOrder_eq
  draw n := by
    rw [draw_eq, ← h.inPriorityOrder_eq]
    rfl

/-- From its beginning on, a store answers every operation as its roster does and always shows it. -/
theorem run_follows_roster (capacity : Nat) (keyOf : V → K) (priorityOf : V → P)
    (ops : List (Op K V)) :
    let store : Store K V P := { capacity, keyOf, priorityOf }
    (store.run ops).1 = (Roster.run capacity keyOf [] ops).1 ∧
      (store.run ops).2.Shows priorityOf (Roster.run capacity keyOf [] ops).2 := by
  intro store
  obtain ⟨hfollows, hrules⟩ := Coherent.run ops (coherent_empty capacity keyOf priorityOf) rfl
  have hshows := hfollows.coherent.shows
  rw [hfollows.roster_eq, show (store.run ops).2.priorityOf = priorityOf from
    congrArg (·.2.2) hrules] at hshows
  exact ⟨hfollows.answer, hshows⟩

/-- A store for two: a key that was taken out keeps its place when its value is replaced, and the
oldest leaves although it is out of the priority order. -/
theorem run_follows_roster_of_two :
    let store : Store Nat (Nat × Nat) Nat := { capacity := 2, keyOf := Prod.fst, priorityOf := Prod.snd }
    let ops : List (Op Nat (Nat × Nat)) :=
      [.add (1, 5), .unrank 1, .add (2, 7), .add (1, 3), .add (3, 6)]
    (store.run ops).1 =
        [.evicted none, .changed true, .evicted none, .evicted none, .evicted (some (1, 3))] ∧
      (store.run ops).2.inPriorityOrder = [(3, 6), (2, 7)] := by
  intro store ops
  obtain ⟨hanswers, hshows⟩ := run_follows_roster 2 Prod.fst (Prod.snd : Nat × Nat → Nat) ops
  have hroster : (Roster.run 2 Prod.fst [] ops).2 = [⟨2, (2, 7), true⟩, ⟨3, (3, 6), true⟩] := by
    decide
  refine ⟨hanswers.trans (by decide), hshows.inPriorityOrder.trans ?_⟩
  rw [hroster]
  simp [Roster.byPriority, List.mergeSort, List.MergeSort.Internal.splitInTwo, compare,
    compareOfLessAndEq, Ordering.isLE]

end Store
end RequestMatching
