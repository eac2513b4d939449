import Mathlib.Data.List.Nodup
import RequestMatching.Proofs.Store.Ranking

/-!
# Coherence of the three orders

The slots of a store stand in the order of their sequence, the queue lists their keys, and the
ranking holds the places of those that take part in it. Each operation keeps this.
-/

namespace RequestMatching

namespace Store

variable {K V P : Type}

def keys (slots : List (K × Slot K V P)) : List K :=
  slots.map (·.1)

def marked (slots : List (K × Slot K V P)) : List (K × Slot K V P) :=
  slots.filter (·.2.ranked)

def ranks (slots : List (K × Slot K V P)) : List (Rank K P) :=
  (marked slots).map (·.2.rank)

/-- A slot knows its key and the priority of its value. -/
def Placed (priorityOf : V → P) (e : K × Slot K V P) : Prop :=
  e.2.rank.key = e.1 ∧ e.2.rank.priority = priorityOf e.2.value

theorem ranks_append (l₁ l₂ : List (K × Slot K V P)) : ranks (l₁ ++ l₂) = ranks l₁ ++ ranks l₂ := by
  simp [ranks, marked]

theorem ranks_cons (e : K × Slot K V P) (l : List (K × Slot K V P)) :
    ranks (e :: l) = (if e.2.ranked then [e.2.rank] else []) ++ ranks l := by
  cases h : e.2.ranked <;> simp [ranks, marked, h]

theorem ranks_middle (l₁ l₂ : List (K × Slot K V P)) (e : K × Slot K V P) :
    (ranks (l₁ ++ e :: l₂)).Perm ((if e.2.ranked then [e.2.rank] else []) ++ ranks (l₁ ++ l₂)) := by
  simp only [ranks_append, ranks_cons]
  rw [← List.append_assoc, ← List.append_assoc]
  exact List.perm_append_comm.append_right _

theorem exists_of_mem_ranks {slots : List (K × Slot K V P)} {r : Rank K P} (h : r ∈ ranks slots) :
    ∃ e ∈ slots, e.2.ranked = true ∧ e.2.rank = r := by
  obtain ⟨e, he, rfl⟩ := List.mem_map.mp h
  obtain ⟨he, hr⟩ := List.mem_filter.mp he
  exact ⟨e, he, hr, rfl⟩

/-! ## Slots by key -/

section
variable [DecidableEq K]

theorem exists_split {slots : List (K × Slot K V P)} {key : K} {slot : Slot K V P}
    (h : slots.lookup key = some slot) :
    ∃ l₁ l₂, slots = l₁ ++ (key, slot) :: l₂ ∧ key ∉ keys l₁ := by
  induction slots with
  | nil => simp at h
  | cons e slots ih =>
    obtain ⟨k, s⟩ := e
    by_cases hk : key = k
    · subst hk
      simp only [List.lookup_cons, beq_self_eq_true, Option.some.injEq] at h
      exact ⟨[], slots, by rw [h]; rfl, by simp [keys]⟩
    · rw [List.lookup_cons, beq_false_of_ne hk] at h
      obtain ⟨l₁, l₂, rfl, hl⟩ := ih h
      refine ⟨(k, s) :: l₁, l₂, rfl, ?_⟩
      simp only [keys, List.map_cons, List.mem_cons, not_or]
      exact ⟨hk, hl⟩

theorem setSlot_split {l₁ l₂ : List (K × Slot K V P)} {key : K} {old : Slot K V P}
    (new : Slot K V P) (h : key ∉ keys l₁) :
    setSlot key new (l₁ ++ (key, old) :: l₂) = l₁ ++ (key, new) :: l₂ := by
  induction l₁ with
  | nil => simp [setSlot]
  | cons e l₁ ih =>
    simp only [keys, List.map_cons, List.mem_cons, not_or] at h
    rw [List.cons_append, setSlot, if_neg (Ne.symm h.1), ih h.2]
    rfl

theorem dropSlot_of_notMem {slots : List (K × Slot K V P)} {key : K} (h : key ∉ keys slots) :
    slots.filter (fun e => e.1 != key) = slots := by
  refine List.filter_eq_self.mpr fun e he => ?_
  have hne : e.1 ≠ key := fun hk => h (hk ▸ List.mem_map_of_mem he)
  simpa using hne

theorem lookup_of_mem {slots : List (K × Slot K V P)} (hn : (keys slots).Nodup)
    {e : K × Slot K V P} (he : e ∈ slots) : slots.lookup e.1 = some e.2 := by
  induction slots with
  | nil => cases he
  | cons a slots ih =>
    obtain ⟨k, s⟩ := a
    simp only [keys, List.map_cons, List.nodup_cons] at hn
    rcases List.mem_cons.mp he with rfl | he
    · simp
    · have hne : e.1 ≠ k := fun hk => hn.1 (hk ▸ List.mem_map_of_mem he)
      rw [List.lookup_cons, beq_false_of_ne hne]
      exact ih hn.2 he

theorem notMem_keys_of_lookup {slots : List (K × Slot K V P)} {key : K}
    (h : slots.lookup key = none) : key ∉ keys slots := by
  induction slots with
  | nil => simp [keys]
  | cons e slots ih =>
    obtain ⟨k, s⟩ := e
    by_cases hk : key = k
    · simp [hk] at h
    · rw [List.lookup_cons, beq_false_of_ne hk] at h
      simp only [keys, List.map_cons, List.mem_cons, not_or]
      exact ⟨hk, ih h⟩

theorem dropSlot_split {l₁ l₂ : List (K × Slot K V P)} {key : K} {old : Slot K V P}
    (hn : (keys (l₁ ++ (key, old) :: l₂)).Nodup) :
    dropSlot key (l₁ ++ (key, old) :: l₂) = l₁ ++ l₂ := by
  have hmid := List.nodup_middle.mp (by simpa [keys] using hn)
  have hkey : key ∉ keys (l₁ ++ l₂) := by simpa [keys] using (List.nodup_cons.mp hmid).1
  have hkeep := dropSlot_of_notMem hkey
  rw [List.filter_append] at hkeep
  simpa [dropSlot] using hkeep

end

/-! ## The invariant -/

variable [Ord P]

/-- What holds the three orders of a store together. -/
structure Coherent (s : Store K V P) : Prop where
  queue_eq : s.queue = keys s.slots
  nodup : (keys s.slots).Nodup
  placed : ∀ e ∈ s.slots, Placed s.priorityOf e
  increasing : (s.slots.map (·.2.rank.sequence)).Pairwise (· < ·)
  below : ∀ n ∈ s.slots.map (·.2.rank.sequence), n < s.sequence
  ascending : Rank.Ascending s.ranking
  perm : s.ranking.Perm (ranks s.slots)

def withoutRank (s : Store K V P) (slot : Slot K V P) : List (Rank K P) :=
  if slot.ranked then slot.rank.erase s.ranking else s.ranking

variable {s : Store K V P} {l₁ l₂ : List (K × Slot K V P)} {key : K} {old : Slot K V P}

theorem coherent_empty (capacity : Nat) (keyOf : V → K) (priorityOf : V → P) :
    Coherent ({ capacity, keyOf, priorityOf } : Store K V P) := by
  constructor <;> simp [keys, ranks, marked, Rank.Ascending]

theorem coherent_clear (s : Store K V P) : Coherent s.clear := by
  constructor <;> simp [Store.clear, keys, ranks, marked, Rank.Ascending]

theorem Coherent.sequence_ne (h : Coherent s) (hsplit : s.slots = l₁ ++ (key, old) :: l₂) :
    ∀ e ∈ l₁ ++ l₂, e.2.rank.sequence ≠ old.rank.sequence := by
  have hinc := h.increasing
  rw [hsplit, List.map_append, List.map_cons, List.pairwise_append, List.pairwise_cons] at hinc
  intro e he
  rcases List.mem_append.mp he with he | he
  · exact Nat.ne_of_lt (hinc.2.2 _ (List.mem_map_of_mem he) _ (List.mem_cons_self ..))
  · exact Nat.ne_of_gt (hinc.2.1.1 _ (List.mem_map_of_mem he))

theorem Coherent.set (h : Coherent s) (hsplit : s.slots = l₁ ++ (key, old) :: l₂)
    {new : Slot K V P} (hnew : Placed s.priorityOf (key, new))
    (hseq : new.rank.sequence = old.rank.sequence) {ranking : List (Rank K P)}
    (hasc : Rank.Ascending ranking)
    (hperm : ranking.Perm ((if new.ranked then [new.rank] else []) ++ ranks (l₁ ++ l₂))) :
    Coherent { s with slots := l₁ ++ (key, new) :: l₂, ranking } := by
  have hkeys : keys (l₁ ++ (key, new) :: l₂) = keys s.slots := by simp [keys, hsplit]
  have hseqs : (l₁ ++ (key, new) :: l₂).map (·.2.rank.sequence) =
      s.slots.map (·.2.rank.sequence) := by simp [hsplit, hseq]
  constructor
  · exact h.queue_eq.trans hkeys.symm
  · exact hkeys ▸ h.nodup
  · intro e he
    have hold := h.placed e
    rw [hsplit] at hold
    simp only [List.mem_append, List.mem_cons] at he hold
    rcases he with he | rfl | he
    · exact hold (.inl he)
    · exact hnew
    · exact hold (.inr (.inr he))
  · exact hseqs ▸ h.increasing
  · exact hseqs ▸ h.below
  · exact hasc
  · exact hperm.trans (ranks_middle l₁ l₂ (key, new)).symm

section
variable [Std.TransOrd P]

theorem Coherent.withoutRank (h : Coherent s) (hsplit : s.slots = l₁ ++ (key, old) :: l₂) :
    Rank.Ascending (s.withoutRank old) ∧ (s.withoutRank old).Perm (ranks (l₁ ++ l₂)) := by
  have hperm := h.perm.trans (hsplit ▸ ranks_middle l₁ l₂ (key, old))
  unfold Store.withoutRank
  cases hr : old.ranked with
  | false =>
    simp only [hr, Bool.false_eq_true, if_false, List.nil_append] at hperm ⊢
    exact ⟨h.ascending, hperm⟩
  | true =>
    simp only [hr, if_true, List.singleton_append] at hperm ⊢
    have hmem : old.rank ∈ s.ranking := hperm.mem_iff.mpr (List.mem_cons_self ..)
    have herase := Rank.erase_perm h.ascending hmem
    exact ⟨Rank.erase_ascending h.ascending, (herase.symm.trans hperm).cons_inv⟩

theorem insert_ranks {r : Rank K P} {ranking : List (Rank K P)} {slots : List (K × Slot K V P)}
    (hperm : ranking.Perm (ranks slots)) (hasc : Rank.Ascending ranking)
    (hr : ∀ e ∈ slots, e.2.rank.sequence ≠ r.sequence) :
    Rank.Ascending (r.insert ranking) ∧ (r.insert ranking).Perm (r :: ranks slots) := by
  have hne : ∀ q ∈ ranking, r.order q ≠ .eq := by
    intro q hq
    obtain ⟨e, he, _, rfl⟩ := exists_of_mem_ranks (hperm.mem_iff.mp hq)
    exact Rank.order_ne_eq (Ne.symm (hr e he))
  exact ⟨Rank.insert_ascending hne hasc, (Rank.insert_perm hne).trans (hperm.cons r)⟩

theorem Coherent.drop (h : Coherent s) (hsplit : s.slots = l₁ ++ (key, old) :: l₂) :
    Coherent { s with
      slots := l₁ ++ l₂
      ranking := s.withoutRank old
      queue := keys (l₁ ++ l₂) } := by
  have hsub : (l₁ ++ l₂).Sublist s.slots := by
    rw [hsplit]
    exact (List.sublist_cons_self _ _).append_left _
  obtain ⟨hasc, hperm⟩ := h.withoutRank hsplit
  constructor
  · rfl
  · exact h.nodup.sublist (hsub.map _)
  · exact fun e he => h.placed e (hsub.mem he)
  · exact h.increasing.sublist (hsub.map _)
  · exact fun n hn => h.below n ((hsub.map _).mem hn)
  · exact hasc
  · exact hperm

end

/-! ## What the operations make of the slots -/

variable [DecidableEq K]

def updated (s : Store K V P) (key : K) (old : Slot K V P) (value : V) : Slot K V P :=
  { old with value, rank := ⟨s.priorityOf value, old.rank.sequence, key⟩ }

theorem replace_split (hsplit : s.slots = l₁ ++ (key, old) :: l₂) (hl : key ∉ keys l₁) (value : V) :
    s.replace key old value = { s with
      slots := l₁ ++ (key, s.updated key old value) :: l₂
      ranking := if old.ranked then (s.updated key old value).rank.insert (s.withoutRank old)
        else s.withoutRank old } := by
  cases hr : old.ranked <;>
    simp [replace, updated, Store.withoutRank, hsplit, setSlot_split _ hl, hr]

theorem evict_split {e : K × Slot K V P} {rest : List (K × Slot K V P)} (h : Coherent s)
    (hslots : s.slots = e :: rest) : s.evict = (some e.2.value,
      { s with slots := rest, ranking := s.withoutRank e.2, queue := keys rest }) := by
  obtain ⟨k, slot⟩ := e
  have hq : s.queue = k :: keys rest := by rw [h.queue_eq, hslots]; rfl
  have hs : s.slot? k = some slot := by simp [slot?, hslots]
  have hdrop : dropSlot k s.slots = rest := by
    have hn := h.nodup
    rw [hslots] at hn
    simpa [hslots] using @dropSlot_split _ _ _ _ [] rest k slot hn
  simp [evict, hq, hs, hdrop, Store.withoutRank]

theorem removeKey_split (h : Coherent s) (hs : s.slot? key = some old)
    (hsplit : s.slots = l₁ ++ (key, old) :: l₂) : s.removeKey key = (true,
      { s with slots := l₁ ++ l₂, ranking := s.withoutRank old, queue := keys (l₁ ++ l₂) }) := by
  have hn := h.nodup
  rw [hsplit] at hn
  have hdrop := dropSlot_split hn
  have hqueue : s.queue.filter (· != key) = keys (l₁ ++ l₂) := by
    rw [h.queue_eq, hsplit, ← hdrop, keys, keys, dropSlot, List.filter_map]
    rfl
  simp [removeKey, hs, hsplit, hdrop, hqueue, Store.withoutRank]

/-! ## The operations keep the invariant -/

theorem Coherent.modify (h : Coherent s) (key : K) {change : V → V}
    (hchange : ∀ v, s.priorityOf (change v) = s.priorityOf v) : Coherent (s.modify key change) := by
  cases hs : s.slot? key with
  | none => simpa [Store.modify, hs] using h
  | some old =>
    obtain ⟨l₁, l₂, hsplit, hl⟩ := exists_split hs
    have hold : Placed s.priorityOf (key, old) := h.placed _ (by simp [hsplit])
    have hnew : Placed s.priorityOf (key, { old with value := change old.value }) :=
      ⟨hold.1, hold.2.trans (hchange old.value).symm⟩
    have hperm := h.perm.trans (hsplit ▸ ranks_middle l₁ l₂ (key, old))
    have hset := h.set hsplit hnew rfl h.ascending hperm
    simpa [Store.modify, hs, hsplit, setSlot_split _ hl] using hset

variable [Std.TransOrd P]

theorem Coherent.replace (h : Coherent s) (hs : s.slot? key = some old) (value : V) :
    Coherent (s.replace key old value) := by
  obtain ⟨l₁, l₂, hsplit, hl⟩ := exists_split hs
  obtain ⟨hasc, hperm⟩ := h.withoutRank hsplit
  have hnew : Placed s.priorityOf (key, s.updated key old value) := ⟨rfl, rfl⟩
  rw [replace_split hsplit hl]
  cases hr : old.ranked with
  | false => exact h.set hsplit hnew rfl hasc (by simpa [updated, hr] using hperm)
  | true =>
    have hne := h.sequence_ne hsplit
    obtain ⟨hasc', hperm'⟩ := insert_ranks (r := (s.updated key old value).rank) hperm hasc hne
    exact h.set hsplit hnew rfl hasc' (by simpa [updated, hr] using hperm')

theorem Coherent.append (h : Coherent s) (hs : s.slot? key = none) (value : V) :
    Coherent (s.append key value) := by
  have hkey : key ∉ keys s.slots := notMem_keys_of_lookup hs
  obtain ⟨hasc, hperm⟩ := insert_ranks (r := ⟨s.priorityOf value, s.sequence, key⟩) h.perm h.ascending
    fun e he => Nat.ne_of_lt (h.below _ (List.mem_map_of_mem he))
  constructor
  · simp [Store.append, keys, h.queue_eq]
  · have hn : (keys s.slots ++ [key]).Nodup :=
      List.nodup_append.mpr ⟨h.nodup, List.nodup_singleton _, by
        intro a ha b hb
        rw [List.mem_singleton.mp hb]
        exact fun e => hkey (e ▸ ha)⟩
    simpa [Store.append, keys] using hn
  · intro e he
    rcases List.mem_append.mp he with he | he
    · exact h.placed e he
    · rw [List.mem_singleton.mp he]
      exact ⟨rfl, rfl⟩
  · have hlast : ∀ n ∈ s.slots.map (·.2.rank.sequence), ∀ m ∈ [s.sequence], n < m := by
      intro n hn m hm
      rw [List.mem_singleton.mp hm]
      exact h.below n hn
    have hpair := List.pairwise_append.mpr ⟨h.increasing, List.pairwise_singleton _ s.sequence, hlast⟩
    simpa [Store.append] using hpair
  · intro n hn
    simp only [Store.append, List.map_append, List.mem_append, List.map_cons, List.map_nil,
      List.mem_singleton] at hn ⊢
    rcases hn with hn | rfl
    · exact Nat.lt_succ_of_lt (h.below n hn)
    · exact Nat.lt_succ_self _
  · exact hasc
  · have hend : (ranks (s.slots ++ [(key, (⟨value, ⟨s.priorityOf value, s.sequence, key⟩, true⟩ : Slot K V P))])).Perm
        (⟨s.priorityOf value, s.sequence, key⟩ :: ranks s.slots) := by
      have := ranks_middle s.slots [] (key, ⟨value, ⟨s.priorityOf value, s.sequence, key⟩, true⟩)
      simpa using this
    exact hperm.trans hend.symm

theorem Coherent.evict {e : K × Slot K V P} {rest : List (K × Slot K V P)} (h : Coherent s)
    (hslots : s.slots = e :: rest) : Coherent s.evict.2 := by
  rw [evict_split h hslots]
  have hsplit : s.slots = [] ++ (e.1, e.2) :: rest := hslots
  exact h.drop hsplit

theorem Coherent.removeKey (h : Coherent s) (key : K) : Coherent (s.removeKey key).2 := by
  cases hs : s.slot? key with
  | none => simpa [Store.removeKey, hs] using h
  | some old =>
    obtain ⟨l₁, l₂, hsplit, _⟩ := exists_split hs
    rw [removeKey_split h hs hsplit]
    exact h.drop hsplit

theorem Coherent.unrank (h : Coherent s) (key : K) : Coherent (s.unrank key).2 := by
  cases hs : s.slot? key with
  | none => simpa [Store.unrank, hs] using h
  | some old =>
    cases hr : old.ranked with
    | false => simpa [Store.unrank, hs, hr] using h
    | true =>
      obtain ⟨l₁, l₂, hsplit, hl⟩ := exists_split hs
      obtain ⟨hasc, hperm⟩ := h.withoutRank hsplit
      have hold : Placed s.priorityOf (key, old) := h.placed _ (by simp [hsplit])
      have hnew : Placed s.priorityOf (key, { old with ranked := false }) := hold
      have hset := h.set hsplit hnew rfl hasc (by simpa using hperm)
      simpa [Store.unrank, hs, hr, hsplit, setSlot_split _ hl, Store.withoutRank] using hset

theorem Coherent.rerank (h : Coherent s) (key : K) : Coherent (s.rerank key).2 := by
  cases hs : s.slot? key with
  | none => simpa [Store.rerank, hs] using h
  | some old =>
    cases hr : old.ranked with
    | true => simpa [Store.rerank, hs, hr] using h
    | false =>
      obtain ⟨l₁, l₂, hsplit, hl⟩ := exists_split hs
      obtain ⟨hasc, hperm⟩ := h.withoutRank hsplit
      have hold : Placed s.priorityOf (key, old) := h.placed _ (by simp [hsplit])
      obtain ⟨hasc', hperm'⟩ := insert_ranks (r := old.rank) hperm hasc (h.sequence_ne hsplit)
      have hnew : Placed s.priorityOf (key, { old with ranked := true }) := hold
      have hset := h.set hsplit hnew rfl hasc' (by simpa using hperm')
      simpa [Store.rerank, hs, hr, hsplit, setSlot_split _ hl, Store.withoutRank] using hset

end Store
end RequestMatching
