import Mathlib.Data.List.Forall2
import Mathlib.Data.List.GetD
import Mathlib.Data.List.Nodup
import RequestMatching.Pattern.Subset
import RequestMatching.Proofs.Assignment.Maximum

/-!
# Containment of patterns

What it means that candidates contain patterns is said here without a search, pattern by pattern and
with an injective choice of candidates. The check accepts exactly then.
-/

namespace RequestMatching

namespace Subset

/-- A candidate matches a pattern in key and value. -/
def Serves (c : Comparator) (p e : Entry) : Prop :=
  c.accepts p.key e.key = true ∧ c.accepts p.value e.value = true

/-- An optional key that is not among those of the candidates. -/
def OptionalAbsent (c : Comparator) (candidates : List Entry) (p : Entry) : Prop :=
  p.key.optional = true ∧ ∀ e ∈ candidates, c.accepts p.key e.key = false

/-- A negated key that is there: one of the keys that are not negated themselves matches it. -/
def ForbiddenPresent (c : Comparator) (candidates : List Entry) (p : Entry) : Prop :=
  p.key.negated = true ∧
    ∃ e ∈ candidates, e.key.negated = false ∧ c.accepts p.key.withoutNegation e.key = true

/-- A pattern that takes up a candidate: it neither forbids its key nor is it optional and absent. -/
def Claims (c : Comparator) (candidates : List Entry) (p : Entry) : Prop :=
  ¬ (p.key.negated = true ∧ p.value.negated = false) ∧ ¬ OptionalAbsent c candidates p

instance (c : Comparator) (candidates : List Entry) : DecidablePred (OptionalAbsent c candidates) :=
  fun _ => inferInstanceAs (Decidable (_ ∧ _))

instance (c : Comparator) (candidates : List Entry) : DecidablePred (Claims c candidates) :=
  fun _ => inferInstanceAs (Decidable (_ ∧ _))

/-- The candidates contain the patterns. -/
structure Contains (c : Comparator) (patterns candidates : List Entry) : Prop where
  no_forbidden : ∀ p ∈ patterns, ¬ ForbiddenPresent c candidates p
  served : ∀ p ∈ patterns, (∃ e ∈ candidates, Serves c p e) ∨ OptionalAbsent c candidates p
  /-- Distinct places for the patterns that take up a candidate, in their order. -/
  distinct : ∃ places : List Nat, places.Nodup ∧
    List.Forall₂ (fun p j => ∃ e, candidates[j]? = some e ∧ Serves c p e)
      (patterns.filter (Claims c candidates)) places

variable {c : Comparator} {candidates : List Entry}

/-! ## The parts of the check -/

theorem accepts_iff_serves {p e : Entry} : p.accepts c e = true ↔ Serves c p e := by
  simp [Entry.accepts, Serves]

theorem isAbsent_iff {p : Entry} : isAbsent c p candidates = true ↔ OptionalAbsent c candidates p := by
  simp [isAbsent, hasKey, Entry.isOptional, OptionalAbsent]

theorem hasForbidden_iff {p : Entry} :
    hasForbidden c p candidates = true ↔ ForbiddenPresent c candidates p := by
  have hplain : ∀ e : Entry, c.accepts p.key.withoutNegation e.key =
      c.accepts (.plain p.key.value) e.key := fun _ => rfl
  simp [hasForbidden, ForbiddenPresent, hplain]

theorem mem_acceptedPlaces {p : Entry} {j : Nat} : ∀ {start : Nat} {es : List Entry},
    j ∈ acceptedPlaces c p start es ↔ ∃ i e, j = start + i ∧ es[i]? = some e ∧ Serves c p e
  | _, [] => by simp [acceptedPlaces]
  | start, e :: es => by
    have hrest : j ∈ acceptedPlaces c p (start + 1) es ↔
        ∃ i a, j = start + (i + 1) ∧ es[i]? = some a ∧ Serves c p a := by
      simp only [mem_acceptedPlaces, Nat.add_assoc, Nat.add_comm 1]
    have hcons : (∃ i a, j = start + i ∧ (e :: es)[i]? = some a ∧ Serves c p a) ↔
        (j = start ∧ Serves c p e) ∨ j ∈ acceptedPlaces c p (start + 1) es := by
      rw [hrest]
      constructor
      · rintro ⟨i, a, rfl, ha, hs⟩
        cases i with
        | zero => cases ha; exact .inl ⟨rfl, hs⟩
        | succ i => exact .inr ⟨i, a, rfl, ha, hs⟩
      · rintro (⟨rfl, hs⟩ | ⟨i, a, rfl, ha, hs⟩)
        · exact ⟨0, e, rfl, rfl, hs⟩
        · exact ⟨i + 1, a, rfl, ha, hs⟩
    rw [hcons, acceptedPlaces]
    by_cases hs : Serves c p e
    · simp [accepts_iff_serves.mpr hs, hs]
    · simp [mt accepts_iff_serves.mp hs, hs]

theorem mem_places {p : Entry} {j : Nat} :
    j ∈ acceptedPlaces c p 0 candidates ↔ ∃ e, candidates[j]? = some e ∧ Serves c p e := by
  rw [mem_acceptedPlaces]
  constructor
  · rintro ⟨i, e, rfl, he⟩
    exact ⟨e, by simpa using he⟩
  · rintro ⟨e, he⟩
    exact ⟨j, e, by simp, he⟩

theorem places_isEmpty_iff {p : Entry} :
    (acceptedPlaces c p 0 candidates).isEmpty = true ↔ ¬ ∃ e ∈ candidates, Serves c p e := by
  rw [List.isEmpty_iff, List.eq_nil_iff_forall_not_mem, not_exists]
  constructor
  · rintro h e ⟨he, hs⟩
    obtain ⟨j, hj⟩ := List.getElem?_of_mem he
    exact h j (mem_places.mpr ⟨e, hj, hs⟩)
  · intro h j hj
    obtain ⟨e, he, hs⟩ := mem_places.mp hj
    exact h e ⟨List.mem_of_getElem? he, hs⟩

theorem claims_iff {p : Entry} :
    (isAbsent c p candidates || p.isForbidding) = false ↔ Claims c candidates p := by
  rw [Bool.or_eq_false_iff, ← Bool.not_eq_true, isAbsent_iff, Claims, and_comm]
  simp [Entry.isForbidding]

/-! ## The choices of all patterns -/

/-- What is asked of each pattern on its own. -/
def Passes (c : Comparator) (candidates : List Entry) (p : Entry) : Prop :=
  ¬ ForbiddenPresent c candidates p ∧
    ((∃ e ∈ candidates, Serves c p e) ∨ OptionalAbsent c candidates p)

def claimedPlaces (c : Comparator) (candidates patterns : List Entry) : List (List Nat) :=
  (patterns.filter (Claims c candidates)).map fun p => acceptedPlaces c p 0 candidates

theorem choices_cons_of_not_passes {p : Entry} {rest : List Entry} (h : ¬ Passes c candidates p) :
    ∃ difference, choices c candidates (p :: rest) = .error difference := by
  simp only [choices]
  by_cases hf : hasForbidden c p candidates = true
  · exact ⟨_, if_pos hf⟩
  · rw [if_neg hf]
    have hnone : ¬ ((∃ e ∈ candidates, Serves c p e) ∨ OptionalAbsent c candidates p) :=
      fun hs => h ⟨mt hasForbidden_iff.mpr hf, hs⟩
    obtain ⟨hserved, habsent⟩ := not_or.mp hnone
    have he : ((acceptedPlaces c p 0 candidates).isEmpty && !isAbsent c p candidates) = true := by
      simp [places_isEmpty_iff.mpr hserved, mt isAbsent_iff.mp habsent]
    exact ⟨_, if_pos he⟩

theorem choices_cons_of_passes {p : Entry} {rest : List Entry} (h : Passes c candidates p) :
    choices c candidates (p :: rest) = (choices c candidates rest).map fun more =>
      if Claims c candidates p then acceptedPlaces c p 0 candidates :: more else more := by
  have hf : ¬ hasForbidden c p candidates = true := mt hasForbidden_iff.mp h.1
  have he : ¬ ((acceptedPlaces c p 0 candidates).isEmpty && !isAbsent c p candidates) = true := by
    rw [Bool.and_eq_true, places_isEmpty_iff, Bool.not_eq_true', ← Bool.not_eq_true, isAbsent_iff]
    exact fun hn => h.2.elim hn.1 hn.2
  simp only [choices]
  rw [if_neg hf, if_neg he]
  cases choices c candidates rest with
  | error _ => rfl
  | ok more =>
    by_cases hc : Claims c candidates p
    · simp [Except.map, bind, Except.bind, claims_iff.mpr hc, hc]
    · have hskip := eq_true_of_ne_false (mt claims_iff.mp hc)
      simp [Except.map, bind, Except.bind, hskip, hc]

theorem choices_of_passes {patterns : List Entry} (h : ∀ p ∈ patterns, Passes c candidates p) :
    choices c candidates patterns = .ok (claimedPlaces c candidates patterns) := by
  induction patterns with
  | nil => rfl
  | cons p rest ih =>
    rw [choices_cons_of_passes (h p (List.mem_cons_self ..)),
      ih fun q hq => h q (List.mem_cons_of_mem _ hq)]
    by_cases hc : Claims c candidates p
    · simp [Except.map, claimedPlaces, hc]
    · simp [Except.map, claimedPlaces, hc]

theorem choices_of_not_passes {patterns : List Entry} (h : ¬ ∀ p ∈ patterns, Passes c candidates p) :
    ∃ difference, choices c candidates patterns = .error difference := by
  induction patterns with
  | nil => exact absurd (fun _ hp => absurd hp List.not_mem_nil) h
  | cons p rest ih =>
    by_cases hp : Passes c candidates p
    · have hrest : ¬ ∀ q ∈ rest, Passes c candidates q := fun hq =>
        h fun q hm => (List.mem_cons.mp hm).elim (fun e => e ▸ hp) (hq q)
      obtain ⟨difference, hd⟩ := ih hrest
      exact ⟨difference, by rw [choices_cons_of_passes hp, hd]; rfl⟩
    · exact choices_cons_of_not_passes hp

theorem lt_of_mem_claimedPlaces {patterns : List Entry} (k : Nat) :
    ∀ j ∈ (claimedPlaces c candidates patterns).getD k [], j < candidates.length := by
  intro j hj
  rw [List.getD_eq_getElem?_getD] at hj
  cases hk : (claimedPlaces c candidates patterns)[k]? with
  | none => simp [hk] at hj
  | some places =>
    obtain ⟨p, _, rfl⟩ := List.mem_map.mp (List.mem_of_getElem? hk)
    rw [hk] at hj
    obtain ⟨e, he, _⟩ := mem_places.mp hj
    exact (List.getElem?_eq_some_iff.mp he).1

theorem exists_injOn_iff_forall₂ (lists : List (List Nat)) :
    (∃ f : Nat → Nat, Set.InjOn f {i | i < lists.length} ∧
      ∀ i < lists.length, f i ∈ lists.getD i []) ↔
    ∃ places : List Nat, places.Nodup ∧ List.Forall₂ (fun l j => j ∈ l) lists places := by
  constructor
  · rintro ⟨f, hinj, hf⟩
    refine ⟨(List.range lists.length).map f, ?_, ?_⟩
    · refine List.Nodup.map_on ?_ List.nodup_range
      exact fun i hi j hj he => hinj (List.mem_range.mp hi) (List.mem_range.mp hj) he
    · rw [List.forall₂_iff_get]
      refine ⟨by simp, fun i hi _ => ?_⟩
      simpa [List.getD_eq_getElem?_getD, List.getElem?_eq_getElem hi] using hf i hi
  · rintro ⟨places, hnodup, hall⟩
    have hlen := hall.length_eq
    refine ⟨fun i => places.getD i 0, ?_, ?_⟩
    · intro i hi j hj he
      have hi' : i < places.length := hlen ▸ hi
      have hj' : j < places.length := hlen ▸ hj
      simp only [List.getD_eq_getElem _ _ hi', List.getD_eq_getElem _ _ hj'] at he
      exact (List.Nodup.getElem_inj_iff hnodup).mp he
    · intro i hi
      have hi' : i < places.length := hlen ▸ hi
      simp only [List.getD_eq_getElem _ _ hi, List.getD_eq_getElem _ _ hi']
      exact (List.forall₂_iff_get.mp hall).2 i hi hi'

theorem claimedPlaces_assigned_iff (patterns : List Entry) :
    (claimedPlaces c candidates patterns).length ≤
        Assignment.count (Assignment.ofEdges (claimedPlaces c candidates patterns) candidates.length) ↔
      ∃ places : List Nat, places.Nodup ∧
        List.Forall₂ (fun p j => ∃ e, candidates[j]? = some e ∧ Serves c p e)
          (patterns.filter (Claims c candidates)) places := by
  rw [Assignment.length_le_count_ofEdges_iff lt_of_mem_claimedPlaces, exists_injOn_iff_forall₂]
  simp only [claimedPlaces, List.forall₂_map_left_iff, mem_places]

/-- The check accepts exactly the candidates that contain the patterns. -/
theorem check_accepted_iff_contains (c : Comparator) (patterns candidates : List Entry) :
    (check c patterns candidates).accepted = true ↔ Contains c patterns candidates := by
  by_cases h : ∀ p ∈ patterns, Passes c candidates p
  · have hassigned := @claimedPlaces_assigned_iff c candidates patterns
    simp only [check, choices_of_passes h]
    constructor
    · intro hok
      refine ⟨fun p hp => (h p hp).1, fun p hp => (h p hp).2, hassigned.mp ?_⟩
      by_contra hle
      simp [Finding.ofBool, hle, Finding.reject] at hok
    · intro hcontains
      simp [Finding.ofBool, hassigned.mpr hcontains.distinct, Finding.accept]
  · obtain ⟨difference, hd⟩ := choices_of_not_passes h
    simp only [check, hd, Finding.reject, Bool.false_eq_true, false_iff]
    exact fun hcontains => h fun p hp => ⟨hcontains.no_forbidden p hp, hcontains.served p hp⟩

end Subset
end RequestMatching
