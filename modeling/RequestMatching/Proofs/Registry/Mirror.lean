import Mathlib.Data.List.Forall2
import RequestMatching.Proofs.Expectation.Updates
import RequestMatching.Proofs.Registry.Enrolment
import RequestMatching.Proofs.Store.Refinement

/-!
# Matchers and their enrolment

The matchers of a registry mirror its enrolment: each has the expectation that was added last under
its identifier, up to equality as values, and the pattern of the definition that is compared. Updates
and additions keep it so.
-/

namespace RequestMatching

/-! ## Related rows -/

section
variable {α β γ : Type} {R : α → β → Prop} {l : List α} {l' : List β}

theorem forall₂_mergeSort {le : α → α → Bool} {le' : β → β → Bool} (h : List.Forall₂ R l l')
    (hle : ∀ {a a' b b'}, R a b → R a' b' → le a a' = le' b b') :
    List.Forall₂ R (l.mergeSort le) (l'.mergeSort le') := by
  have hlen := h.length_eq
  have hpairs : ∀ q ∈ l.zip l', R q.1 q.2 := fun _ hq => List.forall₂_zip h hq
  -- the row of pairs, sorted by the first order, gives both rows
  have hfst : l.mergeSort le = ((l.zip l').mergeSort fun q q' => le q.1 q'.1).map (·.1) := by
    rw [List.map_mergeSort (s := le) fun _ _ _ _ => rfl, List.map_fst_zip (Nat.le_of_eq hlen)]
  have hsnd : l'.mergeSort le' = ((l.zip l').mergeSort fun q q' => le q.1 q'.1).map (·.2) := by
    rw [List.map_mergeSort (s := le') fun q hq q' hq' => hle (hpairs q hq) (hpairs q' hq'),
      List.map_snd_zip (Nat.le_of_eq hlen.symm)]
  rw [hfst, hsnd, List.forall₂_map_left_iff, List.forall₂_map_right_iff, List.forall₂_same]
  exact fun q hq => hpairs q (List.mem_mergeSort.mp hq)

theorem map_eq_of_forall₂ {f : α → γ} {g : β → γ} (h : List.Forall₂ R l l')
    (hf : ∀ {a b}, R a b → f a = g b) : l.map f = l'.map g := by
  rw [← List.forall₂_eq_eq_eq, List.forall₂_map_left_iff, List.forall₂_map_right_iff]
  exact h.imp fun _ _ => hf

variable {p : α → Bool} {q : β → Bool}

theorem forall₂_filter (h : List.Forall₂ R l l') (hp : ∀ {a b}, R a b → p a = q b) :
    List.Forall₂ R (l.filter p) (l'.filter q) :=
  List.rel_filter (fun _ _ hab => iff_of_eq (congrArg (· = true) (hp hab))) h

theorem find?_map_eq_of_forall₂ {f : α → γ} {g : β → γ} (h : List.Forall₂ R l l')
    (hp : ∀ {a b}, R a b → p a = q b) (hf : ∀ {a b}, R a b → f a = g b) :
    (l.find? p).map f = (l'.find? q).map g := by
  rw [← List.head?_filter, ← List.head?_filter, ← List.head?_map, ← List.head?_map,
    map_eq_of_forall₂ (forall₂_filter h hp) hf]

end

/-! ## Matchers and what they mirror -/

/-- A matcher holds what is enrolled. -/
structure Mirrors (c : Comparator) (matchType : JsonMatchType) (m : ExpectationMatcher)
    (x : Enrolled) : Prop where
  id : m.id = x.expectation.id
  comparator : m.comparator = c
  pattern : m.pattern = .ofDefinition matchType x.definition
  matchType : m.matchType = matchType
  expectation : m.expectation = x.expectation ∨ m.expectation.equal x.expectation = true
  definition : x.definition = m.expectation.request ∨
    x.definition.equal m.expectation.request = true
  active : m.active = x.active
  busy : m.busy = x.busy

section
variable {c : Comparator} {matchType : JsonMatchType} {m : ExpectationMatcher} {x : Enrolled}

theorem Mirrors.precedence (h : Mirrors c matchType m x) :
    m.precedence = x.expectation.precedence := by
  rcases h.expectation with he | he
  · rw [ExpectationMatcher.precedence, he]
  · exact (Expectation.equal_iff.mp he).2.1

theorem Mirrors.accepted (h : Mirrors c matchType m x) (r : HttpRequest) (d : Option Diagnostics) :
    (m.attempt r d).accepted = x.accepts c matchType r := by
  rw [ExpectationMatcher.attempt, h.comparator, h.pattern, Enrolled.accepts,
    RequestPattern.attempt_accepted, RequestPattern.attempt_accepted]

theorem Mirrors.equal_iff (h : Mirrors c matchType m x) (d : RequestDefinition) :
    x.definition.equal d = true ↔ m.expectation.request.equal d = true := by
  rcases h.definition with hd | hd
  · rw [hd]
  · exact ⟨RequestDefinition.equal_trans (RequestDefinition.equal_symm hd),
      RequestDefinition.equal_trans hd⟩

theorem Mirrors.update (h : Mirrors c matchType m x) {e : Expectation} (hid : x.expectation.id = e.id) :
    Mirrors c matchType (m.update { e with created := m.expectation.created }).2 (x.renew e) := by
  have hcreated : m.expectation.created = x.expectation.created :=
    congrArg Precedence.created h.precedence
  have hdef := h.equal_iff e.request
  rw [hcreated, Enrolled.renew]
  obtain ⟨hsame, hupdate⟩ | ⟨-, hupdate⟩ :=
    m.update_cases { e with created := x.expectation.created } <;> rw [hupdate]
  · have hrequest : m.expectation.request.equal e.request = true :=
      (Expectation.equal_iff.mp hsame).2.2.1
    -- the matcher keeps its old expectation, which equals the one that is enrolled now
    rw [if_pos (hdef.mpr hrequest)]
    exact { h with id := h.id.trans hid, expectation := .inr hsame }
  · by_cases hrequest : m.expectation.request.equal e.request = true
    · simp only [if_pos hrequest, if_pos (hdef.mpr hrequest)]
      exact { h with
        id := h.id.trans hid
        expectation := .inl rfl
        definition := .inr (hdef.mpr hrequest) }
    · simp only [if_neg hrequest, if_neg (mt hdef.mp hrequest)]
      exact { h with
        id := h.id.trans hid
        pattern := by rw [h.matchType]
        expectation := .inl rfl
        definition := .inl rfl }

end

structure Holds (c : Comparator) (matchType : JsonMatchType)
    (e : Listed String ExpectationMatcher) (x : Enrolled) : Prop where
  ranked : e.ranked = true
  key : e.key = x.expectation.id
  mirrors : Mirrors c matchType e.value x

abbrev HoldAll (c : Comparator) (matchType : JsonMatchType) :
    Roster String ExpectationMatcher → Enrolment → Prop :=
  List.Forall₂ (Holds c matchType)

section
variable {c : Comparator} {matchType : JsonMatchType} {es : Roster String ExpectationMatcher}
  {l : Enrolment}

theorem HoldAll.hasKey (h : HoldAll c matchType es l) (id : String) :
    es.hasKey id = l.any (·.expectation.id = id) := by
  have hkeys : es.map (·.key) = l.map (·.expectation.id) := map_eq_of_forall₂ h Holds.key
  have hany := congrArg (·.any (· = id)) hkeys
  rwa [List.any_map, List.any_map] at hany

theorem HoldAll.change (h : HoldAll c matchType es l) {id : String}
    {f : Listed String ExpectationMatcher → Listed String ExpectationMatcher}
    {g : Enrolled → Enrolled}
    (hfg : ∀ e ∈ es, ∀ x, e.key = id → Holds c matchType e x → Holds c matchType (f e) (g x)) :
    HoldAll c matchType (es.change id f) (l.change id g) := by
  have hmem := (List.forall₂_and_left es l).mpr ⟨fun e he => he, h⟩
  rw [HoldAll, Roster.change, Enrolment.change, List.forall₂_map_left_iff,
    List.forall₂_map_right_iff]
  refine hmem.imp fun e x hex => ?_
  rw [← hex.2.key]
  by_cases hid : e.key = id
  · simpa only [if_pos hid] using hfg e hex.1 x hid hex.2
  · simpa only [if_neg hid] using hex.2

theorem HoldAll.filter (h : HoldAll c matchType es l) (id : String) :
    HoldAll c matchType (es.filter fun e => e.key ≠ id) (l.filter (·.expectation.id ≠ id)) :=
  forall₂_filter h fun hex => by rw [hex.key]

theorem HoldAll.push (h : HoldAll c matchType es l) (capacity : Nat) (e : Expectation)
    (origin : Origin) :
    HoldAll c matchType (es.push capacity e.id (.ofExpectation c matchType origin e)).2
      (l.push capacity e) := by
  have hnew : Holds c matchType ⟨e.id, .ofExpectation c matchType origin e, true⟩
      ⟨e, e.request, true, false⟩ :=
    ⟨rfl, rfl, ⟨rfl, rfl, rfl, rfl, .inl rfl, .inl rfl, rfl, rfl⟩⟩
  have hlonger := List.rel_append h (.cons hnew .nil)
  simp only [Roster.push, Enrolment.push, hlonger.length_eq]
  split
  · exact hlonger
  · simpa only [List.drop_one] using List.forall₂_drop 1 hlonger

theorem HoldAll.addNew (h : HoldAll c matchType es l) (capacity : Nat) {e : Expectation}
    (hkey : es.hasKey e.id = false) (origin : Origin) :
    HoldAll c matchType (es.add capacity (·.id) (.ofExpectation c matchType origin e)).2
      (if capacity = 0 then l else l.push capacity e) := by
  have hid : (ExpectationMatcher.ofExpectation c matchType origin e).id = e.id := rfl
  simp only [Roster.add, hid, hkey, Bool.false_eq_true, if_false]
  split
  · exact h
  · exact h.push capacity e origin

theorem HoldAll.id_eq (h : HoldAll c matchType es l) : ∀ e ∈ es, e.value.id = e.key :=
  ((List.forall₂_and_left es l).mp
    (h.imp fun _ _ hex => ⟨hex.mirrors.id.trans hex.key.symm, hex⟩)).1

theorem value_of_get? (hn : (es.map (·.key)).Nodup) {id : String} {m : ExpectationMatcher}
    (hm : es.get? id = some m) : ∀ e ∈ es, e.key = id → e.value = m := by
  intro e he hid
  obtain ⟨found, hfound, rfl⟩ := Option.map_eq_some_iff.mp hm
  have hkey : found.key = id := by simpa using List.find?_some hfound
  rw [List.inj_on_of_nodup_map hn he (List.mem_of_find?_eq_some hfound) (hid.trans hkey.symm)]

theorem HoldAll.renew (h : HoldAll c matchType es l) (hn : (es.map (·.key)).Nodup)
    {e : Expectation} {m : ExpectationMatcher} (hm : es.get? e.id = some m) :
    HoldAll c matchType
      (es.change e.id fun r =>
        { r with value := (m.update { e with created := m.expectation.created }).2 })
      (l.change e.id (.renew e)) := by
  refine h.change fun r hr x hid hrx => ?_
  have hvalue := value_of_get? hn hm r hr hid
  have hmirrors := hrx.mirrors.update (hrx.key.symm.trans hid)
  rw [hvalue] at hmirrors
  exact ⟨hrx.ranked, hrx.key.trans (hrx.key.symm.trans hid), hmirrors⟩

/-- An update puts the matcher back in its place, and one that changes nothing may be left out. -/
theorem HoldAll.addKnown (h : HoldAll c matchType es l) (hn : (es.map (·.key)).Nodup)
    (capacity : Nat) {e : Expectation} {m : ExpectationMatcher} (hm : es.get? e.id = some m) :
    let u := m.update { e with created := m.expectation.created }
    HoldAll c matchType (if u.1 then (es.add capacity (·.id) u.2).2 else es)
      (if capacity = 0 then l else l.change e.id (.renew e)) := by
  intro u
  have hrenew := h.renew hn hm
  have hkey : es.hasKey e.id = true := by rw [Store.hasKey_eq_isSome, hm, Option.isSome_some]
  have hid : u.2.id = e.id := by
    obtain ⟨r, hr, hrid⟩ := List.any_eq_true.mp hkey
    have hrid : r.key = e.id := by simpa using hrid
    rw [ExpectationMatcher.update_id, ← value_of_get? hn hm r hr hrid, h.id_eq r hr, hrid]
  by_cases hcapacity : capacity = 0
  · -- nothing is ever stored, so both sides stay as they are
    simpa only [Roster.add, if_pos hcapacity, ite_self] using h
  · simp only [Roster.add, hid, hkey, if_neg hcapacity, if_true]
    cases hchanged : u.1 with
    | true => exact hrenew
    | false =>
      have hself : es.change e.id (fun r => { r with value := u.2 }) = es :=
        Store.change_eq_self fun r hr hrid => by
          rw [ExpectationMatcher.update_of_false hchanged, ← value_of_get? hn hm r hr hrid]
      exact hself ▸ hrenew

end

end RequestMatching
