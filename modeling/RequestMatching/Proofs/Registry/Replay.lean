import RequestMatching.Proofs.Registry.Lookup

/-!
# Replaying the changes of a registry

Whoever sees the changes of a registry from its beginning on knows which expectations are there and in
which order they came: the changes can be replayed on a list of identifiers, and none of them is ever
out of place there.
-/

namespace RequestMatching

namespace RegistryChange

def replay (ids : List String) : RegistryChange → Option (List String)
  | added id => if id ∈ ids then none else some (ids ++ [id])
  | updated id => if id ∈ ids then some ids else none
  | removed id => if id ∈ ids then some (ids.filter (· ≠ id)) else none
  | reset => some []

def replayAll (ids : List String) : List RegistryChange → Option (List String)
  | [] => some ids
  | change :: rest => (change.replay ids).bind fun ids => replayAll ids rest

theorem replayAll_append : ∀ (ids : List String) (xs ys : List RegistryChange),
    replayAll ids (xs ++ ys) = (replayAll ids xs).bind fun ids => replayAll ids ys
  | ids, [], ys => rfl
  | ids, x :: xs, ys => by
    simp only [List.cons_append, replayAll]
    cases x.replay ids with
    | none => rfl
    | some next => exact replayAll_append next xs ys

theorem replayAll_single (ids : List String) (x : RegistryChange) :
    replayAll ids [x] = x.replay ids := by
  simp [replayAll]

end RegistryChange

open RegistryChange

/-- Whether two expectations differ in nothing but the time of their creation. -/
def Expectation.sameButForCreation (a b : Expectation) : Bool :=
  a.id == b.id && a.priority == b.priority && a.request.equal b.request && a.action.equal b.action

theorem Mirrors.expectation_id {c : Comparator} {matchType : JsonMatchType}
    {m : ExpectationMatcher} {x : Enrolled} (h : Mirrors c matchType m x) :
    m.expectation.id = x.expectation.id := by
  rcases h.expectation with he | he
  · rw [he]
  · exact (Expectation.equal_iff.mp he).1

namespace Registry

variable {capacity : Nat} {c : Comparator} {matchType : JsonMatchType} {r : Registry} {l : Enrolment}

/-! ## Changes of the list of identifiers -/

section
variable {es : Roster String ExpectationMatcher}

theorem replayAll_push (hn : (es.map (·.key)).Nodup) (hid : ∀ e ∈ es, e.value.id = e.key)
    {m : ExpectationMatcher} (hm : m.id ∉ es.map (·.key)) :
    replayAll (es.map (·.key))
        (added m.id :: ((es.push capacity m.id m).1.map fun old => removed old.id).toList) =
      some ((es.push capacity m.id m).2.map (·.key)) := by
  have hadded : (added m.id).replay (es.map (·.key)) = some (es.map (·.key) ++ [m.id]) := if_neg hm
  rw [replayAll, hadded, Option.bind_some, Roster.push]
  by_cases hlen : (es ++ [(⟨m.id, m, true⟩ : Listed String ExpectationMatcher)]).length ≤ capacity
  · simp only [if_pos hlen]
    simp [replayAll]
  · simp only [if_neg hlen]
    cases es with
    | nil => simp [replayAll, RegistryChange.replay]
    | cons e es =>
      obtain ⟨hhead, -⟩ := List.nodup_cons.mp hn
      have hrest : ∀ id ∈ es.map (·.key) ++ [m.id], id ≠ e.key := by
        intro id hi heq
        subst heq
        rcases List.mem_append.mp hi with hi | hi
        · exact hhead hi
        · exact hm (by simp [List.mem_singleton.mp hi])
      have hfilter := List.filter_eq_self.mpr fun id hi => decide_eq_true (hrest id hi)
      simp only [List.cons_append, List.head?_cons, Option.map_some, Option.toList_some,
        List.tail_cons, replayAll_single, RegistryChange.replay, hid e List.mem_cons_self,
        List.map_cons, List.mem_cons, true_or, if_true]
      rw [List.filter_cons_of_neg (by simp), hfilter, List.map_append]
      rfl

theorem keys_change (es : Roster String ExpectationMatcher) (id : String)
    {f : Listed String ExpectationMatcher → Listed String ExpectationMatcher}
    (hf : ∀ e, (f e).key = e.key) : (es.change id f).map (·.key) = es.map (·.key) := by
  rw [Roster.change, List.map_map]
  refine List.map_congr_left fun e _ => ?_
  by_cases hid : e.key = id <;> simp [hid, hf]

theorem keys_add_known {keyOf : ExpectationMatcher → String} {m : ExpectationMatcher}
    (h : es.hasKey (keyOf m) = true) :
    (es.add capacity keyOf m).2.map (·.key) = es.map (·.key) := by
  by_cases hcapacity : capacity = 0
  · rw [Roster.add, if_pos hcapacity]
  · rw [Roster.add, if_neg hcapacity, if_pos h]
    exact keys_change es _ fun _ => rfl

end

theorem Follows.keys_nodup (h : Follows capacity c matchType r l) :
    (r.store.roster.map (·.key)).Nodup :=
  Store.roster_keys r.store ▸ h.coherent.nodup

theorem Follows.ids_eq (h : Follows capacity c matchType r l) :
    r.expectations.map (·.id) = r.store.roster.map (·.key) := by
  have hids : ∀ e ∈ r.store.roster, e.value.expectation.id = e.key :=
    ((List.forall₂_and_left _ _).mp
      (h.holds.imp fun _ _ hex => ⟨hex.mirrors.expectation_id.trans hex.key.symm, hex⟩)).1
  rw [expectations, h.coherent.values_eq, List.map_map, List.map_map]
  exact List.map_congr_left hids

theorem Follows.mem_ids_iff (h : Follows capacity c matchType r l) (id : String) :
    id ∈ r.expectations.map (·.id) ↔ (r.get? id).isSome := by
  have hget : r.get? id = r.store.roster.get? id := r.store.get?_eq id
  rw [h.ids_eq, hget, ← Store.hasKey_eq_isSome, Roster.hasKey]
  simp

/-! ## What each operation sends -/

/-- The changes that an operation sends. -/
def news (r : Registry) : Op → List RegistryChange
  | .add e origin =>
    if Text.isBlank e.id then []
    else
      match r.get? e.id with
      | some m => if m.expectation.sameButForCreation e then [] else [updated e.id]
      | none =>
        if r.store.isDisabled then []
        else
          let m := ExpectationMatcher.ofExpectation r.comparator r.matchType origin e
          added e.id :: ((r.store.add m).1.map fun old => removed old.id).toList
  | .remove id => if (r.get? id).isSome then [removed id] else []
  | .reset => [RegistryChange.reset]
  | .setActive .. | .setBusy .. | .lookup _ => []

theorem update_fst (m : ExpectationMatcher) (e : Expectation) :
    (m.update { e with created := m.expectation.created }).1 = !m.expectation.sameButForCreation e := by
  have hequal : m.expectation.equal { e with created := m.expectation.created } =
      m.expectation.sameButForCreation e := by
    simp [Expectation.equal, Expectation.sameButForCreation]
  rw [ExpectationMatcher.update_fst, hequal]

theorem update_changes (r : Registry) (m : ExpectationMatcher) (e : Expectation) :
    (r.update m e).2.changes = r.changes ++
      if m.expectation.sameButForCreation e then [] else [updated m.id] := by
  have hfst := update_fst m e
  have hid := m.update_id { e with created := m.expectation.created }
  simp only [Registry.update]
  rcases hu : m.update { e with created := m.expectation.created } with ⟨changed, next⟩
  rw [hu] at hfst hid
  simp only at hfst hid ⊢
  cases hsame : m.expectation.sameButForCreation e <;> simp [hfst, hid, hsame, note]

theorem insert_changes (r : Registry) (m : ExpectationMatcher) :
    (r.insert m).changes = r.changes ++ if r.store.isDisabled then []
      else added m.id :: ((r.store.add m).1.map fun old => removed old.id).toList := by
  unfold insert
  cases r.store.isDisabled with
  | true => simp
  | false =>
    rcases r.store.add m with ⟨_ | old, store⟩
    · simp [note, recordSize]
    · simp [note, recordSize]

theorem remove_changes (r : Registry) (id : String) :
    (r.remove id).2.changes = r.changes ++ if (r.get? id).isSome then [removed id] else [] := by
  unfold Registry.remove Store.removeKey get? Store.get?
  cases r.store.slot? id with
  | none => simp
  | some slot => simp [note, recordSize]

theorem Follows.id_of_get? (h : Follows capacity c matchType r l) {id : String}
    {m : ExpectationMatcher} (hm : r.get? id = some m) : m.id = id := by
  have hget : r.store.roster.get? id = some m := r.store.get?_eq id ▸ hm
  obtain ⟨e, he, rfl⟩ := Option.map_eq_some_iff.mp hget
  rw [h.holds.id_eq e (List.mem_of_find?_eq_some he)]
  simpa using List.find?_some he

theorem Follows.changes_apply (h : Follows capacity c matchType r l) (op : Op) :
    (r.apply op).changes = r.changes ++ r.news op := by
  cases op with
  | add e origin =>
    rw [news]
    cases he : Text.isBlank e.id with
    | true => simp [apply_add_of_blank he]
    | false =>
      rw [if_neg Bool.false_ne_true]
      cases hm : r.get? e.id with
      | some m => rw [apply_add_of_some he hm, update_changes, h.id_of_get? hm]
      | none =>
        rw [apply_add_of_none he hm, insert_changes]
        rfl
  | remove id => exact r.remove_changes id
  | reset => rfl
  | setActive id active => exact (List.append_nil _).symm
  | setBusy id busy => exact (List.append_nil _).symm
  | lookup request => exact (List.append_nil _).symm

/-! ## Replaying what is sent -/

theorem Follows.keys_update (h : Follows capacity c matchType r l) {e : Expectation}
    {m : ExpectationMatcher} (hm : r.get? e.id = some m) :
    (r.update m e).2.store.roster.map (·.key) = r.store.roster.map (·.key) := by
  have hkeyOf : r.store.keyOf = (·.id) := congrArg (·.2.1) h.rules
  rw [(r.update_becomes m e).store_eq]
  split
  · have hid : (m.update { e with created := m.expectation.created }).2.id = e.id :=
      (m.update_id _).trans (h.id_of_get? hm)
    have hget : r.store.roster.get? e.id = some m := r.store.get?_eq e.id ▸ hm
    rw [(h.coherent.add _).roster_eq, keys_add_known]
    simp only [hkeyOf, hid]
    rw [Store.hasKey_eq_isSome, hget, Option.isSome_some]
  · rfl

theorem Follows.replay_add (h : Follows capacity c matchType r l) (e : Expectation) (origin : Origin) :
    replayAll (r.store.roster.map (·.key)) (r.news (.add e origin)) =
      some ((r.apply (.add e origin)).store.roster.map (·.key)) := by
  have hkeyOf : r.store.keyOf = (·.id) := congrArg (·.2.1) h.rules
  rw [news]
  cases he : Text.isBlank e.id with
  | true => rw [apply_add_of_blank he, if_pos rfl, replayAll]
  | false =>
    rw [if_neg Bool.false_ne_true]
    cases hm : r.get? e.id with
    | some m =>
      have hmem : e.id ∈ r.store.roster.map (·.key) := by
        rw [← h.ids_eq, h.mem_ids_iff, hm, Option.isSome_some]
      rw [apply_add_of_some he hm, h.keys_update hm]
      cases hsame : m.expectation.sameButForCreation e with
      | true => simp [hsame, replayAll]
      | false => simpa [hsame, replayAll_single, RegistryChange.replay] using hmem
    | none =>
      rw [apply_add_of_none he hm]
      simp only
      generalize hnew : ExpectationMatcher.ofExpectation r.comparator r.matchType origin e = new
      have hid : new.id = e.id := by rw [← hnew]; rfl
      have hnot : new.id ∉ r.store.roster.map (·.key) := by
        rw [hid, ← h.ids_eq, h.mem_ids_iff, hm]
        simp
      rw [(r.insert_becomes new).store_eq, (h.coherent.add new).answer, (h.coherent.add new).roster_eq,
        hkeyOf]
      by_cases hcapacity : r.store.capacity = 0
      · simp [Roster.add, Store.isDisabled, hcapacity, replayAll]
      · have hkey : r.store.roster.hasKey new.id = false := by
          rw [← Bool.not_eq_true]
          simpa [Roster.hasKey] using hnot
        simp only [Roster.add, Store.isDisabled, beq_iff_eq, hcapacity, hkey, Bool.false_eq_true,
          if_false, ← hid]
        exact replayAll_push h.keys_nodup h.holds.id_eq hnot

/-- What one operation sends leads from the identifiers before it to those after it. -/
theorem Follows.replay_news (h : Follows capacity c matchType r l) (op : Op) :
    replayAll (r.store.roster.map (·.key)) (r.news op) =
      some ((r.apply op).store.roster.map (·.key)) := by
  cases op with
  | add e origin => exact h.replay_add e origin
  | remove id =>
    have hmem : (r.get? id).isSome = true ↔ id ∈ r.store.roster.map (·.key) := by
      rw [← h.mem_ids_iff, h.ids_eq]
    rw [Registry.apply, (r.remove_becomes id).store_eq, (h.coherent.remove id).roster_eq,
      Roster.removeKey]
    simp only [news, hmem]
    by_cases hid : id ∈ r.store.roster.map (·.key)
    · rw [if_pos hid, replayAll_single, RegistryChange.replay, if_pos hid, List.filter_map]
      rfl
    · rw [if_neg hid, replayAll, Store.filter_of_notMem hid]
  | reset => rfl
  | setActive id active =>
    rw [news, replayAll, Registry.apply, setActive, h.coherent.modify_roster, keys_change]
    exact fun _ => rfl
  | setBusy id busy =>
    rw [news, replayAll, Registry.apply, setBusy, h.coherent.modify_roster, keys_change]
    exact fun _ => rfl
  | lookup request => rfl

theorem Follows.replay_run (ops : List Op) : ∀ {r : Registry} {l : Enrolment},
    Follows capacity c matchType r l →
      replayAll [] r.changes = some (r.store.roster.map (·.key)) →
      replayAll [] (r.run ops).changes = some ((r.run ops).store.roster.map (·.key)) := by
  induction ops with
  | nil => exact fun _ hr => hr
  | cons op ops ih =>
    intro r l h hr
    refine ih (h.apply op) ?_
    rw [h.changes_apply, replayAll_append, hr, Option.bind_some, h.replay_news]

/-- An update is sent if and only if an addition under a registered identifier changes something. -/
theorem Follows.updated_mem_news (h : Follows capacity c matchType r l)
    (hl : ∀ x ∈ l, Text.isBlank x.expectation.id = false) (op : Op) (id : String) :
    updated id ∈ r.news op ↔ ∃ e origin m, op = .add e origin ∧ r.get? e.id = some m ∧
      m.expectation.sameButForCreation e = false ∧ id = e.id := by
  cases op with
  | add e origin =>
    have hblank : ∀ m, r.get? e.id = some m → Text.isBlank e.id = false := by
      intro m hm
      have hmem : e.id ∈ r.store.roster.map (·.key) := by
        rw [← h.ids_eq, h.mem_ids_iff, hm, Option.isSome_some]
      rw [map_eq_of_forall₂ h.holds Holds.key] at hmem
      obtain ⟨x, hx, hid⟩ := List.mem_map.mp hmem
      rw [← hid]
      exact hl x hx
    simp only [news, Op.add.injEq]
    constructor
    · intro hmem
      cases hm : r.get? e.id with
      | none => simp [hm] at hmem
      | some m =>
        cases hsame : m.expectation.sameButForCreation e with
        | true => simp [hm, hsame] at hmem
        | false =>
          have hid : id = e.id := by simpa [hm, hblank m hm, hsame] using hmem
          exact ⟨e, origin, m, ⟨rfl, rfl⟩, hm, hsame, hid⟩
    · rintro ⟨_, _, m, ⟨rfl, rfl⟩, hm, hsame, rfl⟩
      simp [hm, hsame, hblank m hm]
  | remove name => by_cases hname : (r.get? name).isSome <;> simp [news, hname]
  | reset => simp [news]
  | setActive name active => simp [news]
  | setBusy name busy => simp [news]
  | lookup request => simp [news]

theorem news_of_updated_mem (op : Op) {id : String} (h : updated id ∈ r.news op) :
    r.news op = [updated id] := by
  cases op with
  | add e origin =>
    simp only [news] at h ⊢
    by_cases he : Text.isBlank e.id
    · simp [he] at h
    · cases hm : r.get? e.id with
      | none => by_cases hd : r.store.isDisabled <;> simp [he, hm, hd] at h
      | some m =>
        by_cases hsame : m.expectation.sameButForCreation e
        · simp [he, hm, hsame] at h
        · simpa [he, hm, hsame, eq_comm] using h
  | remove name => by_cases hname : (r.get? name).isSome <;> simp [news, hname] at h
  | reset => simp [news] at h
  | setActive name active => simp [news] at h
  | setBusy name busy => simp [news] at h
  | lookup request => simp [news] at h

theorem apply_of_refused {e : Expectation} {origin : Origin} {f : LoadError}
    (h : r.add e origin = .error f) : r.apply (.add e origin) = r := by
  rw [apply, h]

theorem enrolment_run_zero (ops : List Op) : Enrolment.run 0 [] ops = [] := by
  induction ops with
  | nil => rfl
  | cons op ops ih =>
    have hstep : Enrolment.apply 0 [] op = [] := by
      cases op <;> simp [Enrolment.apply, Enrolment.add, Enrolment.change]
    rw [Enrolment.run, hstep, ih]

theorem Follows.apply_of_disabled (h : Follows 0 c matchType r []) (e : Expectation)
    (origin : Origin) : r.apply (.add e origin) = r := by
  have hcapacity : r.store.capacity = 0 := congrArg (·.1) h.rules
  have hnone : r.get? e.id = none := by
    rw [← Option.not_isSome_iff_eq_none, ← h.mem_ids_iff, h.ids_eq, map_eq_of_forall₂ h.holds Holds.key]
    exact List.not_mem_nil
  cases he : Text.isBlank e.id with
  | true => exact apply_add_of_blank he origin
  | false => simp [apply_add_of_none he hnone, insert, Store.isDisabled, hcapacity]

/-- The changes of a registry, replayed from no expectations at all, give the identifiers in their
order; each operation sends what leads from those before it to those after it. An update is sent for
an addition that finds its identifier and changes something, and an addition that fails or finds no
room at all does nothing. -/
theorem run_replay (capacity : Nat) (c : Comparator) (detailed : Bool) (matchType : JsonMatchType)
    (ops : List Op) :
    let r := (empty capacity c detailed matchType).run ops
    let ids (r : Registry) := r.expectations.map (·.id)
    replayAll [] r.changes = some (ids r) ∧
      ∀ op, ∃ sent, (r.apply op).changes = r.changes ++ sent ∧
        replayAll (ids r) sent = some (ids (r.apply op)) ∧
        (∀ id, updated id ∈ sent ↔ ∃ e origin m, op = .add e origin ∧ r.get? e.id = some m ∧
          m.expectation.sameButForCreation e = false ∧ id = e.id) ∧
        (∀ id, updated id ∈ sent → sent = [updated id]) ∧
        ∀ e origin, op = .add e origin →
          (capacity = 0 ∨ ∃ f, r.add e origin = .error f) → sent = [] ∧ r.apply op = r := by
  intro r ids
  have hempty := empty_follows capacity c detailed matchType
  have hfollows : Follows capacity c matchType r (Enrolment.run capacity [] ops) := hempty.run ops
  have hids : ids r = r.store.roster.map (·.key) := hfollows.ids_eq
  refine ⟨?_, fun op => ⟨r.news op, hfollows.changes_apply op, ?_, ?_, ?_, ?_⟩⟩
  · rw [hids]
    exact hempty.replay_run ops rfl
  · rw [hids, hfollows.replay_news, ← (hfollows.apply op).ids_eq]
  · exact hfollows.updated_mem_news (Enrolment.not_isBlank_run capacity ops) op
  · exact fun id => news_of_updated_mem op
  · intro e origin hop hrefused
    have hsame : r.apply op = r := by
      rcases hrefused with rfl | ⟨f, hf⟩
      · rw [hop]
        exact (enrolment_run_zero ops ▸ hfollows).apply_of_disabled e origin
      · rw [hop, apply_of_refused hf]
    refine ⟨?_, hsame⟩
    have hchanges := hfollows.changes_apply op
    rw [hsame] at hchanges
    exact List.self_eq_append_right.mp hchanges

end Registry
end RequestMatching
