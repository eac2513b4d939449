import Mathlib.Data.List.Basic
import RequestMatching.Pattern.MultiMap
import RequestMatching.Proofs.Json.Taking
import RequestMatching.Proofs.Pattern.Marks

/-!
# Multimaps by key

A multimap is written with one group of values for each key, so what is read back has the entries of
a key side by side.
-/

namespace RequestMatching

namespace Groups

variable {K V : Type} [DecidableEq K]

theorem foldl_add_cons (key : K) (values : List V) (groups : Groups K V) (pairs : List (K × V)) :
    pairs.foldl (fun groups (k, v) => add k v groups) ((key, values) :: groups) =
      (key, values ++ (pairs.filter (·.1 = key)).map Prod.snd) ::
        (pairs.filter (·.1 ≠ key)).foldl (fun groups (k, v) => add k v groups) groups := by
  induction pairs generalizing values groups with
  | nil => simp
  | cons p rest ih =>
    obtain ⟨k, v⟩ := p
    by_cases hk : k = key
    · subst hk
      simp [add, ih]
    · have hk' : key ≠ k := fun h => hk h.symm
      simp [add, hk, hk', ih]

theorem ofPairs_cons (key : K) (value : V) (pairs : List (K × V)) : ofPairs ((key, value) :: pairs) =
    (key, value :: (pairs.filter (·.1 = key)).map Prod.snd) :: ofPairs (pairs.filter (·.1 ≠ key)) :=
  foldl_add_cons key [value] [] pairs

end Groups

namespace MultiMap

/-- The entries key by key: keys in the order of their first entries, and the entries of a key in their
order. -/
def regroup (m : MultiMap) : MultiMap :=
  (m.map (·.key)).eraseDups.flatMap fun k => m.filter (·.key = k)

/-- Entries with equal keys are adjacent: nothing with another key stands between them. -/
def KeysAdjacent (m : MultiMap) : Prop :=
  ∀ a b c, [a, b, c].Sublist m → a.key = c.key → b.key = a.key

/-- All keys and values have been read from texts. -/
def IsRead (m : MultiMap) : Prop :=
  ∀ e ∈ m, e.key.IsRead ∧ e.value.IsRead

theorem regroup_cons (e : Entry) (m : MultiMap) : regroup (e :: m) =
    e :: (m.filter (·.key = e.key) ++ regroup (m.filter (·.key ≠ e.key))) := by
  have hkeys : ((m.map (·.key)).filter fun k => !k == e.key) =
      (m.filter (·.key ≠ e.key)).map (·.key) := by
    rw [List.filter_map]
    congr 1
    refine List.filter_congr fun x _ => ?_
    by_cases hx : x.key = e.key <;> simp [hx]
  rw [regroup, List.map_cons, List.eraseDups_cons, List.flatMap_cons, hkeys]
  rw [List.filter_cons_of_pos (by simp), List.cons_append, regroup]
  congr 2
  refine List.flatMap_congr fun k hk => ?_
  have hne : k ≠ e.key := by
    rw [List.mem_eraseDups, List.mem_map] at hk
    obtain ⟨x, hx, rfl⟩ := hk
    simpa using (List.mem_filter.mp hx).2
  rw [List.filter_cons_of_neg (by simpa using hne.symm), List.filter_filter]
  refine List.filter_congr fun x _ => ?_
  by_cases hx : x.key = k <;> simp [hx, hne]

theorem mem_regroup {e : Entry} {m : MultiMap} : e ∈ regroup m ↔ e ∈ m := by
  simp only [regroup, List.mem_flatMap, List.mem_eraseDups, List.mem_map, List.mem_filter,
    decide_eq_true_eq]
  constructor
  · rintro ⟨k, -, he, -⟩
    exact he
  · exact fun he => ⟨e.key, ⟨e, he, rfl⟩, he, rfl⟩

theorem KeysAdjacent.sublist {l m : MultiMap} (h : KeysAdjacent m) (hl : l.Sublist m) :
    KeysAdjacent l :=
  fun a b c habc => h a b c (habc.trans hl)

theorem keysAdjacent_cons {e : Entry} {m : MultiMap} : KeysAdjacent (e :: m) ↔
    (m.Pairwise fun b c => c.key = e.key → b.key = e.key) ∧ KeysAdjacent m := by
  constructor
  · intro h
    refine ⟨List.pairwise_iff_forall_sublist.mpr fun {b c} hbc hc => ?_,
      h.sublist (List.sublist_cons_self e m)⟩
    exact h e b c (hbc.cons_cons e) hc.symm
  · rintro ⟨hpairs, hm⟩ a b c habc hac
    rcases List.sublist_cons_iff.mp habc with habc | ⟨rest, heq, hrest⟩
    · exact hm a b c habc hac
    · cases heq
      exact List.pairwise_iff_forall_sublist.mp hpairs hrest hac.symm

theorem keysAdjacent_append {k : Flagged} {l m : MultiMap} (hl : ∀ e ∈ l, e.key = k)
    (hm : ∀ e ∈ m, e.key ≠ k) (h : KeysAdjacent m) : KeysAdjacent (l ++ m) := by
  induction l with
  | nil => exact h
  | cons e l ih =>
    have hl' : ∀ e ∈ l, e.key = k := fun e he => hl e (List.mem_cons_of_mem _ he)
    obtain rfl : e.key = k := hl e (List.mem_cons_self ..)
    refine keysAdjacent_cons.mpr ⟨List.pairwise_append.mpr ⟨?_, ?_, ?_⟩, ih hl'⟩
    · exact List.pairwise_iff_forall_sublist.mpr fun hbc _ => hl' _ (hbc.subset (List.mem_cons_self ..))
    · refine List.pairwise_iff_forall_sublist.mpr fun {b c} hbc hc => absurd hc (hm c ?_)
      exact hbc.subset (by simp)
    · exact fun b hb c _ _ => hl' b hb

theorem filter_append_filter {k : Flagged} {m : MultiMap}
    (h : m.Pairwise fun b c => c.key = k → b.key = k) :
    m.filter (·.key = k) ++ m.filter (·.key ≠ k) = m := by
  induction m with
  | nil => rfl
  | cons e m ih =>
    obtain ⟨hhead, hm⟩ := List.pairwise_cons.mp h
    by_cases hk : e.key = k
    · simpa [hk] using ih hm
    · -- from here on, no entry has the key
      have hnone : m.filter (·.key = k) = [] :=
        List.filter_eq_nil_iff.mpr fun c hc hck => hk (hhead c hc (by simpa using hck))
      have hrest := ih hm
      rw [hnone, List.nil_append] at hrest
      simpa [hk, hnone] using hrest

theorem length_filter_lt (e : Entry) (m : MultiMap) (p : Entry → Bool) :
    (m.filter p).length < (e :: m).length :=
  Nat.lt_succ_of_le (List.length_filter_le p m)

theorem keysAdjacent_regroup : ∀ m : MultiMap, KeysAdjacent m.regroup
  | [] => fun a b c habc => by cases habc
  | e :: m => by
    have hrest := keysAdjacent_regroup (m.filter (·.key ≠ e.key))
    rw [regroup_cons, ← List.cons_append]
    refine keysAdjacent_append (k := e.key) (fun x hx => ?_) (fun x hx => ?_) hrest
    · rcases List.mem_cons.mp hx with rfl | hx
      · rfl
      · simpa using (List.mem_filter.mp hx).2
    · simpa using (List.mem_filter.mp (mem_regroup.mp hx)).2
termination_by m => m.length
decreasing_by exact length_filter_lt e m _

theorem regroup_of_keysAdjacent : ∀ {m : MultiMap}, KeysAdjacent m → m.regroup = m
  | [], _ => rfl
  | e :: m, h => by
    obtain ⟨hpairs, hm⟩ := keysAdjacent_cons.mp h
    have hrest := regroup_of_keysAdjacent (hm.sublist (List.filter_sublist (p := (·.key ≠ e.key))))
    rw [regroup_cons, hrest, filter_append_filter hpairs]
termination_by m => m.length
decreasing_by exact length_filter_lt e m _

/-- Grouping by key changes nothing exactly when entries with equal keys are adjacent. -/
theorem regroup_eq_self_iff (m : MultiMap) : m.regroup = m ↔ KeysAdjacent m :=
  ⟨fun h => h ▸ keysAdjacent_regroup m, regroup_of_keysAdjacent⟩

theorem regroup_regroup (m : MultiMap) : m.regroup.regroup = m.regroup :=
  regroup_of_keysAdjacent (keysAdjacent_regroup m)

/-! ## The groups that are written -/

theorem groups_cons (e : Entry) (m : MultiMap) : groups (e :: m) =
    (e.key.text, e.value.text :: (m.filter (·.key.text = e.key.text)).map (·.value.text)) ::
      groups (m.filter (·.key.text ≠ e.key.text)) := by
  rw [groups, List.map_cons, Groups.ofPairs_cons, groups]
  simp [List.filter_map, Function.comp_def]

theorem parse_texts {e : Entry} (hkey : e.key.IsRead) (hvalue : e.value.IsRead) :
    Entry.parse e.key.text e.value.text = e := by
  rw [Entry.parse, hkey.parse_text, hvalue.parse_text]

theorem ofMembers_groups : ∀ {m : MultiMap}, IsRead m → ofMembers m.groups = m.regroup
  | [], _ => rfl
  | e :: m, h => by
    have hm : IsRead m := fun x hx => h x (List.mem_cons_of_mem _ hx)
    obtain ⟨hkey, hvalue⟩ := h e (List.mem_cons_self ..)
    have hrest := ofMembers_groups (m := m.filter (·.key ≠ e.key))
      fun x hx => hm x (List.mem_filter.mp hx).1
    have hsame : m.filter (·.key.text = e.key.text) = m.filter (·.key = e.key) :=
      List.filter_congr fun x hx => by simp only [(hm x hx).1.text_inj hkey]
    have hother : m.filter (·.key.text ≠ e.key.text) = m.filter (·.key ≠ e.key) :=
      List.filter_congr fun x hx => by simp only [ne_eq, (hm x hx).1.text_inj hkey]
    have hgroup : (m.filter (·.key = e.key)).map
        (fun x => Entry.parse e.key.text x.value.text) = m.filter (·.key = e.key) := by
      refine (List.map_congr_left fun x hx => ?_).trans (List.map_id _)
      obtain ⟨hx, hxkey⟩ := List.mem_filter.mp hx
      rw [← of_decide_eq_true hxkey]
      exact parse_texts (hm x hx).1 (hm x hx).2
    have hcons : ∀ (k : String) (vs : List String) (gs : Groups String String),
        ofMembers ((k, vs) :: gs) = vs.map (Entry.parse k) ++ ofMembers gs := fun _ _ _ => rfl
    rw [groups_cons, hsame, hother, regroup_cons, ← hrest, hcons, List.map_cons, List.map_map,
      parse_texts hkey hvalue, List.cons_append]
    congr 2
termination_by m => m.length
decreasing_by exact length_filter_lt e m _

/-! ## JSON -/

def groupJson : List String → Json
  | [v] => .string v
  | vs => .array (vs.map .string)

def toJson (m : MultiMap) : Json :=
  .object (m.groups.map fun (k, vs) => (k, groupJson vs))

theorem groupJson_text (vs : List String) : (groupJson vs).text = groupText vs := by
  have hitems : ∀ vs : List String, Json.itemTexts (vs.map .string) = vs.map Json.quote := fun vs => by
    simp [Json.itemTexts_eq_map, Json.text]
  rcases vs with - | ⟨v, - | ⟨w, vs⟩⟩
  · rfl
  · rfl
  · simp only [groupJson, groupText, Json.text, hitems]

theorem toJson_text (m : MultiMap) : m.toJson.text = m.jsonText := by
  simp [toJson, jsonText, Json.text, Json.memberTexts_eq_map, groupJson_text, Function.comp_def]

theorem groupJson_numbers (vs : List String) : (groupJson vs).numbers = [] := by
  unfold groupJson
  split
  · rfl
  · simp [Json.numbers, Json.itemNumbers_eq_flatMap]

theorem toJson_numbers (m : MultiMap) : m.toJson.numbers = [] := by
  rw [toJson, Json.numbers, Json.memberNumbers_eq_flatMap, List.flatMap_map]
  exact List.flatMap_eq_nil_iff.mpr fun g _ => groupJson_numbers g.2

theorem take_groupJson {depth : Nat} (hdepth : depth + 1 < Source.depthLimit) (vs : List String) :
    (Source.ofJson (groupJson vs)).take depth = .ok (groupJson vs) := by
  unfold groupJson
  split
  · rfl
  · refine Source.take_array hdepth fun v hv => ?_
    obtain ⟨s, -, rfl⟩ := List.mem_map.mp hv
    rfl

theorem items_string (p : Place) (vs : List String) :
    Decoder.items .string p (Source.ofItems (vs.map .string)) = .ok vs := by
  induction vs with
  | nil => rfl
  | cons v vs ih =>
    simp only [List.map_cons, Source.ofItems, Source.ofJson, Decoder.items, Decoder.string, ih]
    rfl

theorem oneOrMany_groupJson {p : Place} (hp : p.depth + 1 < Source.depthLimit) (vs : List String) :
    Decoder.oneOrMany p (.ofJson (groupJson vs)) = .ok vs := by
  simp only [Decoder.oneOrMany, Decoder.firstOf, take_groupJson hp, Decoder.ofFault, Except.mapError,
    bind, Except.bind]
  by_cases hone : ∃ v, vs = [v]
  · obtain ⟨v, rfl⟩ := hone
    rfl
  · have hmany : groupJson vs = .array (vs.map .string) := by
      unfold groupJson
      split
      · exact absurd ⟨_, rfl⟩ hone
      · rfl
    simp only [hmany, Source.ofJson, List.findSome?_cons, Decoder.string, Decoder.mismatch, Except.map,
      Except.toOption, Decoder.list, Decoder.enter, if_neg (Nat.not_le.mpr hp), items_string,
      Decoder.close, bind, Except.bind]

theorem entries_groupJson {p : Place} (hp : p.depth + 1 < Source.depthLimit)
    (groups : Groups String String) : Decoder.entries .oneOrMany p
      (Source.ofMembers (groups.map fun (k, vs) => (k, groupJson vs))) = .ok groups := by
  induction groups with
  | nil => rfl
  | cons g groups ih =>
    simp only [List.map_cons, Source.ofMembers, Decoder.entries, Decoder.ofFault, Except.mapError,
      oneOrMany_groupJson hp, ih, bind, Except.bind]

theorem decoder_toJson {p : Place} (hp : p.depth + 2 < Source.depthLimit) {m : MultiMap}
    (h : IsRead m) : decoder p (.ofJson m.toJson) = .ok m.regroup := by
  have hp' : ¬p.depth + 1 ≥ Source.depthLimit := by omega
  have hentries := entries_groupJson (p := { p with depth := p.depth + 1 }) hp m.groups
  simp only [decoder, toJson, Source.ofJson, Decoder.members, Decoder.enter, if_neg hp', hentries,
    Decoder.close, Except.map, bind, Except.bind, ofMembers_groups h]

theorem isRead_of_decoder {p : Place} {s : Source} {m : MultiMap} (h : decoder p s = .ok m) :
    IsRead m := by
  obtain ⟨members, -, rfl⟩ := ok_of_map h
  intro e he
  simp only [ofMembers, List.mem_flatMap, List.mem_map] at he
  obtain ⟨⟨k, vs⟩, -, v, -, rfl⟩ := he
  exact ⟨⟨k, rfl⟩, ⟨v, rfl⟩⟩

theorem IsRead.regroup {m : MultiMap} (h : IsRead m) : IsRead m.regroup :=
  fun e he => h e (mem_regroup.mp he)

end MultiMap
end RequestMatching
