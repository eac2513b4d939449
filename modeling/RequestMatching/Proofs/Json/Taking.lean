import RequestMatching.Json.Decode
import RequestMatching.Proofs.Json.Writing

/-!
# Values that have been taken

A value that has been taken from a text has the members of its objects in the order of their names,
so it is taken from its own tree as it is.
-/

namespace RequestMatching

namespace Decoder

variable {α : Type}

def NamesIncrease (pairs : List (String × α)) : Prop :=
  pairs.Pairwise fun p q => p.1 < q.1

theorem mem_insertSorted {name : String} {a : α} {p : String × α} :
    ∀ {pairs : List (String × α)}, p ∈ insertSorted name a pairs → p = (name, a) ∨ p ∈ pairs
  | [], h => .inl (List.mem_singleton.mp h)
  | (n, b) :: rest, h => by
    rw [insertSorted] at h
    split at h
    · exact List.mem_cons.mp h
    · split at h
      · exact (List.mem_cons.mp h).imp_right (List.mem_cons_of_mem _)
      · rcases List.mem_cons.mp h with rfl | h
        · exact .inr (List.mem_cons_self ..)
        · exact (mem_insertSorted h).imp_right (List.mem_cons_of_mem _)

theorem NamesIncrease.insertSorted {name : String} {a : α} {pairs : List (String × α)}
    (h : NamesIncrease pairs) : NamesIncrease (insertSorted name a pairs) := by
  induction pairs with
  | nil => exact List.pairwise_singleton _ _
  | cons p rest ih =>
    obtain ⟨n, b⟩ := p
    obtain ⟨hhead, hrest⟩ := List.pairwise_cons.mp h
    rw [Decoder.insertSorted]
    split
    · rename_i hlt
      refine List.pairwise_cons.mpr ⟨fun q hq => ?_, h⟩
      rcases List.mem_cons.mp hq with rfl | hq
      · exact hlt
      · exact String.lt_trans hlt (hhead q hq)
    · split
      · rename_i heq
        subst heq
        exact List.pairwise_cons.mpr ⟨hhead, hrest⟩
      · rename_i hnlt hne
        refine List.pairwise_cons.mpr ⟨fun q hq => ?_, ih hrest⟩
        rcases mem_insertSorted hq with rfl | hq
        · by_contra hle
          exact hne (String.le_antisymm (String.not_lt.mp hle) (String.not_lt.mp hnlt))
        · exact hhead q hq

theorem insertSorted_of_increase {name : String} {a : α} {pairs : List (String × α)}
    (h : ∀ p ∈ pairs, p.1 < name) : Decoder.insertSorted name a pairs = pairs ++ [(name, a)] := by
  induction pairs with
  | nil => rfl
  | cons p rest ih =>
    obtain ⟨n, b⟩ := p
    have hlt : n < name := h _ (List.mem_cons_self ..)
    have hne : name ≠ n := by
      rintro rfl
      exact String.lt_irrefl _ hlt
    rw [Decoder.insertSorted, if_neg (String.lt_asymm hlt), if_neg hne,
      ih fun p hp => h p (List.mem_cons_of_mem _ hp), List.cons_append]

theorem foldl_insertSorted_of_increase {pairs : List (String × α)} (acc : List (String × α))
    (h : NamesIncrease (acc ++ pairs)) :
    pairs.foldl (fun acc (n, a) => Decoder.insertSorted n a acc) acc = acc ++ pairs := by
  induction pairs generalizing acc with
  | nil => simp
  | cons p rest ih =>
    obtain ⟨n, a⟩ := p
    have hlast : ∀ p ∈ acc, p.1 < n := fun p hp =>
      (List.pairwise_append.mp h).2.2 p hp (n, a) (List.mem_cons_self ..)
    simp only [List.foldl_cons, insertSorted_of_increase hlast]
    rw [ih (acc ++ [(n, a)]) (by simpa using h)]
    simp

theorem sortNames_of_increase {pairs : List (String × α)} (h : NamesIncrease pairs) :
    sortNames pairs = pairs :=
  foldl_insertSorted_of_increase [] h

theorem foldl_insertSorted_increase (pairs : List (String × α)) {acc : List (String × α)}
    (h : NamesIncrease acc) :
    NamesIncrease (pairs.foldl (fun acc (n, a) => Decoder.insertSorted n a acc) acc) := by
  induction pairs generalizing acc with
  | nil => exact h
  | cons p rest ih => exact ih h.insertSorted

theorem sortNames_increase (pairs : List (String × α)) : NamesIncrease (sortNames pairs) :=
  foldl_insertSorted_increase pairs .nil

theorem mem_foldl_insertSorted {p : String × α} {pairs acc : List (String × α)}
    (h : p ∈ pairs.foldl (fun acc (n, a) => Decoder.insertSorted n a acc) acc) :
    p ∈ acc ∨ p ∈ pairs := by
  induction pairs generalizing acc with
  | nil => exact .inl h
  | cons q rest ih =>
    rcases ih h with h | h
    · rcases mem_insertSorted h with rfl | h
      · exact .inr (List.mem_cons_self ..)
      · exact .inl h
    · exact .inr (List.mem_cons_of_mem q h)

theorem mem_sortNames {p : String × α} {pairs : List (String × α)} (h : p ∈ sortNames pairs) :
    p ∈ pairs :=
  (mem_foldl_insertSorted h).resolve_left List.not_mem_nil

end Decoder

theorem Json.setMember_eq (name : String) (v : Json) (members : List (String × Json)) :
    setMember name v members = Decoder.insertSorted name v members := by
  induction members with
  | nil => rfl
  | cons p rest ih => simp only [setMember, Decoder.insertSorted, ih]

theorem Json.ofMembers_eq (members : List (String × Json)) :
    Json.ofMembers members = .object (Decoder.sortNames members) := by
  simp only [Json.ofMembers, Json.setMember_eq, Decoder.sortNames]

namespace Source

theorem takeItems_ofItems {depth : Nat} {values : List Json}
    (h : ∀ v ∈ values, (ofJson v).take depth = .ok v) :
    takeItems depth (ofItems values) = .ok values := by
  induction values with
  | nil => rfl
  | cons v rest ih =>
    simp only [ofItems, takeItems, h v (List.mem_cons_self ..), bind, Except.bind,
      ih fun w hw => h w (List.mem_cons_of_mem v hw)]

theorem takeMembers_ofMembers {depth : Nat} {members : List (String × Json)}
    (h : ∀ p ∈ members, (ofJson p.2).take depth = .ok p.2) :
    takeMembers depth (ofMembers members) = .ok members := by
  induction members with
  | nil => rfl
  | cons p rest ih =>
    obtain ⟨n, v⟩ := p
    simp only [ofMembers, takeMembers, h (n, v) (List.mem_cons_self ..), bind, Except.bind,
      ih fun q hq => h q (List.mem_cons_of_mem _ hq)]

theorem take_array {depth : Nat} {values : List Json} (hdepth : depth + 1 < depthLimit)
    (h : ∀ v ∈ values, (ofJson v).take (depth + 1) = .ok v) :
    (ofJson (.array values)).take depth = .ok (.array values) := by
  simp only [ofJson, take, if_neg (Nat.not_le.mpr hdepth), takeItems_ofItems h, bind, Except.bind]

theorem take_object {depth : Nat} {members : List (String × Json)} (hdepth : depth + 1 < depthLimit)
    (hnames : Decoder.NamesIncrease members)
    (h : ∀ p ∈ members, (ofJson p.2).take (depth + 1) = .ok p.2) :
    (ofJson (.object members)).take depth = .ok (.object members) := by
  simp only [ofJson, take, if_neg (Nat.not_le.mpr hdepth), takeMembers_ofMembers h, bind, Except.bind,
    Json.ofMembers_eq, Decoder.sortNames_of_increase hnames]

mutual

theorem take_ofJson : ∀ {s : Source} {depth : Nat} {v : Json}, s.take depth = .ok v →
    (ofJson v).take depth = .ok v
  | null, depth, v, h => by cases h; rfl
  | bool b, depth, v, h => by cases h; rfl
  | number r, depth, v, h => by
    obtain ⟨n, -, rfl⟩ := ok_of_map h
    rfl
  | string r, depth, v, h => by
    obtain ⟨s, -, rfl⟩ := ok_of_map h
    rfl
  | broken b, depth, v, h => by cases h
  | array items breach, depth, v, h => by
    rw [take] at h
    split at h
    · cases h
    · rename_i hdepth
      obtain ⟨values, hitems, h⟩ := ok_of_bind h
      cases breach with
      | some b => cases h
      | none =>
        cases h
        exact take_array (Nat.not_le.mp hdepth) (takeItems_each hitems)
  | object members breach, depth, v, h => by
    rw [take] at h
    split at h
    · cases h
    · rename_i hdepth
      obtain ⟨values, hmembers, h⟩ := ok_of_bind h
      cases breach with
      | some b => cases h
      | none =>
        cases h
        rw [Json.ofMembers_eq]
        exact take_object (Nat.not_le.mp hdepth) (Decoder.sortNames_increase values)
          fun p hp => takeMembers_each hmembers p (Decoder.mem_sortNames hp)

theorem takeItems_each : ∀ {items : List Source} {depth : Nat} {values : List Json},
    takeItems depth items = .ok values → ∀ v ∈ values, (ofJson v).take depth = .ok v
  | [], depth, values, h => by cases h; nofun
  | s :: rest, depth, values, h => by
    rw [takeItems] at h
    obtain ⟨v, hs, h⟩ := ok_of_bind h
    obtain ⟨vs, hrest, h⟩ := ok_of_bind h
    cases h
    exact List.forall_mem_cons.mpr ⟨take_ofJson hs, takeItems_each hrest⟩

theorem takeMembers_each : ∀ {members : List (Except JsonFault String × Source)} {depth : Nat}
    {values : List (String × Json)}, takeMembers depth members = .ok values →
      ∀ p ∈ values, (ofJson p.2).take depth = .ok p.2
  | [], depth, values, h => by cases h; nofun
  | (key, s) :: rest, depth, values, h => by
    rw [takeMembers] at h
    obtain ⟨n, -, h⟩ := ok_of_bind h
    obtain ⟨v, hs, h⟩ := ok_of_bind h
    obtain ⟨vs, hrest, h⟩ := ok_of_bind h
    cases h
    exact List.forall_mem_cons.mpr ⟨take_ofJson hs, takeMembers_each hrest⟩

end

end Source
end RequestMatching
