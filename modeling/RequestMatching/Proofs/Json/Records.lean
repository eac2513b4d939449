import Mathlib.Data.List.Basic
import RequestMatching.Proofs.Json.Taking

/-!
# Reading the members of a record

Members that are written for the fields of a record are read one after the other, each changing the
record as its field does. What the fields keep is kept by the whole record.
-/

namespace RequestMatching

variable {α β : Type}

namespace Decoder

theorem ofFault_eq_ok {r : Except JsonFault α} {a : α} (h : ofFault r = .ok a) : r = .ok a := by
  cases r with
  | error f => cases h
  | ok b => cases h; rfl

theorem enter_eq_ok {p q : Place} (h : enter p = .ok q) : q = { p with depth := p.depth + 1 } := by
  unfold enter at h
  split at h <;> cases h
  rfl

theorem close_eq_ok {breach : Option Breach} {a b : α} (h : close breach a = .ok b) :
    breach = none ∧ b = a := by
  unfold close at h
  split at h <;> cases h
  exact ⟨rfl, rfl⟩

theorem mismatch_ne_ok {expected : String} {s : Source} {a : α} : mismatch expected s ≠ .ok a := by
  unfold mismatch
  split <;> intro h <;> cases h

theorem optional_eq_ok {d : Decoder α} {p : Place} {s : Source} {a : α}
    (h : optional d p s = .ok (some a)) : d p s = .ok a := by
  unfold optional at h
  split at h
  · cases h
  · split at h
    · cases h
    · obtain ⟨b, hb, heq⟩ := ok_of_map h
      cases heq
      exact hb
  · obtain ⟨b, hb, heq⟩ := ok_of_map h
    cases heq
    exact hb

theorem ofText_eq_ok {d : Decoder α} {text : String} {a : α} (h : d.ofText text = .ok a) :
    ∃ s, d {} s = .ok a := by
  unfold ofText at h
  generalize Source.ofText text = read at h
  obtain ⟨tree, more⟩ := read
  obtain ⟨b, hb, h⟩ := ok_of_bind h
  cases more with
  | true => cases h
  | false => cases h; exact ⟨tree, hb⟩

theorem optional_ofJson {d : Decoder α} {p : Place} {v : Json} {a : α} (hv : v ≠ .null)
    (h : d p (.ofJson v) = .ok a) : optional d p (.ofJson v) = .ok (some a) := by
  cases v with
  | null => exact absurd rfl hv
  | _ => exact congrArg (Except.map some) h

end Decoder

namespace Field

theorem find?_name {fields : List (Field α)} (h : (fields.map (·.name)).Nodup) {f : Field α}
    (hf : f ∈ fields) : fields.find? (·.name == f.name) = some f := by
  induction fields with
  | nil => cases hf
  | cons g fields ih =>
    obtain ⟨hnotin, hnodup⟩ := List.nodup_cons.mp h
    rcases List.mem_cons.mp hf with rfl | hf
    · exact List.find?_cons_of_pos (beq_self_eq_true _)
    · have hne : g.name ≠ f.name := fun heq => hnotin (List.mem_map.mpr ⟨f, hf, heq.symm⟩)
      rw [List.find?_cons_of_neg (by simpa using hne)]
      exact ih hnodup hf

/-- The members change the record from `a` to `b`, each as its field does; fields may be left out. -/
inductive Writes (p : Place) : List (Field α) → α → List (String × Json) → α → Prop where
  | nil {a : α} : Writes p [] a [] a
  | leave {f : Field α} {fields : List (Field α)} {a b : α} {members : List (String × Json)} :
      Writes p fields a members b → Writes p (f :: fields) a members b
  | write {f : Field α} {fields : List (Field α)} {a b c : α} {v : Json}
      {members : List (String × Json)} : f.read p (.ofJson v) a = .ok b →
      Writes p fields b members c → Writes p (f :: fields) a ((f.name, v) :: members) c

namespace Writes

variable {p : Place} {fields : List (Field α)} {members : List (String × Json)} {a b : α}

theorem readMembers_eq_of_find {all : List (Field α)} {seen : List String}
    (h : Writes p fields a members b) (hfind : ∀ f ∈ fields, all.find? (·.name == f.name) = some f)
    (hseen : ∀ f ∈ fields, f.name ∉ seen) (hnodup : (fields.map (·.name)).Nodup) :
    readMembers all p seen a (Source.ofMembers members) = .ok b := by
  induction h generalizing seen with
  | nil => rfl
  | leave _ ih =>
    exact ih (fun f hf => hfind f (List.mem_cons_of_mem _ hf))
      (fun f hf => hseen f (List.mem_cons_of_mem _ hf)) (List.nodup_cons.mp hnodup).2
  | @write f fields a b c v members hread _ ih =>
    obtain ⟨hnotin, hnodup⟩ := List.nodup_cons.mp hnodup
    have hseen' : ∀ g ∈ fields, g.name ∉ f.name :: seen := fun g hg hmem => by
      rcases List.mem_cons.mp hmem with heq | hmem
      · exact hnotin (List.mem_map.mpr ⟨g, hg, heq⟩)
      · exact hseen g (List.mem_cons_of_mem _ hg) hmem
    have hrest := ih (fun g hg => hfind g (List.mem_cons_of_mem _ hg)) hseen' hnodup
    have hnew : f.name ∉ seen := hseen f (List.mem_cons_self ..)
    simp only [Source.ofMembers, readMembers, Decoder.ofFault, Except.mapError, bind, Except.bind,
      hfind f (List.mem_cons_self ..), List.contains_eq_mem, hnew, decide_false, hread, hrest]
    rfl

/-- The members are read as the record they change the first one to. -/
theorem readMembers_eq (h : Writes p fields a members b) (hnodup : (fields.map (·.name)).Nodup) :
    readMembers fields p [] a (Source.ofMembers members) = .ok b :=
  h.readMembers_eq_of_find (fun _ => find?_name hnodup) (fun _ _ => List.not_mem_nil) hnodup

theorem part {name : String} {d : Decoder β} {store : β → α → α} {v : β}
    {part : List (String × Json)}
    (hpart : (part = [] ∧ store v a = a) ∨ ∃ j, part = [(name, j)] ∧ d p (.ofJson j) = .ok v)
    (h : Writes p fields (store v a) members b) :
    Writes p (.of name d store :: fields) a (part ++ members) b := by
  rcases hpart with ⟨rfl, hstore⟩ | ⟨j, rfl, hread⟩
  · rw [hstore] at h
    exact .leave h
  · exact .write (f := .of name d store) (by simp only [of, hread, Except.map]) h

theorem last {name : String} {d : Decoder β} {store : β → α → α} {v : β}
    {part : List (String × Json)}
    (hpart : (part = [] ∧ store v a = a) ∨ ∃ j, part = [(name, j)] ∧ d p (.ofJson j) = .ok v) :
    Writes p [.of name d store] a part (store v a) :=
  List.append_nil part ▸ Writes.part hpart .nil

end Writes

theorem of_read_eq_ok {name : String} {d : Decoder β} {store : β → α → α} {p : Place} {s : Source}
    {a a' : α} (h : (of name d store).read p s a = .ok a') : ∃ b, d p s = .ok b ∧ store b a = a' :=
  ok_of_map h

section
variable (Keeps : α → Prop) {fields : List (Field α)} {p : Place}

theorem readMembers_keeps
    (hfield : ∀ f ∈ fields, ∀ s a a', Keeps a → f.read p s a = .ok a' → Keeps a') {seen : List String}
    {a a' : α} {members : List (Except JsonFault String × Source)} (ha : Keeps a)
    (h : readMembers fields p seen a members = .ok a') : Keeps a' := by
  induction members generalizing seen a with
  | nil => cases h; exact ha
  | cons m rest ih =>
    obtain ⟨_ | key, s⟩ := m
    · cases h
    obtain ⟨_, hkey, h⟩ := ok_of_bind h
    cases hkey
    split at h
    case h_1 f hf =>
      split at h
      · cases h
      obtain ⟨a₁, hread, h⟩ := ok_of_bind h
      exact ih (hfield f (List.mem_of_find?_eq_some hf) s a a₁ ha hread) h
    case h_2 =>
      split at h
      · cases h
      · exact ih ha h

theorem readItems_keeps {breach : Option Breach} {items : List Source}
    (hfield : ∀ f ∈ fields, ∀ s a a', Keeps a → f.read p s a = .ok a' → Keeps a') {a a' : α}
    (ha : Keeps a) (h : readItems p breach fields a items = .ok a') : Keeps a' := by
  induction fields generalizing items a with
  | nil =>
    simp only [readItems] at h
    split at h <;> cases h
    exact ha
  | cons f fields ih =>
    cases items with
    | nil =>
      obtain ⟨-, rfl⟩ := Decoder.close_eq_ok h
      exact ha
    | cons s rest =>
      obtain ⟨a₁, hread, h⟩ := ok_of_bind h
      exact ih (fun f hf => hfield f (List.mem_cons_of_mem _ hf))
        (hfield f (List.mem_cons_self ..) s a a₁ ha hread) h

end

end Field

/-- What the initial record has and each field keeps, a record that has been read has. -/
theorem Decoder.record_keeps (Keeps : α → Prop) {type : String} {fields : List (Field α)}
    {initial a : α} {p : Place} {s : Source} (hfield : ∀ f ∈ fields, ∀ s a a', Keeps a →
      f.read { p with depth := p.depth + 1 } s a = .ok a' → Keeps a') (hinitial : Keeps initial)
    (h : record type fields initial p s = .ok a) : Keeps a := by
  unfold record at h
  split at h
  case h_1 _ _ ms breach =>
    obtain ⟨q, hq, h⟩ := ok_of_bind h
    obtain rfl := enter_eq_ok hq
    obtain ⟨a₁, hread, h⟩ := ok_of_bind h
    obtain ⟨-, rfl⟩ := close_eq_ok h
    exact Field.readMembers_keeps Keeps hfield hinitial hread
  case h_2 _ _ ss breach =>
    obtain ⟨q, hq, h⟩ := ok_of_bind h
    obtain rfl := enter_eq_ok hq
    exact Field.readItems_keeps Keeps hfield hinitial h
  case h_3 => exact absurd h mismatch_ne_ok

end RequestMatching
