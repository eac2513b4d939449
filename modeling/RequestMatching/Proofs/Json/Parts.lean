import RequestMatching.Json.Compare

/-!
# Values and their parts

What is said of a value and of all values in it can be checked part by part, and what follows for a
value from its parts holds of all values. Three things are said so: that no object has a name twice,
that every number is one, and that no string is some placeholder.
-/

namespace RequestMatching

namespace Json

mutual

/-- Whether something is so of a value and of all values in it. -/
def every (said : Json → Bool) : Json → Bool
  | array items => said (array items) && everyItem said items
  | object members => said (object members) && everyMember said members
  | v => said v

def everyItem (said : Json → Bool) : List Json → Bool
  | [] => true
  | v :: rest => every said v && everyItem said rest

def everyMember (said : Json → Bool) : List (String × Json) → Bool
  | [] => true
  | (_, v) :: rest => every said v && everyMember said rest

end

section
variable {said : Json → Bool}

theorem everyItem_iff : ∀ {items : List Json},
    everyItem said items = true ↔ ∀ v ∈ items, v.every said = true
  | [] => by simp [everyItem]
  | v :: rest => by
    rw [everyItem, Bool.and_eq_true, everyItem_iff, List.forall_mem_cons]

theorem everyMember_iff : ∀ {members : List (String × Json)},
    everyMember said members = true ↔ ∀ m ∈ members, m.2.every said = true
  | [] => by simp [everyMember]
  | (n, v) :: rest => by
    rw [everyMember, Bool.and_eq_true, everyMember_iff, List.forall_mem_cons]

theorem every_array {items : List Json} : (array items).every said = true ↔
    said (array items) = true ∧ ∀ v ∈ items, v.every said = true := by
  rw [every, Bool.and_eq_true, everyItem_iff]

theorem every_object {members : List (String × Json)} : (object members).every said = true ↔
    said (object members) = true ∧ ∀ m ∈ members, m.2.every said = true := by
  rw [every, Bool.and_eq_true, everyMember_iff]

end

/-! ## Induction -/

/-- What holds of a list or an object if it holds of all that is in it, and of everything else, holds
of all values. -/
@[elab_as_elim]
theorem induction {motive : Json → Prop} (null : motive null) (bool : ∀ b, motive (bool b))
    (number : ∀ n, motive (number n)) (string : ∀ s, motive (string s))
    (array : ∀ items, (∀ v ∈ items, motive v) → motive (array items))
    (object : ∀ members, (∀ m ∈ members, motive m.2) → motive (object members)) (v : Json) :
    motive v :=
  @Json.rec motive (fun items => ∀ v ∈ items, motive v) (fun members => ∀ m ∈ members, motive m.2)
    (fun m => motive m.2) null bool number string array object
    (List.forall_mem_nil _) (fun _ _ hv hrest => List.forall_mem_cons.mpr ⟨hv, hrest⟩)
    (List.forall_mem_nil _) (fun _ _ hm hrest => List.forall_mem_cons.mpr ⟨hm, hrest⟩)
    (fun _ _ hv => hv) v

/-! ## Names that differ -/

def hasDistinctNames (v : Json) : Bool :=
  v.every fun
    | object members => decide (members.map (·.1)).Nodup
    | _ => true

theorem hasDistinctNames_array {items : List Json} : (array items).hasDistinctNames = true ↔
    ∀ v ∈ items, v.hasDistinctNames = true := by
  rw [hasDistinctNames, every_array]
  exact ⟨And.right, fun h => ⟨rfl, h⟩⟩

theorem hasDistinctNames_object {members : List (String × Json)} :
    (object members).hasDistinctNames = true ↔
      (members.map (·.1)).Nodup ∧ ∀ m ∈ members, m.2.hasDistinctNames = true := by
  rw [hasDistinctNames, every_object, decide_eq_true_iff]
  rfl

theorem mem_of_lookup {n : String} {v : Json} : ∀ {members : List (String × Json)},
    lookup n members = some v → (n, v) ∈ members
  | [], h => by cases h
  | (k, w) :: rest, h => by
    rw [lookup] at h
    split at h
    · subst k
      cases h
      exact List.mem_cons_self
    · exact List.mem_cons_of_mem _ (mem_of_lookup h)

theorem lookup_of_mem {n : String} {v : Json} {members : List (String × Json)}
    (hnames : (members.map (·.1)).Nodup) (h : (n, v) ∈ members) : lookup n members = some v := by
  induction members with
  | nil => cases h
  | cons m rest ih =>
    obtain ⟨k, w⟩ := m
    obtain ⟨hk, hrest⟩ := List.nodup_cons.mp hnames
    rw [lookup]
    rcases List.mem_cons.mp h with h | h
    · cases h
      exact if_pos rfl
    · have hne : k ≠ n := fun heq => hk (List.mem_map.mpr ⟨(n, v), h, heq.symm⟩)
      rw [if_neg hne]
      exact ih hrest h

theorem lookup_eq_some_iff {n : String} {v : Json} {members : List (String × Json)}
    (hnames : (members.map (·.1)).Nodup) : lookup n members = some v ↔ (n, v) ∈ members :=
  ⟨mem_of_lookup, lookup_of_mem hnames⟩

/-! ## Numbers -/

def hasProperNumbers (v : Json) : Bool :=
  v.every fun
    | number n => decide (n ≠ .float .nan)
    | _ => true

theorem hasProperNumbers_number {n : JsonNumber} :
    (number n).hasProperNumbers = true ↔ n ≠ .float .nan :=
  decide_eq_true_iff

theorem hasProperNumbers_array {items : List Json} : (array items).hasProperNumbers = true ↔
    ∀ v ∈ items, v.hasProperNumbers = true := by
  rw [hasProperNumbers, every_array]
  exact ⟨And.right, fun h => ⟨rfl, h⟩⟩

theorem hasProperNumbers_object {members : List (String × Json)} :
    (object members).hasProperNumbers = true ↔ ∀ m ∈ members, m.2.hasProperNumbers = true := by
  rw [hasProperNumbers, every_object]
  exact ⟨And.right, fun h => ⟨rfl, h⟩⟩

/-! ## Placeholders -/

/-- Whether no string in the value is the given placeholder. -/
def lacks (p : Placeholder) (v : Json) : Bool :=
  v.every fun
    | string s => decide (Placeholder.ofString? s ≠ some p)
    | _ => true

variable {p : Placeholder}

theorem lacks_string {s : String} :
    (string s).lacks p = true ↔ Placeholder.ofString? s ≠ some p :=
  decide_eq_true_iff

theorem lacks_array {items : List Json} :
    (array items).lacks p = true ↔ ∀ v ∈ items, v.lacks p = true := by
  rw [lacks, every_array]
  exact ⟨And.right, fun h => ⟨rfl, h⟩⟩

theorem lacks_object {members : List (String × Json)} :
    (object members).lacks p = true ↔ ∀ m ∈ members, m.2.lacks p = true := by
  rw [lacks, every_object]
  exact ⟨And.right, fun h => ⟨rfl, h⟩⟩

end Json
end RequestMatching
