import Mathlib.Data.List.Forall2
import Mathlib.Logic.Embedding.Basic
import RequestMatching.Proofs.Assignment.Maximum
import RequestMatching.Proofs.Json.FirstDifference

/-!
# Satisfaction

What it means that an actual value satisfies an expected one is said here without a walk: by the
members of objects, item by item, and with an injective choice among items whose order is
disregarded. A comparison finds no difference exactly then.
-/

namespace RequestMatching

namespace Assignment

theorem all_assigned_iff {edges : List (List Nat)} {size n : Nat} (hn : edges.length = n)
    (hb : ∀ k : Nat, ∀ j ∈ edges.getD k [], j < size) :
    (∀ assigned ∈ ofEdges edges size, assigned.isSome = true) ↔
      ∃ place : Fin n ↪ Fin size, ∀ i : Fin n, (place i : Nat) ∈ edges.getD i [] := by
  have hlen : (ofEdges edges size).length = edges.length := by simp [ofEdges]
  have hcount : (∀ assigned ∈ ofEdges edges size, assigned.isSome = true) ↔
      edges.length ≤ count (ofEdges edges size) := by
    rw [← List.countP_eq_length, ← hlen]
    exact ⟨fun h => h.ge, fun h => Nat.le_antisymm List.countP_le_length h⟩
  rw [hcount, length_le_count_ofEdges_iff hb, hn]
  constructor
  · rintro ⟨f, hinj, hf⟩
    refine ⟨⟨fun i => ⟨f i, hb i _ (hf i i.isLt)⟩, fun i j he => ?_⟩, fun i => hf i i.isLt⟩
    exact Fin.ext (hinj i.isLt j.isLt (Fin.mk.inj he))
  · rintro ⟨place, hplace⟩
    refine ⟨fun i => if hi : i < n then place ⟨i, hi⟩ else 0, ?_, ?_⟩
    · intro i hi j hj he
      have hi' : i < n := hi
      have hj' : j < n := hj
      simp only [dif_pos hi', dif_pos hj'] at he
      exact congrArg Fin.val (place.injective (Fin.ext he))
    · intro i hi
      simpa only [dif_pos hi] using hplace ⟨i, hi⟩

end Assignment

namespace Json

/-- Pairs that are told apart as wholes: the expected value is no placeholder, and the two are not
both objects, both arrays or both numbers. -/
def IsPlainPair : Json → Json → Prop
  | string s, _ => Placeholder.ofString? s = none
  | object _, object _ => False
  | array _, array _ => False
  | number _, number _ => False
  | _, _ => True

/-- The second value satisfies the first, which is the expected one. -/
inductive Satisfies (m : JsonMatchType) : Json → Json → Prop
  | placeholder {s : String} {p : Placeholder} {a : Json} :
      Placeholder.ofString? s = some p → p.accepts a = true → Satisfies m (string s) a
  /-- Every expected member is there, with a value that satisfies the expected one; if the match is
  strict, no other member is. -/
  | object {es as : List (String × Json)} :
      (∀ n e, (n, e) ∈ es → (lookup n as).isSome = true) →
      (∀ n e a, (n, e) ∈ es → lookup n as = some a → Satisfies m e a) →
      (m = .strict → ∀ n a, (n, a) ∈ as → (lookup n es).isSome = true) →
      Satisfies m (object es) (object as)
  | ordered {es as : List Json} :
      m = .strict → List.Forall₂ (Satisfies m) es as → Satisfies m (array es) (array as)
  /-- Distinct items serve for the expected ones. -/
  | unordered {es as : List Json} (place : Fin es.length ↪ Fin as.length) :
      m = .onlyMatchingFields → (∀ i, Satisfies m es[i] as[place i]) →
      Satisfies m (array es) (array as)
  | number {x y : JsonNumber} : x.same y = true → Satisfies m (number x) (number y)
  | plain {e a : Json} : IsPlainPair e a → e.equal a = true → Satisfies m e a

variable {c : Comparison} {m : JsonMatchType}

/-! ## Rows of differences -/

@[simp]
theorem andThen_eq_nil_iff {found more : List JsonDifference} :
    c.andThen found more = [] ↔ found = [] ∧ more = [] := by
  unfold Comparison.andThen
  cases found with
  | nil => simp
  | cons d ds => cases c.firstOnly <;> simp

@[simp]
theorem difference_ne_nil (trail : List JsonStep) (kind : JsonDifferenceKind)
    (expected actual : Option Json) : difference trail kind expected actual ≠ [] :=
  List.cons_ne_nil _ _

@[simp]
theorem compareWith_eq_nil_iff {same : Bool} {trail : List JsonStep} {e a : Json} :
    compareWith same trail e a = [] ↔ same = true := by
  cases same <;> simp [compareWith]

theorem extraMembers_eq_nil_iff (trail : List JsonStep) (es : List (String × Json)) :
    ∀ as : List (String × Json), extraMembers c trail es as = [] ↔
      ∀ n a, (n, a) ∈ as → (lookup n es).isSome = true
  | [] => by simp [extraMembers]
  | (n, v) :: rest => by
    have hrest := extraMembers_eq_nil_iff trail es rest
    cases hn : lookup n es with
    | none =>
      simp only [extraMembers, hn, andThen_eq_nil_iff, difference_ne_nil, false_and, false_iff]
      exact fun h => by simpa [hn] using h n v List.mem_cons_self
    | some e =>
      simp only [extraMembers, hn, andThen_eq_nil_iff, true_and, hrest, List.mem_cons]
      constructor
      · rintro h k a (hk | hk)
        · cases hk
          rw [hn]
          rfl
        · exact h k a hk
      · exact fun h k a hk => h k a (.inr hk)

theorem extraItems_eq_nil_iff (trail : List JsonStep) (place : Nat) (as : List Json) :
    extraItems c trail place as = [] ↔ as = [] := by
  cases as <;> simp [extraItems]

theorem missingItems_eq_nil_iff (trail : List JsonStep) : ∀ (place : Nat) (es : List Json)
    (assignment : List (Option Nat)), assignment.length = es.length →
      (missingItems c trail place es assignment = [] ↔
        ∀ assigned ∈ assignment, assigned.isSome = true)
  | _, [], [], _ => by simp [missingItems]
  | place, e :: es, assigned :: assignment, h => by
    have hrest := missingItems_eq_nil_iff trail (place + 1) es assignment (Nat.succ.inj h)
    cases assigned <;> simp [missingItems, hrest]

theorem mem_placesOf {p : Json → Bool} {j : Nat} : ∀ {start : Nat} {as : List Json},
    j ∈ placesOf p start as ↔ ∃ i a, j = start + i ∧ as[i]? = some a ∧ p a = true
  | _, [] => by simp [placesOf]
  | start, v :: rest => by
    have hcons : j ∈ placesOf p start (v :: rest) ↔
        (j = start ∧ p v = true) ∨ j ∈ placesOf p (start + 1) rest := by
      rw [placesOf]
      by_cases hv : p v = true <;> simp [hv]
    rw [hcons, mem_placesOf]
    constructor
    · rintro (⟨rfl, hv⟩ | ⟨i, a, rfl, ha, hp⟩)
      · exact ⟨0, v, rfl, rfl, hv⟩
      · exact ⟨i + 1, a, by omega, ha, hp⟩
    · rintro ⟨i, a, rfl, ha, hp⟩
      cases i with
      | zero => cases ha; exact .inl ⟨rfl, hp⟩
      | succ i => exact .inr ⟨i, a, by omega, ha, hp⟩

theorem length_itemChoices (as : List Json) : ∀ es : List Json,
    (itemChoices m es as).length = es.length
  | [] => rfl
  | _ :: es => by simp [itemChoices, length_itemChoices as es]

/-! ## Inversion -/

theorem satisfies_iff_of_plain {e a : Json} (h : IsPlainPair e a) :
    Satisfies m e a ↔ e.equal a = true := by
  refine ⟨fun hs => ?_, .plain h⟩
  cases hs with
  | placeholder hp _ => simp [IsPlainPair, hp] at h
  | object _ _ _ | ordered _ _ | unordered _ _ _ | number _ => exact h.elim
  | plain _ he => exact he

theorem satisfies_placeholder_iff {s : String} {p : Placeholder} {a : Json}
    (hp : Placeholder.ofString? s = some p) : Satisfies m (string s) a ↔ p.accepts a = true := by
  refine ⟨fun hs => ?_, .placeholder hp⟩
  cases hs with
  | placeholder hq ha =>
    rw [hp] at hq
    cases hq
    exact ha
  | plain h _ => simp [IsPlainPair, hp] at h

theorem satisfies_number_iff {x y : JsonNumber} :
    Satisfies m (number x) (number y) ↔ x.same y = true := by
  refine ⟨fun hs => ?_, .number⟩
  cases hs with
  | number h => exact h
  | plain h _ => exact h.elim

theorem satisfies_object_iff {es as : List (String × Json)} :
    Satisfies m (object es) (object as) ↔
      (∀ n e, (n, e) ∈ es → ∃ a, lookup n as = some a ∧ Satisfies m e a) ∧
        (m = .strict → ∀ n a, (n, a) ∈ as → (lookup n es).isSome = true) := by
  constructor
  · intro hs
    cases hs with
    | object hhas hvalues hextra =>
      refine ⟨fun n e hn => ?_, hextra⟩
      obtain ⟨a, ha⟩ := Option.isSome_iff_exists.mp (hhas n e hn)
      exact ⟨a, ha, hvalues n e a hn ha⟩
    | plain h _ => exact h.elim
  · rintro ⟨hmembers, hextra⟩
    refine .object (fun n e hn => ?_) (fun n e a hn ha => ?_) hextra
    · obtain ⟨a, ha, _⟩ := hmembers n e hn
      exact Option.isSome_iff_exists.mpr ⟨a, ha⟩
    · obtain ⟨b, hb, hs⟩ := hmembers n e hn
      rw [ha] at hb
      cases hb
      exact hs

theorem satisfies_ordered_iff {es as : List Json} :
    Satisfies .strict (array es) (array as) ↔ List.Forall₂ (Satisfies .strict) es as := by
  refine ⟨fun hs => ?_, .ordered rfl⟩
  cases hs with
  | ordered _ h => exact h
  | unordered _ h _ => cases h
  | plain h _ => exact h.elim

theorem satisfies_unordered_iff {es as : List Json} :
    Satisfies .onlyMatchingFields (array es) (array as) ↔
      ∃ place : Fin es.length ↪ Fin as.length,
        ∀ i, Satisfies .onlyMatchingFields es[i] as[place i] := by
  refine ⟨fun hs => ?_, fun ⟨place, h⟩ => .unordered place rfl h⟩
  cases hs with
  | ordered h _ => cases h
  | unordered place _ h => exact ⟨place, h⟩
  | plain h _ => exact h.elim

/-! ## Whole values -/

theorem missingItems_assigned_iff (trail : List JsonStep) {es as : List Json}
    (hchoices : ∀ i j : Nat, j ∈ (itemChoices .onlyMatchingFields es as).getD i [] ↔
      ∃ e a, es[i]? = some e ∧ as[j]? = some a ∧ Satisfies .onlyMatchingFields e a) :
    missingItems c trail 0 es
        (Assignment.ofEdges (itemChoices .onlyMatchingFields es as) as.length) = [] ↔
      Satisfies .onlyMatchingFields (array es) (array as) := by
  have hlen := length_itemChoices (m := .onlyMatchingFields) as es
  have hb : ∀ i : Nat, ∀ j ∈ (itemChoices .onlyMatchingFields es as).getD i [], j < as.length := by
    intro i j hj
    obtain ⟨_, a, _, ha, _⟩ := (hchoices i j).mp hj
    exact (List.getElem?_eq_some_iff.mp ha).1
  rw [missingItems_eq_nil_iff _ _ _ _ (by simp [Assignment.ofEdges, hlen]),
    Assignment.all_assigned_iff hlen hb, satisfies_unordered_iff]
  simp only [hchoices]
  refine exists_congr fun place => forall_congr' fun i => ?_
  simp

mutual

theorem compareAt_eq_nil_iff_satisfies (c : Comparison) (trail : List JsonStep) : ∀ e a : Json,
    compareAt c trail e a = [] ↔ Satisfies c.matchType e a
  | null, a => by
    rw [satisfies_iff_of_plain (by simp [IsPlainPair])]
    simp [compareAt]
  | bool b, a => by
    rw [satisfies_iff_of_plain (by simp [IsPlainPair])]
    simp [compareAt]
  | number x, a => by
    cases a with
    | number y => simp [compareAt, satisfies_number_iff]
    | _ =>
      rw [satisfies_iff_of_plain (by simp [IsPlainPair])]
      simp [compareAt]
  | string s, a => by
    cases hp : Placeholder.ofString? s with
    | none =>
      rw [satisfies_iff_of_plain (by simp [IsPlainPair, hp])]
      simp [compareAt, hp]
    | some p => simp [compareAt, hp, satisfies_placeholder_iff hp]
  | array es, a => by
    cases a with
    | array as =>
      obtain ⟨m, firstOnly⟩ := c
      cases m with
      | strict =>
        have hitems := compareItems_eq_nil_iff ⟨.strict, firstOnly⟩ trail 0 es as
        simpa [compareAt, satisfies_ordered_iff] using hitems
      | onlyMatchingFields =>
        have hassigned := missingItems_assigned_iff (c := ⟨.onlyMatchingFields, firstOnly⟩) trail
          (mem_itemChoices .onlyMatchingFields es as)
        simpa only [compareAt] using hassigned
    | _ =>
      rw [satisfies_iff_of_plain (by simp [IsPlainPair])]
      simp [compareAt]
  | object es, a => by
    cases a with
    | object as =>
      have hmembers := compareMembers_eq_nil_iff c trail es as
      obtain ⟨m, firstOnly⟩ := c
      cases m <;>
        simp [compareAt, satisfies_object_iff, hmembers, extraMembers_eq_nil_iff]
    | _ =>
      rw [satisfies_iff_of_plain (by simp [IsPlainPair])]
      simp [compareAt]
termination_by structural e => e

theorem compareMembers_eq_nil_iff (c : Comparison) (trail : List JsonStep) :
    ∀ es as : List (String × Json), compareMembers c trail es as = [] ↔
      ∀ n e, (n, e) ∈ es → ∃ a, lookup n as = some a ∧ Satisfies c.matchType e a
  | [], _ => by simp [compareMembers]
  | (n, e) :: rest, as => by
    have hvalue := compareAt_eq_nil_iff_satisfies c (.member n :: trail) e
    have hrest := compareMembers_eq_nil_iff c trail rest as
    rw [compareMembers, andThen_eq_nil_iff, hrest]
    constructor
    · rintro ⟨hn, hmore⟩ k v hk
      rcases List.mem_cons.mp hk with hk | hk
      · cases hk
        cases ha : lookup n as with
        | none => simp [ha] at hn
        | some a => exact ⟨a, rfl, (hvalue a).mp (by simpa [ha] using hn)⟩
      · exact hmore k v hk
    · intro h
      obtain ⟨a, ha, hs⟩ := h n e List.mem_cons_self
      exact ⟨by simpa [ha] using (hvalue a).mpr hs, fun k v hk => h k v (List.mem_cons_of_mem _ hk)⟩
termination_by structural es => es

theorem compareItems_eq_nil_iff (c : Comparison) (trail : List JsonStep) (place : Nat) :
    ∀ es as : List Json,
      compareItems c trail place es as = [] ↔ List.Forall₂ (Satisfies c.matchType) es as
  | [], as => by
    rw [compareItems, extraItems_eq_nil_iff, List.forall₂_nil_left_iff]
  | e :: rest, [] => by simp [compareItems]
  | e :: rest, a :: as => by
    rw [compareItems, andThen_eq_nil_iff, List.forall₂_cons,
      compareAt_eq_nil_iff_satisfies c (.item place :: trail) e a,
      compareItems_eq_nil_iff c trail (place + 1) rest as]
termination_by structural es => es

theorem mem_itemChoices (m : JsonMatchType) : ∀ (es as : List Json) (i j : Nat),
    j ∈ (itemChoices m es as).getD i [] ↔
      ∃ e a, es[i]? = some e ∧ as[j]? = some a ∧ Satisfies m e a
  | [], as, i, j => by simp [itemChoices]
  | e :: rest, as, 0, j => by
    have hitem := compareAt_eq_nil_iff_satisfies ⟨m, true⟩ [] e
    simp [itemChoices, mem_placesOf, hitem]
  | e :: rest, as, i + 1, j => by
    simpa [itemChoices] using mem_itemChoices m rest as i j
termination_by structural es => es

end

/-- There is no difference exactly if the actual value satisfies the expected one. -/
theorem compare_eq_nil_iff_satisfies (expected actual : Json) (matchType : JsonMatchType) :
    compare expected actual matchType = [] ↔ Satisfies matchType expected actual :=
  compareAt_eq_nil_iff_satisfies ⟨matchType, false⟩ [] expected actual

end Json
end RequestMatching
