import Mathlib.Data.Fin.Basic
import RequestMatching.Proofs.Json.Parts
import RequestMatching.Proofs.Json.Satisfaction

/-!
# Extensions

A value extends another one if it says all that the other one says: members and items may have come
in, items may stand in another order, and what there was may itself be extended. What accepts a value,
strictly or not, accepts its extensions if the match is relaxed.
-/

namespace RequestMatching

namespace Json

def isLeaf : Json → Bool
  | array _ | object _ => false
  | _ => true

/-- The second value extends the first. -/
inductive Extends : Json → Json → Prop
  | leaf {a : Json} : a.isLeaf = true → Extends a a
  /-- Every member is still there, with a value that extends the one that it had. -/
  | object {as as' : List (String × Json)} :
      (∀ n a, lookup n as = some a → (lookup n as').isSome = true) →
      (∀ n a a', lookup n as = some a → lookup n as' = some a' → Extends a a') →
      Extends (object as) (object as')
  /-- Every item has one that extends it for itself. -/
  | array {as as' : List Json} (place : Fin as.length ↪ Fin as'.length) :
      (∀ i, Extends (as.get i) (as'.get (place i))) → Extends (array as) (array as')

variable {m : JsonMatchType}

/-! ## Extensions of leaves and placeholders -/

theorem isLeaf_of_equal {e a : Json} (he : e.isLeaf = true) (h : e.equal a = true) : a.isLeaf = true := by
  cases e with
  | array _ | object _ => cases he
  | _ => cases a <;> first | rfl | exact absurd h Bool.false_ne_true

theorem eq_of_extends {a a' : Json} (h : Extends a a') (ha : a.isLeaf = true) : a' = a := by
  cases h with
  | leaf _ => rfl
  | object _ _ | array _ _ => cases ha

theorem accepts_of_extends {a a' : Json} {p : Placeholder} (h : Extends a a')
    (hp : p.accepts a = true) : p.accepts a' = true := by
  cases h with
  | leaf _ => exact hp
  | object _ _ | array _ _ => cases p <;> first | rfl | exact absurd hp Bool.false_ne_true

theorem extends_refl (a : Json) : Extends a a := by
  induction a using Json.induction with
  | null | bool _ | number _ | string _ => exact .leaf rfl
  | array as ih => exact .array (.refl _) fun i => ih (as.get i) (as.get_mem i)
  | object as ih =>
    refine .object (fun n a h => by rw [h]; rfl) fun n a a' h h' => ?_
    rw [h] at h'
    cases h'
    exact ih (n, a) (mem_of_lookup h)

/-! ## What extensions satisfy -/

theorem exists_items_of_satisfies {es : List Json} {a : Json} (h : Satisfies m (array es) a) :
    ∃ as, a = array as := by
  cases h with
  | ordered _ _ | unordered _ _ _ => exact ⟨_, rfl⟩
  | plain _ hequal => cases a <;> simp [equal] at hequal ⊢

theorem exists_members_of_satisfies {es : List (String × Json)} {a : Json}
    (h : Satisfies m (object es) a) : ∃ as, a = object as := by
  cases h with
  | object _ _ _ => exact ⟨_, rfl⟩
  | plain _ hequal => cases a <;> simp [equal] at hequal ⊢

theorem exists_place_of_satisfies {es as : List Json} (h : Satisfies m (array es) (array as)) :
    ∃ place : Fin es.length ↪ Fin as.length, ∀ i, Satisfies m (es.get i) (as.get (place i)) := by
  cases h with
  | ordered _ hitems =>
    obtain ⟨hlen, hget⟩ := List.forall₂_iff_get.mp hitems
    exact ⟨⟨Fin.cast hlen, Fin.cast_injective hlen⟩, fun i => hget i i.isLt (hlen ▸ i.isLt)⟩
  | unordered place _ hitems => exact ⟨place, hitems⟩
  | plain hplain _ => exact hplain.elim

theorem satisfies_extended_of_isLeaf {e a a' : Json} (he : e.isLeaf = true) (h : Satisfies m e a)
    (hext : Extends a a') : Satisfies .onlyMatchingFields e a' := by
  cases h with
  | placeholder hp ha => exact .placeholder hp (accepts_of_extends hext ha)
  | object _ _ _ | ordered _ _ | unordered _ _ _ => cases he
  | number hsame =>
    rw [eq_of_extends hext rfl]
    exact .number hsame
  | plain hplain hequal =>
    rw [eq_of_extends hext (isLeaf_of_equal he hequal)]
    exact .plain hplain hequal

mutual

theorem satisfies_extended : ∀ e a a' : Json, Satisfies m e a → Extends a a' →
    Satisfies .onlyMatchingFields e a'
  | null, _, _, h, hext | bool _, _, _, h, hext | number _, _, _, h, hext | string _, _, _, h, hext =>
    satisfies_extended_of_isLeaf rfl h hext
  | array es, _, _, h, hext => by
    have hserved := satisfies_extended_items es
    obtain ⟨as, rfl⟩ := exists_items_of_satisfies h
    obtain ⟨place, hitems⟩ := exists_place_of_satisfies h
    cases hext with
    | leaf ha => cases ha
    | array place' hext =>
      -- the item that serves for an expected one has moved, and its extension serves instead
      exact .unordered (place.trans place') rfl fun i =>
        hserved (es.get i) (es.get_mem i) _ _ (hitems i) (hext (place i))
  | object es, _, _, h, hext => by
    have hserved := satisfies_extended_members es
    obtain ⟨as, rfl⟩ := exists_members_of_satisfies h
    obtain ⟨hmembers, -⟩ := satisfies_object_iff.mp h
    cases hext with
    | leaf ha => cases ha
    | object hhas hext =>
      refine satisfies_object_iff.mpr ⟨fun n e hn => ?_, nofun⟩
      obtain ⟨a, ha, hs⟩ := hmembers n e hn
      obtain ⟨a', ha'⟩ := Option.isSome_iff_exists.mp (hhas n a ha)
      exact ⟨a', ha', hserved (n, e) hn _ _ hs (hext n a a' ha ha')⟩
termination_by structural e => e

theorem satisfies_extended_items : ∀ es : List Json, ∀ e ∈ es, ∀ a a' : Json, Satisfies m e a →
    Extends a a' → Satisfies .onlyMatchingFields e a'
  | [] => List.forall_mem_nil _
  | e :: rest => List.forall_mem_cons.mpr ⟨satisfies_extended e, satisfies_extended_items rest⟩
termination_by structural es => es

theorem satisfies_extended_members : ∀ es : List (String × Json), ∀ e ∈ es, ∀ a a' : Json,
    Satisfies m e.2 a → Extends a a' → Satisfies .onlyMatchingFields e.2 a'
  | [] => List.forall_mem_nil _
  | (_, e) :: rest => List.forall_mem_cons.mpr ⟨satisfies_extended e, satisfies_extended_members rest⟩
termination_by structural es => es

end

/-- If an actual value has no difference to an expected one, be the match strict or relaxed, then in a
relaxed match none of its extensions has one, nor has the value itself. -/
theorem compare_extended {e a : Json} (h : compare e a m = []) :
    compare e a .onlyMatchingFields = [] ∧
      ∀ a', Extends a a' → compare e a' .onlyMatchingFields = [] := by
  have hsatisfies := (compare_eq_nil_iff_satisfies e a m).mp h
  have hext : ∀ a', Extends a a' → compare e a' .onlyMatchingFields = [] := fun a' ha =>
    (compare_eq_nil_iff_satisfies e a' _).mpr (satisfies_extended e a a' hsatisfies ha)
  exact ⟨hext a (extends_refl a), hext⟩

/-- A pair of numbers under a name is what is expected; with another item in front, the pair in the
other order and another name it still is, though no longer strictly. -/
theorem compare_extended_of_pair :
    let one := number (.integer 1)
    let two := number (.integer 2)
    let e := object [("a", array [one, string "$\x7bjson-unit.any-number\x7d"])]
    let a := object [("a", array [one, two])]
    let a' := object [("a", array [null, two, one]), ("b", null)]
    compare e a .strict = [] ∧ Extends a a' ∧ compare e a' .onlyMatchingFields = [] ∧
      compare e a' .strict ≠ [] := by
  intro one two e a a'
  have hstrict : compare e a .strict = [] := by decide
  have hitems : Extends (array [one, two]) (array [null, two, one]) := by
    let place : Fin 2 → Fin 3 := fun i => if i = 0 then 2 else 1
    have hinj : ∀ i j, place i = place j → i = j := by decide
    refine .array ⟨place, hinj⟩ fun i => ?_
    match i with
    | ⟨0, _⟩ | ⟨1, _⟩ => exact .leaf rfl
  have hext : Extends a a' := by
    refine .object (fun n v h => ?_) fun n v v' h h' => ?_ <;> by_cases hn : "a" = n
    · simp [lookup, hn]
    · simp [lookup, hn] at h
    · simp only [lookup, hn, if_true, Option.some.injEq] at h h'
      exact h ▸ h' ▸ hitems
    · simp [lookup, hn] at h
  exact ⟨hstrict, hext, (compare_extended hstrict).2 a' hext, by decide⟩

end Json
end RequestMatching
