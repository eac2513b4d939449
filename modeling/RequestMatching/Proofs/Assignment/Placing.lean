import RequestMatching.Proofs.Assignment.Maximum

/-!
# The items are placed in one way

Placing the items one after the other by searches without a bound has at most one outcome, and it always
has the one that is found by bounded searches. So the placing comes to an end, and the bound is not felt.
-/

namespace RequestMatching

namespace Assignment

/-- Items are placed one after the other, each by a search of its own. -/
inductive Places (edges : List (List Nat)) (size : Nat) :
    List Nat → List (Option Nat) → List (Option Nat) → Prop
  | done {owner} : Places edges size [] owner owner
  | next {i items owner r final} : Searches edges i (edges.getD i []) (start owner size) r →
      Places edges size items r.2.owner final → Places edges size (i :: items) owner final

variable {edges : List (List Nat)} {size : Nat}

/-! ## One outcome -/

theorem Searches.unique {i : Nat} {choices : List Nat} {s : Search} {r r' : Bool × Search}
    (h : Searches edges i choices s r) (h' : Searches edges i choices s r') : r' = r := by
  induction h generalizing r' with
  | nothingLeft => cases h'; rfl
  | alreadyTried hj _ ih =>
    cases h' with
    | alreadyTried _ h' => exact ih h'
    | free hj' _ | moved hj' _ _ | stayed hj' _ _ _ => exact absurd hj hj'
  | free hj ho =>
    cases h' with
    | alreadyTried hj' _ => exact absurd hj' hj
    | free _ _ => rfl
    | moved _ ho' _ | stayed _ ho' _ _ => rw [ho] at ho'; cases ho'
  | moved hj ho _ ih =>
    cases h' with
    | alreadyTried hj' _ => exact absurd hj' hj
    | free _ ho' => rw [ho] at ho'; cases ho'
    | moved _ ho' hk' =>
      rw [ho] at ho'
      cases ho'
      cases ih hk'
      rfl
    | stayed _ ho' hk' _ =>
      rw [ho] at ho'
      cases ho'
      cases ih hk'
  | stayed hj ho _ _ ihk ih =>
    cases h' with
    | alreadyTried hj' _ => exact absurd hj' hj
    | free _ ho' => rw [ho] at ho'; cases ho'
    | moved _ ho' hk' =>
      rw [ho] at ho'
      cases ho'
      cases ihk hk'
    | stayed _ ho' hk' h' =>
      rw [ho] at ho'
      cases ho'
      cases ihk hk'
      exact ih h'

theorem Places.unique {items : List Nat} {owner final final' : List (Option Nat)}
    (h : Places edges size items owner final) (h' : Places edges size items owner final') :
    final' = final := by
  induction h with
  | done => cases h'; rfl
  | next hi _ ih =>
    cases h' with
    | next hi' h' =>
      cases hi.unique hi'
      exact ih h'

/-! ## The outcome within the bound -/

theorem owners_places : ∀ (items : List Nat) {owner : List (Option Nat)}, owner.length = size →
    Places edges size items owner (owners edges size items owner)
  | [], _, _ => .done
  | i :: items, owner, hlen => by
    have hkept := (augment_start_ends edges i hlen).keeps
    exact .next (augment_start_searches edges i hlen) (owners_places items hkept.length_of_start)

/-- Placing items always comes to the end that is found within the bound, and to no other. -/
theorem places_iff {items : List Nat} {owner final : List (Option Nat)} (hlen : owner.length = size) :
    Places edges size items owner final ↔ final = owners edges size items owner := by
  constructor
  · exact (owners_places items hlen).unique
  · rintro rfl
    exact owners_places items hlen

end Assignment
end RequestMatching
