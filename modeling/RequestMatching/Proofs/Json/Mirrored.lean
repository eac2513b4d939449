import Mathlib.Data.List.Perm.Basic
import RequestMatching.Proofs.Json.Parts
import RequestMatching.Proofs.Json.Satisfaction
import RequestMatching.Proofs.Request.Equality

/-!
# Strict differences from the other side

A strict comparison that takes the actual value for the expected one finds the same differences seen
from the other side. What is missing on one side is extra on the other, and members that both objects
have are compared both ways, so only the order of the differences may change.
-/

namespace RequestMatching

/-! ## Differences from the other side -/

def JsonDifferenceKind.mirrored : JsonDifferenceKind → JsonDifferenceKind
  | extra => missing
  | missing => extra
  | different => different

/-- The difference as it is seen when the two values change places. -/
def JsonDifference.mirrored (d : JsonDifference) : JsonDifference :=
  ⟨d.kind.mirrored, d.path, d.actual, d.expected⟩

theorem JsonDifference.mirrored_mirrored (d : JsonDifference) : d.mirrored.mirrored = d := by
  obtain ⟨kind, path, expected, actual⟩ := d
  cases kind <;> rfl

/-! ## Equality from the other side -/

theorem Binary64.eq_comm (x y : Binary64) : eq x y = eq y x :=
  Bool.eq_iff_iff.mpr ⟨eq_symm, eq_symm⟩

theorem JsonNumber.same_comm (x y : JsonNumber) : x.same y = y.same x := by
  cases x with
  | float x =>
    cases y <;> (simp only [same]; exact Binary64.eq_comm _ _)
  | integer i =>
    cases y with
    | float y =>
      simp only [same]
      exact Binary64.eq_comm _ _
    | integer j =>
      simp only [same, Bool.and_comm (fitsSigned 64 i), Bool.and_comm (decide (0 ≤ i)),
        BEq.comm (a := i), Binary64.eq_comm (.ofInt i)]

namespace Json

theorem equal_comm (v w : Json) : v.equal w = w.equal v :=
  Bool.eq_iff_iff.mpr ⟨equal_symm, equal_symm⟩

/-- No object in the value has a name twice, and no string stands for a class of values. -/
structure IsLiteral (v : Json) : Prop where
  names : v.hasDistinctNames = true
  strings : ∀ p, v.lacks p = true

section
variable {v : Json} {n s : String} {items : List Json} {members : List (String × Json)}

theorem IsLiteral.string (h : (string s).IsLiteral) : Placeholder.ofString? s = none :=
  Option.eq_none_iff_forall_ne_some.mpr fun p => lacks_string.mp (h.strings p)

theorem IsLiteral.item (h : (array items).IsLiteral) (hv : v ∈ items) : v.IsLiteral :=
  ⟨hasDistinctNames_array.mp h.names v hv, fun p => lacks_array.mp (h.strings p) v hv⟩

theorem IsLiteral.member (h : (object members).IsLiteral) (hv : (n, v) ∈ members) : v.IsLiteral :=
  ⟨(hasDistinctNames_object.mp h.names).2 _ hv, fun p => lacks_object.mp (h.strings p) _ hv⟩

end

/-! ## Comparisons that find everything -/

def strictly : Comparison :=
  ⟨.strict, false⟩

theorem strictly_andThen (found more : List JsonDifference) :
    strictly.andThen found more = found ++ more :=
  rfl

theorem compareWith_mirrored (same : Bool) (trail : List JsonStep) (e a : Json) :
    (compareWith same trail e a).map (·.mirrored) = compareWith same trail a e := by
  cases same <;> rfl

/-! ## Pairs that are told apart as wholes -/

theorem compareAt_plain {c : Comparison} {trail : List JsonStep} {e a : Json}
    (h : IsPlainPair e a) : compareAt c trail e a = compareWith (e.equal a) trail e a := by
  cases e with
  | string s =>
    have hs : Placeholder.ofString? s = none := h
    simp only [compareAt, hs]
  | null | bool _ => rfl
  | number _ | array _ | object _ => cases a <;> first | rfl | exact h.elim

theorem IsPlainPair.symm {e a : Json} (h : IsPlainPair e a) (ha : a.IsLiteral) : IsPlainPair a e := by
  cases a with
  | string s => exact ha.string
  | null | bool _ => trivial
  | number _ | array _ | object _ => cases e <;> trivial

theorem compareAt_plain_mirrored {e a : Json} {trail : List JsonStep} (h : IsPlainPair e a)
    (ha : a.IsLiteral) : (compareAt strictly trail a e).Perm
      ((compareAt strictly trail e a).map (·.mirrored)) := by
  rw [compareAt_plain h, compareAt_plain (h.symm ha), compareWith_mirrored, equal_comm]

/-! ## Items -/

theorem compareItems_nil_right (trail : List JsonStep) : ∀ (place : Nat) (as : List Json),
    compareItems strictly trail place as [] =
      (extraItems strictly trail place as).map (·.mirrored)
  | _, [] => rfl
  | place, a :: as => by
    rw [compareItems, extraItems, strictly_andThen, strictly_andThen, List.map_append,
      compareItems_nil_right trail (place + 1) as]
    rfl

theorem compareItems_mirrored {trail : List JsonStep} : ∀ {place : Nat} {es as : List Json},
    (∀ e ∈ es, ∀ a ∈ as, ∀ step, (compareAt strictly (step :: trail) a e).Perm
      ((compareAt strictly (step :: trail) e a).map (·.mirrored))) →
    (compareItems strictly trail place as es).Perm
      ((compareItems strictly trail place es as).map (·.mirrored))
  | place, [], as, _ => by
    rw [compareItems_nil_right]
    exact .refl _
  | place, es, [], _ => by
    have htwice : (JsonDifference.mirrored ∘ JsonDifference.mirrored) = id :=
      funext JsonDifference.mirrored_mirrored
    rw [compareItems_nil_right, List.map_map, htwice, List.map_id]
    exact .refl _
  | place, e :: es, a :: as, h => by
    have hfirst := h e List.mem_cons_self a List.mem_cons_self (.item place)
    have hrest : (compareItems strictly trail (place + 1) as es).Perm
        ((compareItems strictly trail (place + 1) es as).map (·.mirrored)) :=
      compareItems_mirrored fun e he a ha =>
        h e (List.mem_cons_of_mem _ he) a (List.mem_cons_of_mem _ ha)
    rw [compareItems, compareItems, strictly_andThen, strictly_andThen, List.map_append]
    exact hfirst.append hrest

/-! ## Members -/

def shared (es as : List (String × Json)) : List (String × Json × Json) :=
  es.filterMap fun m => (lookup m.1 as).map fun a => (m.1, m.2, a)

def exchanged (m : String × Json × Json) : String × Json × Json :=
  (m.1, m.2.2, m.2.1)

def unshared (es as : List (String × Json)) : List (String × Json) :=
  es.filter fun m => (lookup m.1 as).isNone

def sharedDifferences (trail : List JsonStep) (ms : List (String × Json × Json)) :
    List JsonDifference :=
  ms.flatMap fun m => compareAt strictly (.member m.1 :: trail) m.2.1 m.2.2

def missingMembers (trail : List JsonStep) (ms : List (String × Json)) : List JsonDifference :=
  ms.flatMap fun m => difference (.member m.1 :: trail) .missing (some m.2) none

def surplusMembers (trail : List JsonStep) (ms : List (String × Json)) : List JsonDifference :=
  ms.flatMap fun m => difference (.member m.1 :: trail) .extra none (some m.2)

theorem missingMembers_mirrored (trail : List JsonStep) (ms : List (String × Json)) :
    (missingMembers trail ms).map (·.mirrored) = surplusMembers trail ms :=
  List.map_flatMap

theorem surplusMembers_mirrored (trail : List JsonStep) (ms : List (String × Json)) :
    (surplusMembers trail ms).map (·.mirrored) = missingMembers trail ms :=
  List.map_flatMap

theorem compareMembers_perm (trail : List JsonStep) (es as : List (String × Json)) :
    (compareMembers strictly trail es as).Perm
      (sharedDifferences trail (shared es as) ++ missingMembers trail (unshared es as)) := by
  induction es with
  | nil => exact .refl _
  | cons m rest ih =>
    obtain ⟨n, e⟩ := m
    rw [compareMembers, strictly_andThen]
    cases ha : lookup n as with
    | some a =>
      have hshared : shared ((n, e) :: rest) as = (n, e, a) :: shared rest as := by
        simp [shared, ha]
      have hunshared : unshared ((n, e) :: rest) as = unshared rest as := by
        simp [unshared, ha]
      rw [hshared, hunshared, sharedDifferences, List.flatMap_cons, List.append_assoc]
      exact ih.append_left _
    | none =>
      have hshared : shared ((n, e) :: rest) as = shared rest as := by
        simp [shared, ha]
      have hunshared : unshared ((n, e) :: rest) as = (n, e) :: unshared rest as := by
        simp [unshared, ha]
      rw [hshared, hunshared, missingMembers, List.flatMap_cons]
      exact (ih.append_left _).trans (List.perm_append_comm_assoc ..)

theorem extraMembers_eq (trail : List JsonStep) (es as : List (String × Json)) :
    extraMembers strictly trail es as = surplusMembers trail (unshared as es) := by
  induction as with
  | nil => rfl
  | cons m rest ih =>
    obtain ⟨n, v⟩ := m
    rw [extraMembers, strictly_andThen, ih]
    cases he : lookup n es <;> simp [unshared, surplusMembers, he]

theorem compareAt_object (trail : List JsonStep) (es as : List (String × Json)) :
    (compareAt strictly trail (object es) (object as)).Perm
      (sharedDifferences trail (shared es as) ++ missingMembers trail (unshared es as) ++
        surplusMembers trail (unshared as es)) := by
  have hsplit : compareAt strictly trail (object es) (object as) =
      compareMembers strictly trail es as ++ extraMembers strictly trail es as := rfl
  rw [hsplit, extraMembers_eq]
  exact (compareMembers_perm trail es as).append_right _

section
variable {es as : List (String × Json)}

theorem mem_shared {m : String × Json × Json} :
    m ∈ shared es as ↔ (m.1, m.2.1) ∈ es ∧ lookup m.1 as = some m.2.2 := by
  obtain ⟨n, e, a⟩ := m
  simp only [shared, List.mem_filterMap, Option.map_eq_some_iff, Prod.exists, Prod.mk.injEq]
  constructor
  · rintro ⟨_, _, he, _, ha, rfl, rfl, rfl⟩
    exact ⟨he, ha⟩
  · exact fun ⟨he, ha⟩ => ⟨n, e, he, a, ha, rfl, rfl, rfl⟩

theorem shared_nodup (hes : (es.map (·.1)).Nodup) : (shared es as).Nodup := by
  refine (List.Nodup.of_map _ hes).filterMap fun m m' b hb hb' => ?_
  obtain ⟨a, -, rfl⟩ := Option.map_eq_some_iff.mp hb
  obtain ⟨a', -, heq⟩ := Option.map_eq_some_iff.mp hb'
  simp only [Prod.mk.injEq] at heq
  exact Prod.ext heq.1.symm heq.2.1.symm

theorem exchanged_injective : Function.Injective exchanged := by
  rintro ⟨n, e, a⟩ ⟨n', e', a'⟩ h
  cases h
  rfl

theorem shared_perm (hes : (es.map (·.1)).Nodup) (has : (as.map (·.1)).Nodup) :
    (shared as es).Perm ((shared es as).map exchanged) := by
  have hnodup : ((shared es as).map exchanged).Nodup := (shared_nodup hes).map exchanged_injective
  refine (List.perm_ext_iff_of_nodup (shared_nodup has) hnodup).mpr ?_
  rintro ⟨n, a, e⟩
  simp only [List.mem_map, mem_shared, lookup_eq_some_iff hes, lookup_eq_some_iff has, Prod.exists,
    exchanged, Prod.mk.injEq]
  constructor
  · exact fun ⟨ha, he⟩ => ⟨n, e, a, ⟨he, ha⟩, rfl, rfl, rfl⟩
  · rintro ⟨_, _, _, ⟨he, ha⟩, rfl, rfl, rfl⟩
    exact ⟨ha, he⟩

theorem sharedDifferences_mirrored {trail : List JsonStep} (hes : (es.map (·.1)).Nodup)
    (has : (as.map (·.1)).Nodup)
    (hvalues : ∀ n e a, (n, e) ∈ es → (n, a) ∈ as →
      (compareAt strictly (.member n :: trail) a e).Perm
        ((compareAt strictly (.member n :: trail) e a).map (·.mirrored))) :
    (sharedDifferences trail (shared as es)).Perm
      ((sharedDifferences trail (shared es as)).map (·.mirrored)) :=
  calc (sharedDifferences trail (shared as es)).Perm
        (sharedDifferences trail ((shared es as).map exchanged)) :=
        (shared_perm hes has).flatMap_right _
    _ = (shared es as).flatMap fun m => compareAt strictly (.member m.1 :: trail) m.2.2 m.2.1 :=
        List.flatMap_map ..
    List.Perm _ ((shared es as).flatMap fun m =>
          (compareAt strictly (.member m.1 :: trail) m.2.1 m.2.2).map (·.mirrored)) := by
        refine List.Perm.flatMap_left _ fun m hm => ?_
        obtain ⟨he, ha⟩ := mem_shared.mp hm
        exact hvalues m.1 m.2.1 m.2.2 he (mem_of_lookup ha)
    _ = (sharedDifferences trail (shared es as)).map (·.mirrored) := List.map_flatMap.symm

theorem compareObjects_mirrored {trail : List JsonStep} (hes : (es.map (·.1)).Nodup)
    (has : (as.map (·.1)).Nodup)
    (hvalues : ∀ n e a, (n, e) ∈ es → (n, a) ∈ as →
      (compareAt strictly (.member n :: trail) a e).Perm
        ((compareAt strictly (.member n :: trail) e a).map (·.mirrored))) :
    (compareAt strictly trail (object as) (object es)).Perm
      ((compareAt strictly trail (object es) (object as)).map (·.mirrored)) := by
  have hshared := sharedDifferences_mirrored hes has hvalues
  refine (compareAt_object trail as es).trans (.trans ?_ ((compareAt_object trail es as).map _).symm)
  rw [List.map_append, List.map_append, missingMembers_mirrored, surplusMembers_mirrored,
    List.append_assoc, List.append_assoc]
  -- what one side lacks is told last from the one side and first from the other
  exact hshared.append List.perm_append_comm

end

/-! ## Whole values -/

theorem compareAt_mirrored {e : Json} : ∀ {a : Json} {trail : List JsonStep}, e.IsLiteral → a.IsLiteral →
    (compareAt strictly trail a e).Perm ((compareAt strictly trail e a).map (·.mirrored)) := by
  induction e using Json.induction with
  | null | bool _ => exact fun _ ha => compareAt_plain_mirrored trivial ha
  | string s => exact fun he ha => compareAt_plain_mirrored he.string ha
  | number x =>
    intro a trail he ha
    cases a with
    | number y =>
      have hsame : compareAt strictly trail (number y) (number x) =
          compareWith (y.same x) trail (number y) (number x) := rfl
      rw [hsame, JsonNumber.same_comm, ← compareWith_mirrored]
      exact .refl _
    | _ => exact compareAt_plain_mirrored trivial ha
  | array es ih =>
    intro a trail he ha
    cases a with
    | array as =>
      exact compareItems_mirrored fun e hmem a hmem' step => ih e hmem (he.item hmem) (ha.item hmem')
    | _ => exact compareAt_plain_mirrored trivial ha
  | object es ih =>
    intro a trail he ha
    cases a with
    | object as =>
      exact compareObjects_mirrored (hasDistinctNames_object.mp he.names).1
        (hasDistinctNames_object.mp ha.names).1 fun n e a hmem hmem' =>
          ih (n, e) hmem (he.member hmem) (ha.member hmem')
    | _ => exact compareAt_plain_mirrored trivial ha

/-- Between values without placeholders, the strict differences with the sides exchanged are the same
ones, each seen from the other side; so it does not matter which value is the expected one. -/
theorem compare_exchanged {e a : Json} (he : e.IsLiteral) (ha : a.IsLiteral) :
    (compare a e .strict).Perm ((compare e a .strict).map (·.mirrored)) ∧
      (compare a e .strict = [] ↔ compare e a .strict = []) := by
  have hperm : (compare a e .strict).Perm ((compare e a .strict).map (·.mirrored)) :=
    compareAt_mirrored he ha
  exact ⟨hperm, by rw [← List.length_eq_zero_iff, hperm.length_eq, List.length_map,
    List.length_eq_zero_iff]⟩

/-- Two objects with a member each that the other one does not have: what is missing is told before
what is extra, so the differences from the other side stand in another order. -/
theorem compare_exchanged_of_objects :
    let one := number (.integer 1)
    let two := number (.integer 2)
    let e := object [("a", one), ("b", array [one]), ("c", string "x")]
    let a := object [("a", two), ("b", array [one, two]), ("d", bool true)]
    e.IsLiteral ∧ a.IsLiteral ∧
      (compare a e .strict).Perm ((compare e a .strict).map (·.mirrored)) ∧
      compare a e .strict ≠ (compare e a .strict).map (·.mirrored) ∧ compare e a .strict ≠ [] := by
  intro one two e a
  have he : e.IsLiteral := ⟨by decide, fun p => by cases p <;> decide⟩
  have ha : a.IsLiteral := ⟨by decide, fun p => by cases p <;> decide⟩
  exact ⟨he, ha, (compare_exchanged he ha).1, by decide, by decide⟩

end Json
end RequestMatching
