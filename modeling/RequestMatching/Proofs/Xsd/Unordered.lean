import RequestMatching.Proofs.Xsd.Soundness

/-!
# Unordered groups share out elements

The elements that an unordered group takes are shared out among its items: each goes to an item of its
own that may stand for it, and the items left over may stand for nothing. The exception is an item that
may not occur at all: it lets one element of its name pass, of which nothing else is asked.
-/

namespace RequestMatching

namespace Xsd

section
variable {α : Type}

/-- An item takes a thing if it may occur once and the thing is what it declares. -/
def Particle.Takes (t : Letters α) : Particle → α → Prop
  | .element name type o, x => o.Allows 1 ∧ t.declared name type x
  | .reference name o, x => o.Allows 1 ∧ t.global name x
  | _, _ => False

/-- Each thing goes to an item of its own, and the other items may do without one. -/
def SharedOut (takes : Particle → α → Prop) (items : List Particle) (taken : List α) : Prop :=
  ∃ used unused, (used ++ unused).Perm items ∧ List.Forall₂ takes used taken ∧
    ∀ p ∈ unused, p.occurs.Allows 0

theorem SharedOut.cons {takes : Particle → α → Prop} {p : Particle} {others items : List Particle}
    {x : α} {taken : List α} (hitems : (p :: others).Perm items) (hx : takes p x) :
    SharedOut takes others taken → SharedOut takes items (x :: taken)
  | ⟨used, unused, hperm, hused, hunused⟩ =>
    ⟨p :: used, unused, (hperm.cons p).trans hitems, .cons hx hused, hunused⟩

theorem SharedOut.nil {takes : Particle → α → Prop} {items : List Particle}
    (h : ∀ p ∈ items, p.occurs.Allows 0) : SharedOut takes items [] :=
  ⟨[], items, .refl items, .nil, h⟩

end

theorem Occurs.allows_zero {o : Occurs} (h : o.min = 0) : o.Allows 0 :=
  ⟨Nat.le_of_eq h, fun _ _ => Nat.zero_le _⟩

/-- An item that may not occur lets an element of its name pass. -/
def Particle.LetsPass (target : Option String) (p : Particle) (e : XmlElement) : Prop :=
  p.occurs.max = some 0 ∧ ∃ name ∈ p.elementName?, isNamed target e name = true

/-! ## Items that are read -/

theorem closedUnderReading_isAllItem (s : Sources) :
    ClosedUnderReading s (fun p => ∀ items o, p = .all items o → ∀ q ∈ items, isAllItem q = true)
      fun _ => True where
  reference _ := nofun
  element _ _ := nofun
  group _ hgroup _ := by
    intro items o hp
    obtain rfl | rfl | ⟨rfl, hitems⟩ := groupOf_cases hgroup <;> cases hp
    exact hitems
  any := trivial
  simple := trivial
  named _ := trivial
  complex _ := trivial

/-- Items of an unordered group are single elements with at most one occurrence. -/
structure Particle.IsItem (p : Particle) : Prop where
  named : ∃ name, p.elementName? = some name
  inOrder : p.occurs.InOrder
  single : ∃ most, p.occurs.max = some most ∧ most ≤ 1

theorem Particle.Every.self {said : Particle → Prop} {p : Particle} (h : p.Every said) : said p := by
  cases p with
  | element _ _ _ | reference _ _ => exact h
  | sequence _ _ | choice _ _ | all _ _ => exact h.1

theorem Particle.IsRead.isItem {items : List Particle} {o : Occurs}
    (h : (Particle.all items o).IsRead) : ∀ p ∈ items, p.IsItem := by
  have horder : Particle.ItemsInOrder items := h.inOrder.2
  obtain ⟨s, node, hread⟩ := h
  intro p hp
  have hitem := (closedUnderReading_isAllItem s).particle? hread _ rfl items o rfl p hp
  unfold isAllItem at hitem
  rw [Bool.and_eq_true, Option.isSome_iff_exists, Option.any_eq_true] at hitem
  obtain ⟨hnamed, most, hmost, hle⟩ := hitem
  exact ⟨hnamed, (horder.of_mem hp).self, most, hmost, of_decide_eq_true hle⟩

theorem Particle.IsItem.allows_one {p : Particle} (h : p.IsItem) (hmax : p.occurs.max ≠ some 0) :
    p.occurs.Allows 1 := by
  obtain ⟨most, hmost, hle⟩ := h.single
  have hpos : most ≠ 0 := fun hzero => hmax (hzero ▸ hmost)
  refine ⟨Nat.le_trans (h.inOrder most hmost) hle, fun m hm => ?_⟩
  rw [hmost] at hm
  cases hm
  exact Nat.one_le_iff_ne_zero.mpr hpos

/-! ## The walk over the elements -/

variable {s : Schema} {valid : Validity} {path : String}

theorem pickItem_allItems {target : Option String} {e : XmlElement} {i : AllItem} :
    ∀ {items : List Particle} {others : List AllItem},
      pickItem target e (allItems s valid path items) = some (i, others) →
      ∃ p left, (p :: left).Perm items ∧ others = allItems s valid path left ∧
        i.run = matchParticle s valid path p ∧ isNamed target e (p.elementName?.getD "") = true
  | [], _, h => nomatch h
  | p :: rest, others, h => by
    unfold allItems pickItem at h
    split at h
    · rename_i hname
      cases h
      exact ⟨p, rest, .refl _, rfl, rfl, hname⟩
    · obtain ⟨⟨found, more⟩, hpick, hmore⟩ := Option.map_eq_some_iff.mp h
      cases hmore
      obtain ⟨q, left, hperm, rfl, hrun, hname⟩ := pickItem_allItems hpick
      refine ⟨q, p :: left, ?_, rfl, hrun, hname⟩
      exact (List.Perm.swap p q left).trans (hperm.cons p)

theorem min_of_none_required {items : List Particle}
    (h : (allItems s valid path items).find? (·.required) = none) : ∀ p ∈ items, p.occurs.min = 0 := by
  induction items with
  | nil => simp
  | cons p rest ih =>
    unfold allItems at h
    rw [List.find?_cons] at h
    split at h
    · cases h
    · rename_i hfirst
      have hmin : p.occurs.min = 0 := by simpa using hfirst
      exact List.forall_mem_cons.mpr ⟨hmin, ih h⟩

theorem valid_of_takeNamed {target : Option String} {name : String} {type : ElementType} {o : Occurs}
    {e : XmlElement} {cs rest : List XmlElement} (hmax : o.max ≠ some 0)
    (hname : isNamed target e name = true)
    (h : takeNamed target valid name type o path 0 (e :: cs) = .ok rest) :
    valid e type (path ++ "/" ++ name) = .ok () := by
  have hroom : o.max.all (0 < ·) = true := by
    rw [max_all_iff]
    intro most hmost
    exact Nat.pos_of_ne_zero fun hzero => hmax (hzero ▸ hmost)
  unfold takeNamed at h
  rw [hroom, hname, Bool.and_true, if_pos rfl] at h
  obtain ⟨⟨⟩, hvalid, -⟩ := ok_of_bind h
  exact hvalid

/-- The step: the element that an item is picked for is validated, unless the item may not occur. -/
theorem Particle.IsItem.takes {p : Particle} (hp : p.IsItem) {e : XmlElement}
    {cs rest : List XmlElement}
    (hname : isNamed s.targetNamespace e (p.elementName?.getD "") = true)
    (h : matchParticle s valid path p (e :: cs) = .ok rest) :
    p.Takes (.ofSchema s valid path) e ∨ p.LetsPass s.targetNamespace e := by
  obtain ⟨name, hsome⟩ := hp.named
  rw [hsome, Option.getD_some] at hname
  by_cases hmax : p.occurs.max = some 0
  · exact .inr ⟨hmax, name, hsome, hname⟩
  have hone := hp.allows_one hmax
  left
  cases p with
  | element n type o =>
    cases hsome
    unfold matchParticle at h
    exact ⟨hone, hname, valid_of_takeNamed hmax hname h⟩
  | reference n o =>
    cases hsome
    unfold matchParticle at h
    split at h
    · rename_i type htype
      exact ⟨hone, type, htype, hname, valid_of_takeNamed hmax hname h⟩
    · cases h
  | sequence _ _ | choice _ _ | all _ _ => cases hsome

/-- The run: the items that no element was given to are those that may do without one. -/
theorem matchAll_takes : ∀ {cs rest : List XmlElement} {items : List Particle},
    (∀ p ∈ items, p.IsItem) →
    matchAll s.targetNamespace path (allItems s valid path items) cs = .ok rest →
    ∃ taken, taken ++ rest = cs ∧
      SharedOut (fun p e => p.Takes (.ofSchema s valid path) e ∨ p.LetsPass s.targetNamespace e)
        items taken
  | [], rest, items, hitems, h => by
    unfold matchAll at h
    split at h
    · cases h
    · rename_i hnone
      cases h
      exact ⟨[], rfl, .nil fun p hp => Occurs.allows_zero (min_of_none_required hnone p hp)⟩
  | e :: cs, rest, items, hitems, h => by
    unfold matchAll at h
    split at h
    · rename_i i others hpick
      obtain ⟨left, hrun, h⟩ := ok_of_bind h
      obtain ⟨p, remaining, hperm, rfl, hi, hname⟩ := pickItem_allItems hpick
      rw [hi] at hrun
      have hmem : ∀ q ∈ p :: remaining, q.IsItem := fun q hq => hitems q (hperm.mem_iff.mp hq)
      rw [List.forall_mem_cons] at hmem
      obtain ⟨taken, rfl, hshared⟩ := matchAll_takes hmem.2 h
      exact ⟨e :: taken, rfl, hshared.cons hperm (hmem.1.takes hname hrun)⟩
    · split at h
      · cases h
      · rename_i hnone
        cases h
        exact ⟨[], rfl, .nil fun p hp => Occurs.allows_zero (min_of_none_required hnone p hp)⟩

/-- What an unordered group takes from some place on ends at a place that is not before it, and is
shared out among the items. -/
theorem matchAll_sharedOut {items : List Particle} {o : Occurs}
    (hread : (Particle.all items o).IsRead) {children rest : List XmlElement} {pos : Nat}
    (hpos : pos ≤ children.length)
    (h : matchAll s.targetNamespace path (allItems s valid path items) (children.drop pos) =
      .ok rest) :
    ∃ next, pos ≤ next ∧ next ≤ children.length ∧ rest = children.drop next ∧
      SharedOut (fun p e => p.Takes (.ofSchema s valid path) e ∨ p.LetsPass s.targetNamespace e)
        items ((children.take next).drop pos) := by
  obtain ⟨taken, hsplit, hshared⟩ := matchAll_takes hread.isItem h
  have hlen : taken.length + rest.length = children.length - pos := by
    rw [← List.length_append, hsplit, List.length_drop]
  refine ⟨pos + taken.length, Nat.le_add_right _ _, by omega, ?_, ?_⟩
  · rw [← List.drop_drop, ← hsplit, List.drop_left]
  · rwa [List.drop_take, Nat.add_sub_cancel_left, ← hsplit, List.take_left]

def optionalAndNumber : List Particle :=
  [.element "a" .any ⟨0, some 1⟩, .element "b" (.simple { base := .int }) ⟨1, some 1⟩]

/-- From the second of three elements on, the group takes the two that are left, the number first. -/
theorem matchAll_sharedOut_of_two :
    let s : Schema := ⟨none, [], []⟩
    let b : XmlElement := ⟨plainTag "b" [], [.text "7"]⟩
    let a : XmlElement := ⟨plainTag "a" [], []⟩
    ∃ next, 1 ≤ next ∧ next ≤ 3 ∧ [] = [a, b, a].drop next ∧
      SharedOut (fun p e => p.Takes (.ofSchema s (checkElement s 1) "/r") e ∨ p.LetsPass none e)
        optionalAndNumber (([a, b, a].take next).drop 1) := by
  intro s b a
  have hread : particle? {} (.element (plainTag "all" []) [
      .element (plainTag "element" [("name", "a"), ("minOccurs", "0")]) [],
      .element (plainTag "element" [("name", "b"), ("type", "int")]) []]) =
      .ok (some (.all optionalAndNumber ⟨1, some 1⟩)) := by
    rfl
  have hrun : matchAll s.targetNamespace "/r"
      (allItems s (checkElement s 1) "/r" optionalAndNumber) ([a, b, a].drop 1) = .ok [] := by
    rfl
  exact matchAll_sharedOut ⟨_, _, hread⟩ (show 1 ≤ 3 by decide) hrun

/-- Not everything that an unordered group takes is validated: of `a` with no occurrences allowed it
takes one, whatever is in it. -/
theorem not_matchAll_sharedOut : ¬ ∀ (s : Schema) (valid : Validity) (path : String)
    (items : List Particle) (o : Occurs) (children rest : List XmlElement) (pos : Nat),
    (Particle.all items o).IsRead → pos ≤ children.length →
    matchAll s.targetNamespace path (allItems s valid path items) (children.drop pos) = .ok rest →
    ∃ next, pos ≤ next ∧ next ≤ children.length ∧ rest = children.drop next ∧
      SharedOut (Particle.Takes (.ofSchema s valid path)) items ((children.take next).drop pos) := by
  intro h
  let s : Schema := ⟨none, [], []⟩
  let a : XmlElement := ⟨plainTag "a" [], [.text "x"]⟩
  let never : List Particle := [.element "a" (.simple { base := .int }) ⟨0, some 0⟩]
  have hread : particle? {} (.element (plainTag "all" []) [
      .element (plainTag "element"
        [("name", "a"), ("type", "int"), ("minOccurs", "0"), ("maxOccurs", "0")]) []]) =
      .ok (some (.all never ⟨1, some 1⟩)) := by
    rfl
  have hrun : matchAll s.targetNamespace "/r" (allItems s (checkElement s 1) "/r" never) [a] =
      .ok [] := by
    rfl
  obtain ⟨next, -, hnext, hrest, used, unused, hperm, hused, -⟩ :=
    h s (checkElement s 1) "/r" never ⟨1, some 1⟩ [a] [] 0 ⟨_, _, hread⟩ (Nat.zero_le _) hrun
  -- Nothing is left, so the element is taken and some item has to take it.
  obtain rfl : next = 1 := Nat.le_antisymm hnext (List.drop_eq_nil_iff.mp hrest.symm)
  obtain ⟨p, more, hp, -, rfl⟩ := List.forall₂_cons_right_iff.mp hused
  have hmem : p ∈ never := hperm.mem_iff.mp (List.mem_append_left _ (.head more))
  obtain rfl := List.mem_singleton.mp hmem
  have hone : 1 ≤ 0 := hp.1.2 0 rfl
  exact absurd hone (by decide)

end Xsd
end RequestMatching
