import RequestMatching.Proofs.Text.Splitting
import RequestMatching.Proofs.Xsd.Derivation
import RequestMatching.Proofs.Xsd.Numerals

/-!
# Bounds on numbers

A simple type may bound its numbers, and so may each type that it comes from. Texts and bounds are
compared by the doubles that they become: bounds that leave out their number hold exactly, the others
may take a number for theirs that becomes the same double.
-/

namespace RequestMatching

namespace Xsd

inductive BoundKind where
  | minInclusive
  | maxInclusive
  | minExclusive
  | maxExclusive

namespace BoundKind

def name : BoundKind → String
  | minInclusive => "minInclusive"
  | maxInclusive => "maxInclusive"
  | minExclusive => "minExclusive"
  | maxExclusive => "maxExclusive"

def Holds : BoundKind → ExtendedRat → ExtendedRat → Prop
  | minInclusive, bound, x => bound ≤ x
  | maxInclusive, bound, x => x ≤ bound
  | minExclusive, bound, x => bound < x
  | maxExclusive, bound, x => x < bound

def IsInclusive (kind : BoundKind) : Prop :=
  kind = minInclusive ∨ kind = maxInclusive

def bound? (f : Facets) : BoundKind → Option Binary64
  | minInclusive => f.minInclusive
  | maxInclusive => f.maxInclusive
  | minExclusive => f.minExclusive
  | maxExclusive => f.maxExclusive

/-- A double is on the wrong side of a bound. -/
def isBeyond (bound x : Binary64) : BoundKind → Bool
  | minInclusive => x.lt bound
  | maxInclusive => bound.lt x
  | minExclusive => x.le bound
  | maxExclusive => bound.le x

end BoundKind

/-- A restriction declares a bound; of several of one kind the last one counts. -/
def Declares (restriction : XmlElement) (kind : BoundKind) (value : String) : Prop :=
  ∃ before facet after, schemaChildren restriction.children = before ++ facet :: after ∧
    facet.tag.name.part = kind.name ∧ facet.attribute? "value" = some value ∧
    ∀ later ∈ after, later.tag.name.part ≠ kind.name

/-- The restrictions that a simple type consists of: its own one and those of the named type that it
restricts. -/
inductive HasStep (named : List (String × XmlElement)) : XmlElement → XmlElement → Prop
  | own {e r : XmlElement} (hr : restrictionOf e = .ok r) : HasStep named e r
  | base {e r source step : XmlElement} {base : String} (hr : restrictionOf e = .ok r)
      (hbase : r.attribute? "base" = some base) (hsource : named.lookup (localPart base) = some source)
      (hstep : HasStep named source step) : HasStep named e step

/-! ## Bounds that are read -/

theorem floatOf?_of_boundOf {b : BuiltIn} {kind value : String} {d : Binary64}
    (h : boundOf b kind value = .ok d) : floatOf? (Text.trim value).toList = some d := by
  unfold boundOf at h
  split at h
  · cases h
  split at h
  · rename_i hd
    cases h
    exact hd
  · cases h

section
variable {b : BuiltIn} {f g : Facets} {e : XmlElement} {kind : BoundKind}

theorem addFacet_bound (h : addFacet b f e = .ok g) (hname : e.tag.name.part = kind.name)
    {value : String} (hvalue : e.attribute? "value" = some value) :
    ∃ d, floatOf? (Text.trim value).toList = some d ∧ kind.bound? g = some d := by
  unfold addFacet at h
  obtain ⟨v, hv, h⟩ := ok_of_bind h
  obtain rfl : v = value := Option.some.inj ((attribute?_of_required hv).symm.trans hvalue)
  cases kind <;>
  · rw [hname] at h
    obtain ⟨d, hd, h⟩ := ok_of_bind h
    cases h
    exact ⟨d, floatOf?_of_boundOf hd, rfl⟩

theorem addFacet_bound_of_ne (h : addFacet b f e = .ok g) (hname : e.tag.name.part ≠ kind.name) :
    kind.bound? g = kind.bound? f := by
  unfold addFacet at h
  obtain ⟨value, -, h⟩ := ok_of_bind h
  split at h
  case h_1 =>
    cases h
    cases kind <;> rfl
  case h_2 =>
    split at h
    · cases h
      cases kind <;> rfl
    · cases h
  case h_10 => cases h
  all_goals
    rename_i hfacet
    obtain ⟨d, -, h⟩ := ok_of_bind h
    cases h
    cases kind <;> first | rfl | exact absurd hfacet hname

theorem addFacets_bound_of_ne {es : List XmlElement} (h : addFacets b f es = .ok g)
    (hes : ∀ e ∈ es, e.tag.name.part ≠ kind.name) : kind.bound? g = kind.bound? f := by
  induction es generalizing f with
  | nil =>
    cases h
    rfl
  | cons e es ih =>
    obtain ⟨f', hf', h⟩ := ok_of_bind h
    obtain ⟨he, hes⟩ := List.forall_mem_cons.mp hes
    rw [ih h hes, addFacet_bound_of_ne hf' he]

theorem addFacets_bound {before after : List XmlElement} {value : String}
    (h : addFacets b f (before ++ e :: after) = .ok g) (hname : e.tag.name.part = kind.name)
    (hvalue : e.attribute? "value" = some value)
    (hlast : ∀ later ∈ after, later.tag.name.part ≠ kind.name) :
    ∃ d, floatOf? (Text.trim value).toList = some d ∧ kind.bound? g = some d := by
  induction before generalizing f with
  | nil =>
    obtain ⟨f', hf', h⟩ := ok_of_bind h
    rw [addFacets_bound_of_ne h hlast]
    exact addFacet_bound hf' hname hvalue
  | cons first before ih =>
    obtain ⟨f', -, h⟩ := ok_of_bind h
    exact ih h

end

theorem HasStep.exists_facets {named : List (String × XmlElement)} {e r : XmlElement}
    (hstep : HasStep named e r) {room : Nat} {t : SimpleType} (ht : simpleType named room e = .ok t) :
    ∃ f ∈ t.restrictions, addFacets t.base {} (schemaChildren r.children) = .ok f := by
  induction hstep generalizing room t with
  | own hr =>
    obtain ⟨less, r, base, u, -, hr', -, -, ht⟩ := simpleType_cases ht
    obtain rfl := Except.ok.inj (hr'.symm.trans hr)
    obtain ⟨f, hf, rfl⟩ := restricted_eq_ok_iff.mp ht
    exact ⟨f, by simp, hf⟩
  | base hr hbase hsource hstep ih =>
    obtain ⟨less, r', base', u, -, hr', hbase', hu, ht⟩ := simpleType_cases ht
    obtain rfl := Except.ok.inj (hr'.symm.trans hr)
    obtain rfl := Option.some.inj (hbase'.symm.trans hbase)
    simp only [typeWithin, hsource] at hu
    obtain ⟨f, hf, hfacets⟩ := ih hu
    obtain ⟨own, -, rfl⟩ := restricted_eq_ok_iff.mp ht
    exact ⟨f, List.mem_append_left _ hf, hfacets⟩

/-! ## Comparisons -/

theorem isBeyond_of_inRange {f : Facets} {x d : Binary64} {kind : BoundKind}
    (h : f.isOutOfRange x = false) (hd : kind.bound? f = some d) : kind.isBeyond d x = false := by
  have hany : (kind.bound? f).any (kind.isBeyond · x) = false := by
    simp only [Facets.isOutOfRange, Bool.or_eq_false_iff] at h
    cases kind with
    | minInclusive => exact h.1.1.1
    | maxInclusive => exact h.1.1.2
    | minExclusive => exact h.1.2
    | maxExclusive => exact h.2
  rwa [hd, Option.any_some] at hany

theorem isBounded_of_bound {f : Facets} {d : Binary64} {kind : BoundKind}
    (hd : kind.bound? f = some d) : f.isBounded = true := by
  have hsome : (kind.bound? f).isSome = true := by
    rw [hd]
    rfl
  unfold Facets.isBounded
  cases kind <;> simp_all [BoundKind.bound?]

theorem holds_or_nearest {kind : BoundKind} {d c : Binary64} {bound x : ExtendedRat}
    (hd : d.StandsAt (Binary64.place bound)) (hc : c.StandsAt (Binary64.place x))
    (h : kind.isBeyond d c = false) : kind.Holds bound x ∨
      kind.IsInclusive ∧ ∃ p, Binary64.IsNearest p bound ∧ Binary64.IsNearest p x := by
  cases kind with
  | minInclusive =>
    have hle := le_of_not_gt (mt (Binary64.lt_iff hc hd).mpr (Bool.eq_false_iff.mp h))
    exact (Binary64.le_or_nearest hle).imp id fun hnear => ⟨.inl rfl, hnear⟩
  | maxInclusive =>
    have hle := le_of_not_gt (mt (Binary64.lt_iff hd hc).mpr (Bool.eq_false_iff.mp h))
    exact (Binary64.le_or_nearest hle).imp id fun ⟨p, hx, hbound⟩ => ⟨.inr rfl, p, hbound, hx⟩
  | minExclusive =>
    have hlt := lt_of_not_ge (mt (Binary64.le_iff hc hd).mpr (Bool.eq_false_iff.mp h))
    exact .inl (Binary64.lt_of_place_lt hlt)
  | maxExclusive =>
    have hlt := lt_of_not_ge (mt (Binary64.le_iff hd hc).mpr (Bool.eq_false_iff.mp h))
    exact .inl (Binary64.lt_of_place_lt hlt)

/-! ## What is accepted -/

theorem normalized_of_isNumeric {b : BuiltIn} (h : b.isNumeric = true) (raw : String) :
    SimpleType.normalized b raw = Text.trim raw := by
  apply if_neg
  rintro rfl
  cases h

section
variable {named : List (String × XmlElement)} {room : Nat} {e : XmlElement} {t : SimpleType}
  {raw : String} (ht : simpleType named room e = .ok t) (hnumeric : t.base.isNumeric = true)
  (hraw : t.check raw = .ok ())
include ht hnumeric hraw

/-- A text that is accepted where a bound is declared becomes a double that is not beyond the one that
the bound becomes. -/
theorem exists_of_declares {r : XmlElement} {kind : BoundKind} {value : String}
    (hstep : HasStep named e r) (hvalue : Declares r kind value) :
    ∃ d c, floatOf? (Text.trim value).toList = some d ∧ floatOf? (Text.trim raw).toList = some c ∧
      kind.isBeyond d c = false := by
  obtain ⟨f, hf, hfacets⟩ := hstep.exists_facets ht
  obtain ⟨before, facet, after, hchildren, hname, hattribute, hlast⟩ := hvalue
  rw [hchildren] at hfacets
  obtain ⟨d, hd, hbound⟩ := addFacets_bound hfacets hname hattribute hlast
  have hadmits := (SimpleType.check_eq_ok_iff.mp hraw).2 f hf
  rw [normalized_of_isNumeric hnumeric] at hadmits
  obtain ⟨c, hc, hrange⟩ := hadmits.range (isBounded_of_bound hbound)
  exact ⟨d, c, hd, hc, isBeyond_of_inRange hrange hbound⟩

/-- A text that a type of numbers accepts denotes a number that satisfies all bounds which its
restrictions declare, but where a bound takes its own number in, it may also take one in that has the
same nearest double. -/
theorem check_within_bounds (hnan : (Text.trim raw).toList ≠ "NaN".toList) :
    (¬ HasPlusBeforeSign (Text.trim raw).toList → ∃ x, Denotes (Text.trim raw).toList x) ∧
    ∀ r kind value, HasStep named e r → Declares r kind value →
      (Text.trim value).toList ≠ "NaN".toList →
      (∃ x, Denotes (Text.trim raw).toList x) ∧ (∃ bound, Denotes (Text.trim value).toList bound) ∧
      ∀ x bound, Denotes (Text.trim raw).toList x → Denotes (Text.trim value).toList bound →
        kind.Holds bound x ∨
          kind.IsInclusive ∧ ∃ d, Binary64.IsNearest d bound ∧ Binary64.IsNearest d x := by
  constructor
  · intro hsigns
    have hform := (SimpleType.check_eq_ok_iff.mp hraw).1
    rw [normalized_of_isNumeric hnumeric] at hform
    exact exists_denotes_of_check hnumeric hform hnan hsigns
  · intro r kind value hstep hvalue hnanBound
    obtain ⟨d, c, hd, hc, hbeyond⟩ := exists_of_declares ht hnumeric hraw hstep hvalue
    refine ⟨exists_denotes hc hnan, exists_denotes hd hnanBound, ?_⟩
    intro x bound hx hbound
    obtain ⟨c', hc', hxstands⟩ := floatOf?_of_denotes hx
    obtain ⟨d', hd', hboundstands⟩ := floatOf?_of_denotes hbound
    obtain rfl := Option.some.inj (hc'.symm.trans hc)
    obtain rfl := Option.some.inj (hd'.symm.trans hd)
    exact holds_or_nearest hboundstands hxstands hbeyond

end

def schemaTag (name : String) (attributes : List (String × String)) : XmlTag :=
  ⟨⟨some schemaNamespace, name⟩, none, [], attributes.map fun a => ⟨⟨none, a.1⟩, none, a.2⟩⟩

def restricting (base : String) (facets : List (String × String)) : XmlElement :=
  ⟨schemaTag "simpleType" [], [.element (schemaTag "restriction" [("base", base)])
    (facets.map fun f => .element (schemaTag f.1 [("value", f.2)]) [])]⟩

theorem exists_accepting (named : List (String × XmlElement)) (e : XmlElement) (raw : String)
    (h : (match simpleType named 32 e with
      | .ok t => t.base.isNumeric && (t.check raw).isOk
      | .error _ => false) = true) :
    ∃ t, simpleType named 32 e = .ok t ∧ t.base.isNumeric = true ∧ t.check raw = .ok () := by
  split at h
  · rename_i t ht
    rw [Bool.and_eq_true] at h
    refine ⟨t, ht, h.1, ?_⟩
    cases hcheck : t.check raw with
    | ok u => rfl
    | error message =>
      rw [hcheck] at h
      cases h.2
  · cases h

theorem check_within_bounds_of_two_steps :
    let named := [("positive", restricting "xs:long" [("minExclusive", "0")])]
    ∃ t, simpleType named 32 (restricting "positive" [("maxInclusive", "100")]) = .ok t ∧
      t.check " 42 " = .ok () ∧ (∃ x, Denotes (Text.trim " 42 ").toList x) ∧
      ∀ x, Denotes (Text.trim " 42 ").toList x → .ofRat 0 < x := by
  intro named
  obtain ⟨t, ht, hnumeric, hraw⟩ := exists_accepting named
    (restricting "positive" [("maxInclusive", "100")]) " 42 " (by decide +kernel)
  have hnan : (Text.trim " 42 ").toList ≠ "NaN".toList := by decide +kernel
  have hzero : (Text.trim "0").toList = ['0'] := by decide +kernel
  have hstep : HasStep named (restricting "positive" [("maxInclusive", "100")]) _ :=
    .base rfl rfl rfl (.own rfl)
  have hbounds := (check_within_bounds ht hnumeric hraw hnan).2 _ .minExclusive "0" hstep
    ⟨[], _, [], rfl, rfl, rfl, by simp⟩ (by rw [hzero]; decide)
  refine ⟨t, ht, hraw, hbounds.1, ?_⟩
  intro x hx
  have hdigits : AreDigits ['0'] := by decide
  obtain hlt | ⟨hinclusive, -⟩ := hbounds.2.2 x _ hx (hzero ▸ (Spells.unsigned hdigits).denotes)
  · exact hlt
  · obtain hkind | hkind := hinclusive <;> cases hkind

/-- Above 2 ^ 53 a bound takes in the number after its own one. -/
theorem not_check_within_bounds : ¬ ∀ named room e t raw, simpleType named room e = .ok t →
    t.base.isNumeric = true → t.check raw = .ok () →
    ∀ r kind value, HasStep named e r → Declares r kind value →
    ∀ x bound, Denotes (Text.trim raw).toList x → Denotes (Text.trim value).toList bound →
      kind.Holds bound x := by
  intro h
  let e := restricting "xs:long" [("maxInclusive", "9007199254740992")]
  obtain ⟨t, ht, hnumeric, hraw⟩ := exists_accepting [] e "9007199254740993" (by decide +kernel)
  have htext : (Text.trim "9007199254740993").toList = "9007199254740993".toList := by decide +kernel
  have hvalue : (Text.trim "9007199254740992").toList = "9007199254740992".toList := by decide +kernel
  have htextDigits : AreDigits "9007199254740993".toList := by decide
  have hvalueDigits : AreDigits "9007199254740992".toList := by decide
  have hle := h [] 32 e t _ ht hnumeric hraw _ .maxInclusive "9007199254740992" (.own rfl)
    ⟨[], _, [], rfl, rfl, rfl, by simp⟩ _ _ (htext ▸ (Spells.unsigned htextDigits).denotes)
    (hvalue ▸ (Spells.unsigned hvalueDigits).denotes)
  rw [BoundKind.Holds, ExtendedRat.ofRat_le_ofRat, Int.cast_le] at hle
  exact absurd hle (by decide)

end Xsd
end RequestMatching
