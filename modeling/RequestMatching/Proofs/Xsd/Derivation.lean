import Mathlib.Data.List.Forall2
import RequestMatching.Proofs.Outcome
import RequestMatching.Proofs.Xsd.SimpleTypes
import RequestMatching.Xsd.Compiler

/-!
# Chains of simple types

A name of a simple type leads to the name of the type that it restricts, and so on until a name is not
among the types of the schema. This chain, which may go round for ever, tells what becomes of a
reference: it is read if the chain ends at a built-in type within the limit and all restrictions on the
way can be read, and what is read accepts what the built-in type and all of these restrictions accept.
-/

namespace RequestMatching

namespace Xsd

/-- Under the name stands a simple type that consists of the restriction of a base. -/
def Restricts (named : List (String × XmlElement)) (name : String) (restriction : XmlElement)
    (base : String) : Prop :=
  ∃ e, named.lookup (localPart name) = some e ∧ restrictionOf e = .ok restriction ∧
    restriction.attribute? "base" = some base

/-- The restrictions on the way from one name to another one, the nearest first. -/
def LeadsTo (named : List (String × XmlElement)) : String → List XmlElement → String → Prop
  | name, [], last => name = last
  | name, r :: rest, last => ∃ base, Restricts named name r base ∧ LeadsTo named base rest last

/-- The chain of a name ends at a built-in type. -/
def DerivesFrom (named : List (String × XmlElement)) (name : String) (chain : List XmlElement)
    (base : BuiltIn) : Prop :=
  ∃ last, LeadsTo named name chain last ∧ named.lookup (localPart last) = none ∧
    BuiltIn.ofName? (localPart last) = some base

/-- The chain of a name comes back to a type. -/
def MeetsCycle (named : List (String × XmlElement)) (name : String) : Prop :=
  ∃ way type cycle again, LeadsTo named name way type ∧ LeadsTo named type cycle again ∧
    cycle ≠ [] ∧ localPart again = localPart type

/-- The chain of a name ends at a name of no type. -/
def MeetsUnknown (named : List (String × XmlElement)) (name : String) : Prop :=
  ∃ way last, LeadsTo named name way last ∧ named.lookup (localPart last) = none ∧
    BuiltIn.ofName? (localPart last) = none

/-- The chain of a name goes through more than `limit` types of the schema: those that it leads away
from, and one more. -/
def IsLongerThan (limit : Nat) (named : List (String × XmlElement)) (name : String) : Prop :=
  ∃ way type, LeadsTo named name way type ∧ limit ≤ way.length ∧
    (named.lookup (localPart type)).isSome = true

variable {named : List (String × XmlElement)}

/-! ## Chains -/

theorem Restricts.isSome {name base : String} {r : XmlElement} (h : Restricts named name r base) :
    (named.lookup (localPart name)).isSome = true := by
  obtain ⟨e, he, -, -⟩ := h
  simp [he]

theorem LeadsTo.congr {name name' last : String} {way : List XmlElement}
    (h : LeadsTo named name way last) (hway : way ≠ [])
    (hname : localPart name' = localPart name) : LeadsTo named name' way last := by
  cases way with
  | nil => exact absurd rfl hway
  | cons r rest =>
    obtain ⟨base, hr, hrest⟩ := h
    refine ⟨base, ?_, hrest⟩
    rw [Restricts, hname]
    exact hr

theorem LeadsTo.append {name middle last : String} {way more : List XmlElement}
    (h : LeadsTo named name way middle) (hmore : LeadsTo named middle more last) :
    LeadsTo named name (way ++ more) last := by
  induction way generalizing name with
  | nil => cases h; exact hmore
  | cons r rest ih =>
    obtain ⟨base, hr, hrest⟩ := h
    exact ⟨base, hr, ih hrest⟩

theorem LeadsTo.take {name last : String} {way : List XmlElement} (h : LeadsTo named name way last)
    {n : Nat} (hn : n < way.length) : ∃ type, LeadsTo named name (way.take n) type ∧
      (named.lookup (localPart type)).isSome = true := by
  induction way generalizing name n with
  | nil => exact absurd hn (Nat.not_lt_zero n)
  | cons r rest ih =>
    obtain ⟨base, hr, hrest⟩ := h
    cases n with
    | zero => exact ⟨name, rfl, hr.isSome⟩
    | succ n =>
      obtain ⟨type, htype, hnamed⟩ := ih hrest (Nat.lt_of_succ_lt_succ hn)
      exact ⟨type, ⟨base, hr, htype⟩, hnamed⟩

theorem isLongerThan_of_length_lt {name last : String} {way : List XmlElement} {limit : Nat}
    (h : LeadsTo named name way last) (hway : limit < way.length) : IsLongerThan limit named name := by
  obtain ⟨type, htype, hnamed⟩ := h.take hway
  exact ⟨way.take limit, type, htype, by simp; omega, hnamed⟩

theorem LeadsTo.rounds {type again : String} {cycle : List XmlElement}
    (h : LeadsTo named type cycle again) (hcycle : cycle ≠ [])
    (hagain : localPart again = localPart type) :
    ∀ n, LeadsTo named type (List.replicate (n + 1) cycle).flatten again
  | 0 => by simpa using h
  | n + 1 => by
    rw [List.replicate_succ, List.flatten_cons]
    refine h.append ((h.rounds hcycle hagain n).congr ?_ hagain)
    simp [List.replicate_succ, hcycle]

theorem MeetsCycle.isLongerThan {name : String} (h : MeetsCycle named name) (limit : Nat) :
    IsLongerThan limit named name := by
  obtain ⟨way, type, cycle, again, hway, hround, hcycle, hagain⟩ := h
  refine isLongerThan_of_length_lt (hway.append (hround.rounds hcycle hagain limit)) ?_
  have hpos : 0 < cycle.length := List.length_pos_iff.mpr hcycle
  have hrounds : limit + 1 ≤ (limit + 1) * cycle.length := Nat.le_mul_of_pos_right _ hpos
  simp only [List.length_append, List.length_flatten, List.map_replicate, List.sum_replicate_nat]
  omega

theorem DerivesFrom.of_restricts {name base : String} {r : XmlElement} {chain : List XmlElement}
    {b : BuiltIn} (hr : Restricts named name r base) (h : DerivesFrom named base chain b) :
    DerivesFrom named name (r :: chain) b := by
  obtain ⟨last, hlast, hend⟩ := h
  exact ⟨last, ⟨base, hr, hlast⟩, hend⟩

/-! ## What a reference is read as -/

/-- What a name is read as where the chain may go through `room` more types of the schema. -/
def typeWithin (named : List (String × XmlElement)) (room : Nat) (name : String) :
    Except SchemaFault SimpleType :=
  match named.lookup (localPart name) with
  | some e => simpleType named room e
  | none =>
    match BuiltIn.ofName? (localPart name) with
    | some b => .ok { base := b }
    | none => .error (.unknownType name)

theorem simpleTypeNamed_eq (name : String) :
    simpleTypeNamed named name = typeWithin named derivationLimit name :=
  rfl

def restricted (r : XmlElement) (type : SimpleType) : Except SchemaFault SimpleType :=
  (addFacets type.base {} (schemaChildren r.children)).map fun f =>
    { type with restrictions := type.restrictions ++ [f] }

theorem simpleType_succ {room : Nat} {e r : XmlElement} {base : String}
    (hr : restrictionOf e = .ok r) (hbase : r.attribute? "base" = some base) :
    simpleType named (room + 1) e = typeWithin named room base >>= restricted r := by
  simp only [simpleType, hr, required, hbase, bind, Except.bind, typeWithin]
  cases named.lookup (localPart base) with
  | some e =>
    cases simpleType named room e with
    | error f => rfl
    | ok type =>
      simp only [restricted]
      cases addFacets type.base {} (schemaChildren r.children) <;> rfl
  | none =>
    cases BuiltIn.ofName? (localPart base) with
    | none => rfl
    | some b =>
      simp only [pure, Except.pure, restricted]
      cases addFacets b {} (schemaChildren r.children) <;> rfl

theorem typeWithin_succ {room : Nat} {name base : String} {r : XmlElement}
    (h : Restricts named name r base) :
    typeWithin named (room + 1) name = typeWithin named room base >>= restricted r := by
  obtain ⟨e, he, hr, hbase⟩ := h
  rw [typeWithin, he]
  exact simpleType_succ hr hbase

theorem typeWithin_zero {name : String} (h : (named.lookup (localPart name)).isSome = true) :
    typeWithin named 0 name = .error .derivationTooDeep := by
  obtain ⟨e, he⟩ := Option.isSome_iff_exists.mp h
  rw [typeWithin, he]
  rfl

theorem typeWithin_of_leadsTo {room : Nat} {name last : String} {way : List XmlElement}
    {fault : SchemaFault} (h : LeadsTo named name way last)
    (hfault : typeWithin named room last = .error fault) :
    typeWithin named (room + way.length) name = .error fault := by
  induction way generalizing name with
  | nil => cases h; exact hfault
  | cons r rest ih =>
    obtain ⟨base, hr, hrest⟩ := h
    rw [List.length_cons, ← Nat.add_assoc, typeWithin_succ hr, ih hrest]
    rfl

theorem typeWithin_of_isLongerThan {room : Nat} {name : String} (h : IsLongerThan room named name) :
    typeWithin named room name = .error .derivationTooDeep := by
  obtain ⟨way, type, hway, hlength, hnamed⟩ := h
  -- only the first types of a longer chain are looked at
  obtain ⟨first, type, hfirst, rfl, hnamed⟩ : ∃ first type, LeadsTo named name first type ∧
      first.length = room ∧ (named.lookup (localPart type)).isSome = true := by
    rcases Nat.eq_or_lt_of_le hlength with rfl | hlt
    · exact ⟨way, type, hway, rfl, hnamed⟩
    · obtain ⟨type, htype, hnamed⟩ := hway.take hlt
      exact ⟨way.take room, type, htype, by simp; omega, hnamed⟩
  simpa using typeWithin_of_leadsTo hfirst (typeWithin_zero hnamed)

theorem typeWithin_of_meetsUnknown {room : Nat} {name : String} (h : MeetsUnknown named name) :
    ∃ fault, typeWithin named room name = .error fault := by
  obtain ⟨way, last, hway, hnone, hunknown⟩ := h
  rcases Nat.lt_or_ge room way.length with hlt | hle
  · exact ⟨_, typeWithin_of_isLongerThan (isLongerThan_of_length_lt hway hlt)⟩
  · obtain ⟨more, rfl⟩ := Nat.exists_eq_add_of_le' hle
    refine ⟨.unknownType last, typeWithin_of_leadsTo hway ?_⟩
    simp only [typeWithin, hnone, hunknown]

/-- The type consists of a built-in type and of the restrictions of a chain, which are in the type with
the nearest last. -/
structure IsReadAs (chain : List XmlElement) (b : BuiltIn) (t : SimpleType) : Prop where
  base : t.base = b
  restrictions : List.Forall₂ (fun r f => addFacets b {} (schemaChildren r.children) = .ok f) chain
    t.restrictions.reverse

theorem restricted_eq_ok_iff {r : XmlElement} {type t : SimpleType} : restricted r type = .ok t ↔
    ∃ f, addFacets type.base {} (schemaChildren r.children) = .ok f ∧
      t = { type with restrictions := type.restrictions ++ [f] } := by
  unfold restricted
  cases addFacets type.base {} (schemaChildren r.children) with
  | error fault => simp [Except.map]
  | ok f => simp [Except.map, eq_comm]

theorem isReadAs_nil_iff {b : BuiltIn} {t : SimpleType} : IsReadAs [] b t ↔ t = ⟨b, []⟩ := by
  constructor
  · rintro ⟨rfl, hall⟩
    have hnil : t.restrictions = [] := by simpa using hall
    rw [← hnil]
  · rintro rfl
    exact ⟨rfl, .nil⟩

theorem isReadAs_cons_iff {r : XmlElement} {chain : List XmlElement} {b : BuiltIn} {t : SimpleType} :
    IsReadAs (r :: chain) b t ↔ ∃ u, IsReadAs chain b u ∧ restricted r u = .ok t := by
  constructor
  · rintro ⟨rfl, hall⟩
    obtain ⟨f, fs, hf, hfs, hreverse⟩ := List.forall₂_cons_left_iff.mp hall
    have ht : t.restrictions = fs.reverse ++ [f] := by
      rw [← List.reverse_cons, ← hreverse, List.reverse_reverse]
    refine ⟨⟨t.base, fs.reverse⟩, ⟨rfl, by simpa using hfs⟩, restricted_eq_ok_iff.mpr ⟨f, hf, ?_⟩⟩
    rw [← ht]
  · rintro ⟨u, ⟨rfl, hall⟩, ht⟩
    obtain ⟨f, hf, rfl⟩ := restricted_eq_ok_iff.mp ht
    exact ⟨rfl, by simpa using And.intro hf hall⟩

theorem attribute?_of_required {e : XmlElement} {name value : String}
    (h : required e name = .ok value) : e.attribute? name = some value := by
  unfold required at h
  split at h <;> cases h
  assumption

theorem simpleType_cases {room : Nat} {e : XmlElement} {t : SimpleType}
    (h : simpleType named room e = .ok t) : ∃ less r base u, room = less + 1 ∧ restrictionOf e = .ok r ∧
      r.attribute? "base" = some base ∧ typeWithin named less base = .ok u ∧ restricted r u = .ok t := by
  cases room with
  | zero => cases h
  | succ less =>
    have htype := h
    rw [simpleType] at h
    obtain ⟨r, hr, h⟩ := ok_of_bind h
    obtain ⟨base, hbase, -⟩ := ok_of_bind h
    have hbase := attribute?_of_required hbase
    rw [simpleType_succ hr hbase] at htype
    obtain ⟨u, hu, ht⟩ := ok_of_bind htype
    exact ⟨less, r, base, u, rfl, hr, hbase, hu, ht⟩

theorem typeWithin_cases {room : Nat} {name : String} {t : SimpleType}
    (h : typeWithin named room name = .ok t) :
    (named.lookup (localPart name) = none ∧
        ∃ b, BuiltIn.ofName? (localPart name) = some b ∧ t = ⟨b, []⟩) ∨
      ∃ less r base u, room = less + 1 ∧ Restricts named name r base ∧
        typeWithin named less base = .ok u ∧ restricted r u = .ok t := by
  unfold typeWithin at h
  cases he : named.lookup (localPart name) with
  | none =>
    simp only [he] at h
    split at h <;> cases h
    exact .inl ⟨rfl, _, ‹_›, rfl⟩
  | some e =>
    simp only [he] at h
    obtain ⟨less, r, base, u, hroom, hr, hbase, hu, ht⟩ := simpleType_cases h
    exact .inr ⟨less, r, base, u, hroom, ⟨e, he, hr, hbase⟩, hu, ht⟩

/-- A reference is read if and only if its chain ends at a built-in type within the limit and all of its
restrictions can be read. -/
theorem typeWithin_eq_ok_iff {room : Nat} {name : String} {t : SimpleType} :
    typeWithin named room name = .ok t ↔
      ∃ chain b, DerivesFrom named name chain b ∧ chain.length ≤ room ∧ IsReadAs chain b t := by
  constructor
  · intro h
    induction room generalizing name t with
    | zero =>
      obtain ⟨hnone, b, hb, rfl⟩ | ⟨less, -, -, -, hless, -⟩ := typeWithin_cases h
      · exact ⟨[], b, ⟨name, rfl, hnone, hb⟩, Nat.le_refl _, isReadAs_nil_iff.mpr rfl⟩
      · cases hless
    | succ room ih =>
      obtain ⟨hnone, b, hb, rfl⟩ | ⟨less, r, base, u, hless, hr, hu, ht⟩ := typeWithin_cases h
      · exact ⟨[], b, ⟨name, rfl, hnone, hb⟩, Nat.zero_le _, isReadAs_nil_iff.mpr rfl⟩
      · cases hless
        obtain ⟨chain, b, hchain, hlength, hread⟩ := ih hu
        exact ⟨r :: chain, b, hchain.of_restricts hr, Nat.succ_le_succ hlength,
          isReadAs_cons_iff.mpr ⟨u, hread, ht⟩⟩
  · rintro ⟨chain, b, ⟨last, hlast, hnone, hb⟩, hlength, hread⟩
    induction chain generalizing name room t with
    | nil =>
      cases hlast
      rw [isReadAs_nil_iff.mp hread]
      simp only [typeWithin, hnone, hb]
    | cons r rest ih =>
      obtain ⟨base, hr, hrest⟩ := hlast
      obtain ⟨u, hu, ht⟩ := isReadAs_cons_iff.mp hread
      cases room with
      | zero => exact absurd hlength (Nat.not_succ_le_zero _)
      | succ less =>
        rw [typeWithin_succ hr, ih hrest (Nat.le_of_succ_le_succ hlength) hu]
        exact ht

theorem exists_isReadAs {b : BuiltIn} : ∀ {chain : List XmlElement},
    (∀ r ∈ chain, ∃ f, addFacets b {} (schemaChildren r.children) = .ok f) → ∃ t, IsReadAs chain b t
  | [], _ => ⟨⟨b, []⟩, isReadAs_nil_iff.mpr rfl⟩
  | r :: chain, h => by
    obtain ⟨⟨f, hf⟩, hchain⟩ := List.forall_mem_cons.mp h
    obtain ⟨u, hu⟩ := exists_isReadAs hchain
    obtain rfl := hu.base
    exact ⟨_, isReadAs_cons_iff.mpr ⟨u, hu, restricted_eq_ok_iff.mpr ⟨f, hf, rfl⟩⟩⟩

/-! ## What is accepted -/

/-- A restriction of a type that comes from `b` admits a text. -/
def RestrictionAdmits (b : BuiltIn) (r : XmlElement) (raw : String) : Prop :=
  ∃ f, addFacets b {} (schemaChildren r.children) = .ok f ∧ f.Admits (SimpleType.normalized b raw)

theorem forall_admits_iff {b : BuiltIn} {raw : String} {chain : List XmlElement} {fs : List Facets}
    (h : List.Forall₂ (fun r f => addFacets b {} (schemaChildren r.children) = .ok f) chain fs) :
    (∀ f ∈ fs, f.Admits (SimpleType.normalized b raw)) ↔ ∀ r ∈ chain, RestrictionAdmits b r raw := by
  induction h with
  | nil => simp
  | cons hf _ ih => simp [ih, RestrictionAdmits, hf]

theorem IsReadAs.check_eq_ok_iff {chain : List XmlElement} {b : BuiltIn} {t : SimpleType}
    (h : IsReadAs chain b t) (raw : String) : t.check raw = .ok () ↔
      (SimpleType.mk b []).check raw = .ok () ∧ ∀ r ∈ chain, RestrictionAdmits b r raw := by
  obtain ⟨rfl, hall⟩ := h
  rw [SimpleType.check_eq_ok_iff, SimpleType.check_builtIn_eq_ok_iff, ← forall_admits_iff hall]
  simp

theorem check_of_restricted {r : XmlElement} {u t : SimpleType} (h : restricted r u = .ok t)
    {raw : String} (hraw : t.check raw = .ok ()) : u.check raw = .ok () := by
  obtain ⟨f, -, rfl⟩ := restricted_eq_ok_iff.mp h
  rw [SimpleType.check_eq_ok_iff] at hraw ⊢
  exact ⟨hraw.1, fun g hg => hraw.2 g (List.mem_append_left _ hg)⟩

theorem exists_base_of_restricts {name base : String} {r : XmlElement} {t : SimpleType}
    (h : simpleTypeNamed named name = .ok t) (hr : Restricts named name r base) :
    ∃ u, simpleTypeNamed named base = .ok u ∧ ∀ raw, t.check raw = .ok () → u.check raw = .ok () := by
  rw [simpleTypeNamed_eq, derivationLimit, typeWithin_succ hr] at h
  obtain ⟨u, hu, ht⟩ := ok_of_bind h
  obtain ⟨chain, b, hchain, hlength, hread⟩ := typeWithin_eq_ok_iff.mp hu
  have hbase : typeWithin named derivationLimit base = .ok u :=
    typeWithin_eq_ok_iff.mpr ⟨chain, b, hchain, Nat.le_succ_of_le hlength, hread⟩
  exact ⟨u, hbase, fun raw => check_of_restricted ht⟩

/-- The reading of a reference follows its chain: it fails at a cycle, at a name of no type and where
more than 32 named types are in a row, and otherwise it comes to a type, if only the restrictions on the
way can be read. What is read accepts a text if the built-in type at the end of the chain does and each
of the restrictions; so the type that is restricted accepts it, too. -/
theorem simpleTypeNamed_follows_chain (named : List (String × XmlElement)) (name : String) :
    (MeetsCycle named name ∨ IsLongerThan 32 named name →
      simpleTypeNamed named name = .error .derivationTooDeep) ∧
    (MeetsUnknown named name → ∃ fault, simpleTypeNamed named name = .error fault) ∧
    (∀ chain b, DerivesFrom named name chain b → chain.length ≤ 32 →
      (∀ r ∈ chain, ∃ f, addFacets b {} (schemaChildren r.children) = .ok f) →
      ∃ t, simpleTypeNamed named name = .ok t) ∧
    ∀ t, simpleTypeNamed named name = .ok t →
      (∃ chain b, DerivesFrom named name chain b ∧ chain.length ≤ 32 ∧ ∀ raw,
        (t.check raw = .ok () ↔ (SimpleType.mk b []).check raw = .ok () ∧
          ∀ r ∈ chain, RestrictionAdmits b r raw)) ∧
      ∀ r base, Restricts named name r base → ∃ u, simpleTypeNamed named base = .ok u ∧
        ∀ raw, t.check raw = .ok () → u.check raw = .ok () := by
  refine ⟨fun h => ?_, typeWithin_of_meetsUnknown, fun chain b hchain hlength hfacets => ?_,
    fun t ht => ⟨?_, fun r base hr => exists_base_of_restricts ht hr⟩⟩
  · exact typeWithin_of_isLongerThan (h.elim (·.isLongerThan 32) id)
  · obtain ⟨t, ht⟩ := exists_isReadAs hfacets
    exact ⟨t, typeWithin_eq_ok_iff.mpr ⟨chain, b, hchain, hlength, ht⟩⟩
  · obtain ⟨chain, b, hchain, hlength, hread⟩ := typeWithin_eq_ok_iff.mp ht
    exact ⟨chain, b, hchain, hlength, hread.check_eq_ok_iff⟩

end Xsd
end RequestMatching
