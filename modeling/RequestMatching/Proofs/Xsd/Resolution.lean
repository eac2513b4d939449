import RequestMatching.Proofs.Xsd.Reading

/-!
# Names in schemas are declared

Types are looked up by their names while elements are read, when all named types are known; references
are looked up by a walk over what was read, which leaves named types shut. Together they leave no name
in a schema that is read, at whatever depth, without a declaration.
-/

namespace RequestMatching

namespace Xsd

mutual

/-- Named types and references in a type of elements are as said; named types are left shut. -/
def ElementType.UsesOnly (types elements : String → Prop) : ElementType → Prop
  | .any | .simple _ => True
  | .complex type => type.UsesOnly types elements
  | .named name => types name

def Particle.UsesOnly (types elements : String → Prop) : Particle → Prop
  | .element _ type _ => type.UsesOnly types elements
  | .reference name _ => elements name
  | .sequence items _ | .choice items _ | .all items _ => Particle.ItemsUseOnly types elements items

def Particle.ItemsUseOnly (types elements : String → Prop) : List Particle → Prop
  | [] => True
  | p :: rest => p.UsesOnly types elements ∧ Particle.ItemsUseOnly types elements rest

def ComplexType.UsesOnly (types elements : String → Prop) : ComplexType → Prop
  | .mk (some p) _ _ => p.UsesOnly types elements
  | .mk none _ _ => True

end

def Schema.HasType (s : Schema) (name : String) : Prop :=
  name ∈ s.complexTypes.map (·.1)

def Schema.HasElement (s : Schema) (name : String) : Prop :=
  name ∈ s.elements.map (·.1)

/-- All names that a schema uses are declared in it. -/
structure Schema.IsResolved (s : Schema) : Prop where
  elements : ∀ d ∈ s.elements, d.2.UsesOnly s.HasType s.HasElement
  complexTypes : ∀ d ∈ s.complexTypes, d.2.UsesOnly s.HasType s.HasElement

section
variable {types elements : String → Prop}

theorem Particle.itemsUseOnly_of_forall : ∀ {items : List Particle},
    (∀ p ∈ items, p.UsesOnly types elements) → ItemsUseOnly types elements items
  | [], _ => trivial
  | _ :: _, h => ⟨h _ (.head _), itemsUseOnly_of_forall fun p hp => h p (.tail _ hp)⟩

theorem ComplexType.usesOnly_of_content {type : ComplexType}
    (h : ∀ p ∈ type.content, p.UsesOnly types elements) : type.UsesOnly types elements := by
  obtain ⟨content, attributes, mixed⟩ := type
  cases content with
  | none => trivial
  | some p => exact h p rfl

end

theorem isSome_lookup_iff {α : Type} {name : String} {found : List (String × α)} :
    (found.lookup name).isSome = true ↔ name ∈ found.map (·.1) := by
  simp [List.lookup_isSome_iff]

/-! ## Types are found when they are read -/

def Sources.HasType (s : Sources) (name : String) : Prop :=
  name ∈ s.complexTypes.map (·.1)

section
variable {s : Sources}

theorem closedUnderReading_usesOnly :
    ClosedUnderReading s (·.UsesOnly s.HasType fun _ => True) (·.UsesOnly s.HasType fun _ => True) where
  reference _ := trivial
  element _ htype := htype
  group _ hgroup hitems := by
    obtain rfl | rfl | ⟨rfl, -⟩ := groupOf_cases hgroup <;>
      exact Particle.itemsUseOnly_of_forall hitems
  any := trivial
  simple := trivial
  named hname := isSome_lookup_iff.mp hname
  complex hcontent := ComplexType.usesOnly_of_content hcontent

theorem complexTypesOf_usesOnly : ∀ {found : List (String × XmlElement)}
    {types : List (String × ComplexType)}, complexTypesOf s found = .ok types →
    types.map (·.1) = found.map (·.1) ∧ ∀ d ∈ types, d.2.UsesOnly s.HasType fun _ => True
  | [], _, h => by cases h; exact ⟨rfl, nofun⟩
  | (name, e) :: rest, _, h => by
    unfold complexTypesOf at h
    obtain ⟨type, htype, h⟩ := ok_of_bind h
    obtain ⟨more, hmore, h⟩ := ok_of_bind h
    cases h
    obtain ⟨hnames, hrest⟩ := complexTypesOf_usesOnly hmore
    have hfirst := ComplexType.usesOnly_of_content (closedUnderReading_usesOnly.complexTypeOf htype)
    exact ⟨congrArg (name :: ·) hnames, List.forall_mem_cons.mpr ⟨hfirst, hrest⟩⟩

theorem forall_mem_setNamed {α : Type} {said : α → Prop} {name : String} {a : α} (ha : said a) :
    ∀ {found : List (String × α)}, (∀ d ∈ found, said d.2) → ∀ d ∈ setNamed name a found, said d.2
  | [], _ => List.forall_mem_singleton.mpr ha
  | (n, b) :: rest, h => by
    obtain ⟨hb, hrest⟩ := List.forall_mem_cons.mp h
    unfold setNamed
    split
    · exact List.forall_mem_cons.mpr ⟨ha, hrest⟩
    · exact List.forall_mem_cons.mpr ⟨hb, forall_mem_setNamed ha hrest⟩

theorem elementsOf_usesOnly : ∀ {sources : List XmlElement} {found all : List (String × ElementType)},
    elementsOf s found sources = .ok all → (∀ d ∈ found, d.2.UsesOnly s.HasType fun _ => True) →
    ∀ d ∈ all, d.2.UsesOnly s.HasType fun _ => True
  | [], _, _, h, hfound => by cases h; exact hfound
  | e :: rest, _, _, h, hfound => by
    unfold elementsOf at h
    obtain ⟨decl, hdecl, h⟩ := ok_of_bind h
    exact elementsOf_usesOnly h (forall_mem_setNamed (closedUnderReading_usesOnly.elementOf hdecl) hfound)

end

/-! ## References are found by the walk -/

section
variable {names : List String} {types : String → Prop}

mutual

theorem Particle.usesOnly_of_undeclared : ∀ {p : Particle}, undeclared names p = none →
    p.UsesOnly types (fun _ => True) → p.UsesOnly types (· ∈ names)
  | .element _ _ _, h, hp => ElementType.usesOnly_of_undeclared h hp
  | .reference name _, h, _ => by
    unfold undeclared at h
    split at h
    · rename_i hname
      exact List.contains_iff_mem.mp hname
    · cases h
  | .sequence _ _, h, hp | .choice _ _, h, hp | .all _ _, h, hp =>
    Particle.itemsUseOnly_of_undeclared h hp

theorem Particle.itemsUseOnly_of_undeclared : ∀ {items : List Particle},
    undeclaredInItems names items = none → Particle.ItemsUseOnly types (fun _ => True) items →
    Particle.ItemsUseOnly types (· ∈ names) items
  | [], _, _ => trivial
  | p :: rest, h, hitems => by
    obtain ⟨hp, hrest⟩ := Option.or_eq_none_iff.mp h
    exact ⟨Particle.usesOnly_of_undeclared hp hitems.1,
      Particle.itemsUseOnly_of_undeclared hrest hitems.2⟩

theorem ElementType.usesOnly_of_undeclared : ∀ {type : ElementType},
    undeclaredInType names type = none → type.UsesOnly types (fun _ => True) →
    type.UsesOnly types (· ∈ names)
  | .any, _, _ | .simple _, _, _ => trivial
  | .complex _, h, htype => ComplexType.usesOnly_of_undeclared h htype
  | .named _, _, hname => hname

theorem ComplexType.usesOnly_of_undeclared : ∀ {type : ComplexType},
    undeclaredInComplex names type = none → type.UsesOnly types (fun _ => True) →
    type.UsesOnly types (· ∈ names)
  | .mk (some _) _ _, h, hp => Particle.usesOnly_of_undeclared h hp
  | .mk none _ _, _, _ => trivial

end

end

theorem Schema.isResolved_of_undeclared {s : Schema} (h : s.undeclared = none)
    (helements : ∀ d ∈ s.elements, d.2.UsesOnly s.HasType fun _ => True)
    (hcomplex : ∀ d ∈ s.complexTypes, d.2.UsesOnly s.HasType fun _ => True) : s.IsResolved := by
  obtain ⟨hinElements, hinTypes⟩ := Option.or_eq_none_iff.mp h
  rw [List.findSome?_eq_none_iff] at hinElements hinTypes
  constructor
  · exact fun d hd => ElementType.usesOnly_of_undeclared (hinElements d hd) (helements d hd)
  · exact fun d hd => ComplexType.usesOnly_of_undeclared (hinTypes d hd) (hcomplex d hd)

theorem Schema.ofElement_isResolved {root : XmlElement} {s : Schema}
    (h : Schema.ofElement root = .ok s) : s.IsResolved := by
  unfold Schema.ofElement at h
  split at h
  · cases h
  obtain ⟨⟨sources, declarations⟩, -, h⟩ := ok_of_bind h
  obtain ⟨complexTypes, hcomplex, h⟩ := ok_of_bind h
  obtain ⟨elements, helements, h⟩ := ok_of_bind h
  dsimp only at h
  split at h
  · cases h
  rename_i hnone
  cases h
  obtain ⟨hnames, hcomplex⟩ := complexTypesOf_usesOnly hcomplex
  have helements := elementsOf_usesOnly helements nofun
  have htypes : sources.HasType =
      Schema.HasType ⟨root.attribute? "targetNamespace", elements, complexTypes⟩ := by
    funext name
    unfold Sources.HasType Schema.HasType
    rw [hnames]
  rw [htypes] at helements hcomplex
  exact Schema.isResolved_of_undeclared hnone helements hcomplex

theorem Schema.parse_isResolved {text : String} {s : Schema} (h : Schema.parse text = .ok s) :
    s.IsResolved := by
  unfold Schema.parse at h
  split at h
  · cases h
  · exact Schema.ofElement_isResolved h

end Xsd
end RequestMatching
