import RequestMatching.Proofs.Outcome
import RequestMatching.Xsd.Compiler

/-!
# What the nodes of a schema spell

Each reader of schemas is opened here once: what it read is one of few things, and these are known by
what its parts read. So the induction over the nodes of a schema is done here as well: what passes from
parts to wholes holds of everything that is read.
-/

namespace RequestMatching

namespace Xsd

variable {s : Sources} {tag : XmlTag} {children : List XmlNode}

theorem groupOf_cases {kind : String} {items : List Particle} {o : Occurs} {p : Particle}
    (h : groupOf kind items o = .ok p) :
    p = .sequence items o ∨ p = .choice items o ∨
      (p = .all items o ∧ ∀ q ∈ items, isAllItem q = true) := by
  unfold groupOf at h
  split at h
  · cases h; exact .inl rfl
  split at h
  · cases h; exact .inr (.inl rfl)
  split at h
  · rename_i hitems
    cases h
    exact .inr (.inr ⟨rfl, List.all_eq_true.mp hitems⟩)
  · cases h

theorem particle?_cases {p : Particle} (h : particle? s (.element tag children) = .ok (some p)) :
    ∃ o, occursOf ⟨tag, []⟩ = .ok o ∧
      ((∃ name, p = .reference name o) ∨
        (∃ name type, p = .element name type o ∧
          ((∃ t, typeNamed s t = .ok type) ∨ inlineType s children = .ok type)) ∨
        ∃ items, particles s children = .ok items ∧ groupOf tag.name.part items o = .ok p) := by
  unfold particle? at h
  split at h
  · cases h
  obtain ⟨o, ho, h⟩ := ok_of_bind h
  refine ⟨o, ho, ?_⟩
  split at h
  · split at h
    · cases h
      exact .inl ⟨_, rfl⟩
    · obtain ⟨name, -, h⟩ := ok_of_bind h
      right; left
      dsimp only at h
      split at h <;> obtain ⟨type, htype, h⟩ := ok_of_bind h <;> cases h
      · exact ⟨name, type, rfl, .inl ⟨_, htype⟩⟩
      · exact ⟨name, type, rfl, .inr htype⟩
  split at h
  · obtain ⟨items, hitems, h⟩ := ok_of_bind h
    obtain ⟨group, hgroup, h⟩ := ok_of_bind h
    cases h
    exact .inr (.inr ⟨items, hitems, hgroup⟩)
  · cases h

/-- Either the content model is the one there was, or there was none and a group is read. -/
theorem addContent_cases {soFar found : Option Particle × List AttributeDecl}
    (h : addContent s soFar (.element tag children) = .ok found) :
    found.1 = soFar.1 ∨
      ∃ o items group, found.1 = some group ∧ occursOf ⟨tag, []⟩ = .ok o ∧
        particles s children = .ok items ∧ groupOf tag.name.part items o = .ok group := by
  unfold addContent at h
  split at h
  · cases h; exact .inl rfl
  split at h
  · obtain ⟨o, ho, h⟩ := ok_of_bind h
    obtain ⟨items, hitems, h⟩ := ok_of_bind h
    obtain ⟨group, hgroup, h⟩ := ok_of_bind h
    cases h
    exact .inr ⟨o, items, group, rfl, ho, hitems, hgroup⟩
  split at h
  · obtain ⟨a, -, h⟩ := ok_of_bind h
    cases h
    exact .inl rfl
  · cases h

theorem typeNamed_cases {name : String} {type : ElementType} (h : typeNamed s name = .ok type) :
    (∃ part, type = .named part ∧ (s.complexTypes.lookup part).isSome = true) ∨ type = .any ∨
      ∃ simple, type = .simple simple := by
  unfold typeNamed at h
  dsimp only at h
  split at h
  · rename_i hfound
    cases h
    exact .inl ⟨_, rfl, hfound⟩
  split at h
  · cases h; exact .inr (.inl rfl)
  · obtain ⟨simple, -, rfl⟩ := ok_of_map h
    exact .inr (.inr ⟨simple, rfl⟩)

/-- What is said of particles and of types of elements passes from the parts of what is read to the
whole. -/
structure ClosedUnderReading (s : Sources) (said : Particle → Prop) (told : ElementType → Prop) :
    Prop where
  reference : ∀ {e name o}, occursOf e = .ok o → said (.reference name o)
  element : ∀ {e name type o}, occursOf e = .ok o → told type → said (.element name type o)
  group : ∀ {e kind items o p}, occursOf e = .ok o → groupOf kind items o = .ok p →
    (∀ q ∈ items, said q) → said p
  any : told .any
  simple : ∀ {type}, told (.simple type)
  named : ∀ {name}, (s.complexTypes.lookup name).isSome = true → told (.named name)
  complex : ∀ {content attributes mixed}, (∀ p ∈ content, said p) →
    told (.complex (.mk content attributes mixed))

namespace ClosedUnderReading

variable {said : Particle → Prop} {told : ElementType → Prop}

theorem typeNamed (h : ClosedUnderReading s said told) {name : String} {type : ElementType}
    (htype : Xsd.typeNamed s name = .ok type) : told type := by
  obtain ⟨part, rfl, hpart⟩ | rfl | ⟨simple, rfl⟩ := typeNamed_cases htype
  · exact h.named hpart
  · exact h.any
  · exact h.simple

mutual

theorem inlineType? (h : ClosedUnderReading s said told) :
    ∀ {node : XmlNode} {type : ElementType}, Xsd.inlineType? s node = some (.ok type) → told type
  | .element tag children, type, htype => by
    unfold Xsd.inlineType? at htype
    split at htype
    · cases htype
    split at htype
    · obtain ⟨found, hfound, htype⟩ := ok_of_bind (Option.some.inj htype)
      cases htype
      exact h.complex (h.addContents hfound fun p hp => absurd hp (Option.not_mem_none p))
    split at htype
    · obtain ⟨simple, -, rfl⟩ := ok_of_map (Option.some.inj htype)
      exact h.simple
    · cases htype
  | .text _, _, htype | .comment _, _, htype | .instruction _ _, _, htype => by cases htype

theorem inlineType (h : ClosedUnderReading s said told) :
    ∀ {nodes : List XmlNode} {type : ElementType}, Xsd.inlineType s nodes = .ok type → told type
  | [], _, htype => by cases htype; exact h.any
  | node :: rest, type, htype => by
    unfold Xsd.inlineType at htype
    split at htype
    · rename_i hsome
      exact h.inlineType? (htype ▸ hsome)
    · exact h.inlineType htype

theorem addContent (h : ClosedUnderReading s said told) :
    ∀ {node : XmlNode} {soFar found : Option Particle × List AttributeDecl},
    Xsd.addContent s soFar node = .ok found → (∀ p ∈ soFar.1, said p) → ∀ p ∈ found.1, said p
  | .element tag children, _, _, hadd, hsoFar => by
    obtain hsame | ⟨o, items, group, hfound, ho, hitems, hgroup⟩ := addContent_cases hadd
    · rwa [hsame]
    · rw [hfound]
      rintro p ⟨⟩
      exact h.group ho hgroup (h.particles hitems)
  | .text _, _, _, hadd, hsoFar | .comment _, _, _, hadd, hsoFar
  | .instruction _ _, _, _, hadd, hsoFar => by
    cases hadd; exact hsoFar

theorem addContents (h : ClosedUnderReading s said told) :
    ∀ {nodes : List XmlNode} {soFar found : Option Particle × List AttributeDecl},
    Xsd.addContents s soFar nodes = .ok found → (∀ p ∈ soFar.1, said p) → ∀ p ∈ found.1, said p
  | [], _, _, hadd, hsoFar => by cases hadd; exact hsoFar
  | node :: rest, _, _, hadd, hsoFar => by
    unfold Xsd.addContents at hadd
    obtain ⟨next, hnext, hadd⟩ := ok_of_bind hadd
    exact h.addContents hadd (h.addContent hnext hsoFar)

theorem particle? (h : ClosedUnderReading s said told) :
    ∀ {node : XmlNode} {found : Option Particle}, Xsd.particle? s node = .ok found →
    ∀ p ∈ found, said p
  | .element tag children, found, hread => by
    rintro p rfl
    obtain ⟨o, ho, hp⟩ := particle?_cases hread
    obtain ⟨name, rfl⟩ | ⟨name, type, rfl, ⟨t, htype⟩ | htype⟩ | ⟨items, hitems, hgroup⟩ := hp
    · exact h.reference ho
    · exact h.element ho (h.typeNamed htype)
    · exact h.element ho (h.inlineType htype)
    · exact h.group ho hgroup (h.particles hitems)
  | .text _, _, hread | .comment _, _, hread | .instruction _ _, _, hread => by cases hread; nofun

theorem particles (h : ClosedUnderReading s said told) :
    ∀ {nodes : List XmlNode} {items : List Particle}, Xsd.particles s nodes = .ok items →
    ∀ p ∈ items, said p
  | [], _, hread => by cases hread; nofun
  | node :: rest, _, hread => by
    unfold Xsd.particles at hread
    obtain ⟨first, hfirst, hread⟩ := ok_of_bind hread
    obtain ⟨more, hmore, hread⟩ := ok_of_bind hread
    cases hread
    intro p hp
    rcases List.mem_append.mp hp with hp | hp
    · exact h.particle? hfirst p (Option.mem_toList.mp hp)
    · exact h.particles hmore p hp

end

theorem complexTypeOf (h : ClosedUnderReading s said told) {e : XmlElement} {type : ComplexType}
    (htype : Xsd.complexTypeOf s e = .ok type) : ∀ p ∈ type.content, said p := by
  obtain ⟨found, hfound, htype⟩ := ok_of_bind htype
  cases htype
  exact h.addContents hfound fun p hp => absurd hp (Option.not_mem_none p)

theorem elementOf (h : ClosedUnderReading s said told) {e : XmlElement} {decl : ElementDecl}
    (hdecl : Xsd.elementOf s e = .ok decl) : told decl.type := by
  obtain ⟨name, -, hdecl⟩ := ok_of_bind hdecl
  dsimp only at hdecl
  split at hdecl <;> obtain ⟨type, htype, hdecl⟩ := ok_of_bind hdecl <;> cases hdecl
  · exact h.typeNamed htype
  · exact h.inlineType htype

end ClosedUnderReading

end Xsd
end RequestMatching
