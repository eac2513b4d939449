import RequestMatching.Proofs.Xsd.Resolution
import RequestMatching.Xsd.Validator

/-!
# Validation only looks up what is declared

Validation is written here once more with a parameter: what becomes of a reference or a named type
without a declaration, where validation tells an error. For a schema that is read it is validation
whatever the parameter is. Had it ended in one of these errors, another parameter would have changed the
end; so none of them is ever told.
-/

namespace RequestMatching

namespace Xsd

/-- What becomes of a reference and of a type at a path that the schema does not declare by name. -/
structure Undeclared where
  element : String → String → List XmlElement → Except String (List XmlElement)
  type : String → String → XmlElement → Except String Unit

mutual

def matchParticleWith (u : Undeclared) (s : Schema) (valid : Validity) (path : String) :
    Particle → List XmlElement → Except String (List XmlElement)
  | .element name type occurs, cs =>
    takeNamed s.targetNamespace valid name type occurs path 0 cs
  | .reference name occurs, cs =>
    match s.elements.lookup name with
    | some type => takeNamed s.targetNamespace valid name type occurs path 0 cs
    | none => u.element path name cs
  | .sequence items occurs, cs =>
    repeated occurs (fun cs => matchSequenceWith u s valid path items cs) (cs.length + 1) 0 cs
  | .choice items occurs, cs =>
    repeated occurs (fun cs =>
      match nextName? cs with
      | some name =>
        if Particle.anyCanStartWith name items then matchChoiceWith u s valid path name items cs
        else noChoice items cs path
      | none => noChoice items cs path) (cs.length + 1) 0 cs
  | .all items occurs, cs =>
    repeated occurs (fun cs => matchAll s.targetNamespace path (allItemsWith u s valid path items) cs)
      (cs.length + 1) 0 cs

def matchSequenceWith (u : Undeclared) (s : Schema) (valid : Validity) (path : String) :
    List Particle → List XmlElement → Except String (List XmlElement)
  | [], cs => .ok cs
  | p :: rest, cs => do
    let left ← matchParticleWith u s valid path p cs
    matchSequenceWith u s valid path rest left

def matchChoiceWith (u : Undeclared) (s : Schema) (valid : Validity) (path : String)
    (name : String) : List Particle → List XmlElement → Except String (List XmlElement)
  | [], cs => .ok cs
  | p :: rest, cs =>
    if p.canStartWith name then matchParticleWith u s valid path p cs
    else matchChoiceWith u s valid path name rest cs

def allItemsWith (u : Undeclared) (s : Schema) (valid : Validity) (path : String) :
    List Particle → List AllItem
  | [] => []
  | p :: rest =>
    ⟨p.elementName?.getD "", 0 < p.occurs.min, fun cs => matchParticleWith u s valid path p cs⟩ ::
      allItemsWith u s valid path rest

end

def checkComplexWith (u : Undeclared) (s : Schema) (valid : Validity) (e : XmlElement)
    (type : ComplexType) (path : String) : Except String Unit := do
  checkAttributes type.attributes path [] e.tag.attributes
  if !type.mixed && hasText e.children then errorAt path "text content is not allowed"
  let left ← match type.content with
    | some p => matchParticleWith u s valid path p e.elements
    | none => pure e.elements
  match left with
  | extra :: _ => errorAt path s!"unexpected element <{extra.tag.name.part}>"
  | [] => return ()

def checkElementWith (u : Undeclared) (s : Schema) : Nat → Validity
  | 0, _, _, path => errorAt path s!"document nested deeper than {depthLimit} elements"
  | room + 1, e, type, path =>
    match type with
    | .any => .ok ()
    | .simple t => checkSimple e t path
    | .complex t => checkComplexWith u s (checkElementWith u s room) e t path
    | .named name =>
      match s.complexTypes.lookup name with
      | some t => checkComplexWith u s (checkElementWith u s room) e t path
      | none => u.type path name e

def Schema.checkRootWith (u : Undeclared) (s : Schema) (root : XmlElement) : Except String Unit :=
  let name := root.tag.name.part
  if root.tag.name.space ≠ s.targetNamespace then
    let target := s.targetNamespace.getD "(none)"
    .error s!"root element <{name}> is not in namespace {target}"
  else
    match s.elements.lookup name with
    | none => .error s!"no global element declaration for <{name}>"
    | some type => checkElementWith u s depthLimit root type ("/" ++ name)

def Schema.checkWith (u : Undeclared) (s : Schema) (document : String) : Except String Unit :=
  match Xml.parse document with
  | none => .error "invalid XML: *"
  | some d => s.checkRootWith u d.root

/-! ## Where it makes no difference -/

variable {u : Undeclared} {s : Schema} {valid valid' : Validity} {path : String}

theorem takeNamed_congr {target : Option String} {name : String} {type : ElementType} {o : Occurs}
    (hvalid : ∀ e path, valid' e type path = valid e type path) : ∀ {cs : List XmlElement} {count : Nat},
    takeNamed target valid' name type o path count cs = takeNamed target valid name type o path count cs
  | [], _ => rfl
  | e :: rest, count => by
    unfold takeNamed
    rw [hvalid, funext fun _ => takeNamed_congr hvalid]

theorem mem_of_lookup_eq_some {α : Type} {name : String} {a : α} {found : List (String × α)}
    (h : found.lookup name = some a) : (name, a) ∈ found := by
  obtain ⟨l₁, l₂, rfl, -⟩ := List.lookup_eq_some_iff.mp h
  exact List.mem_append_right l₁ (.head l₂)

theorem not_mem_of_lookup_eq_none {α : Type} {name : String} {found : List (String × α)}
    (h : found.lookup name = none) : name ∉ found.map (·.1) := by
  rw [← isSome_lookup_iff, h]
  exact Bool.false_ne_true

/-- The elements inside are judged alike, if they are of types that can be met. -/
structure Schema.JudgesAlike (s : Schema) (valid' valid : Validity) : Prop where
  schema : s.IsResolved
  valid : ∀ {type : ElementType}, type.UsesOnly s.HasType s.HasElement →
    ∀ e path, valid' e type path = valid e type path

mutual

theorem matchParticleWith_eq (h : s.JudgesAlike valid' valid) :
    ∀ {p : Particle} {cs : List XmlElement}, p.UsesOnly s.HasType s.HasElement →
    matchParticleWith u s valid' path p cs = matchParticle s valid path p cs
  | .element name type o, cs, hp => takeNamed_congr (h.valid hp)
  | .reference name o, cs, hp => by
    unfold matchParticleWith matchParticle
    cases hname : s.elements.lookup name with
    | some type =>
      have htype := h.schema.elements _ (mem_of_lookup_eq_some hname)
      exact takeNamed_congr (h.valid htype)
    | none => exact absurd hp (not_mem_of_lookup_eq_none hname)
  | .sequence items o, cs, hp => by
    unfold matchParticleWith matchParticle
    rw [funext fun cs => matchSequenceWith_eq h hp]
  | .choice items o, cs, hp => by
    unfold matchParticleWith matchParticle
    congr 1
    funext cs
    cases nextName? cs with
    | none => rfl
    | some name =>
      dsimp only
      rw [matchChoiceWith_eq h hp]
  | .all items o, cs, hp => by
    unfold matchParticleWith matchParticle
    rw [allItemsWith_eq h hp]

theorem matchSequenceWith_eq (h : s.JudgesAlike valid' valid) :
    ∀ {items : List Particle} {cs : List XmlElement},
    Particle.ItemsUseOnly s.HasType s.HasElement items →
    matchSequenceWith u s valid' path items cs = matchSequence s valid path items cs
  | [], _, _ => rfl
  | p :: rest, cs, hitems => by
    unfold matchSequenceWith matchSequence
    rw [matchParticleWith_eq h hitems.1,
      funext fun _ => matchSequenceWith_eq h hitems.2]

theorem matchChoiceWith_eq (h : s.JudgesAlike valid' valid) {name : String} :
    ∀ {items : List Particle} {cs : List XmlElement},
    Particle.ItemsUseOnly s.HasType s.HasElement items →
    matchChoiceWith u s valid' path name items cs = matchChoice s valid path name items cs
  | [], _, _ => rfl
  | p :: rest, cs, hitems => by
    unfold matchChoiceWith matchChoice
    rw [matchParticleWith_eq h hitems.1, matchChoiceWith_eq h hitems.2]

theorem allItemsWith_eq (h : s.JudgesAlike valid' valid) : ∀ {items : List Particle},
    Particle.ItemsUseOnly s.HasType s.HasElement items →
    allItemsWith u s valid' path items = allItems s valid path items
  | [], _ => rfl
  | p :: rest, hitems => by
    unfold allItemsWith allItems
    rw [funext fun _ => matchParticleWith_eq h hitems.1,
      allItemsWith_eq h hitems.2]

end

theorem checkComplexWith_eq (h : s.JudgesAlike valid' valid) {e : XmlElement} {type : ComplexType}
    (htype : type.UsesOnly s.HasType s.HasElement) :
    checkComplexWith u s valid' e type path = checkComplex s valid e type path := by
  obtain ⟨content, attributes, mixed⟩ := type
  cases content with
  | none => rfl
  | some p =>
    have hp : matchParticleWith u s valid' path p e.elements =
        matchParticle s valid path p e.elements := matchParticleWith_eq h htype
    unfold checkComplexWith checkComplex
    dsimp only [ComplexType.content]
    exact hp ▸ rfl

/-- The induction is on the depth that is left: types refer to each other in circles. -/
theorem checkElementWith_eq (hs : s.IsResolved) {room : Nat} : ∀ {type : ElementType},
    type.UsesOnly s.HasType s.HasElement →
    ∀ e path, checkElementWith u s room e type path = checkElement s room e type path := by
  induction room with
  | zero => exact fun _ _ _ => rfl
  | succ room ih =>
    intro type htype e path
    have halike : s.JudgesAlike (checkElementWith u s room) (checkElement s room) := ⟨hs, ih⟩
    cases type with
    | any | simple _ => rfl
    | complex t => exact checkComplexWith_eq halike htype
    | named name =>
      unfold checkElementWith checkElement
      dsimp only
      cases hname : s.complexTypes.lookup name with
      | some t =>
        exact checkComplexWith_eq halike (hs.complexTypes _ (mem_of_lookup_eq_some hname))
      | none => exact absurd htype (not_mem_of_lookup_eq_none hname)

theorem Schema.checkRootWith_eq (hs : s.IsResolved) {root : XmlElement} :
    s.checkRootWith u root = s.checkRoot root := by
  unfold checkRootWith checkRoot
  dsimp only
  cases hname : s.elements.lookup root.tag.name.part with
  | none => rfl
  | some type =>
    dsimp only
    rw [checkElementWith_eq hs (hs.elements _ (mem_of_lookup_eq_some hname))]

theorem Schema.checkWith_eq (hs : s.IsResolved) {document : String} :
    s.checkWith u document = s.check document := by
  unfold checkWith check
  cases Xml.parse document with
  | none => rfl
  | some d => exact checkRootWith_eq hs

/-- A schema that is not read from a text can have validation tell of an undeclared name. -/
example : (Schema.mk none [("r", .named "t")] []).checkRoot ⟨⟨⟨none, "r"⟩, none, [], []⟩, []⟩ =
    .error "/r: unknown type t" := by
  rfl

/-- In a schema that is read all names are declared, at whatever depth they are used, and no document
gets validation to ask for another one. -/
theorem Schema.nothing_undeclared_of_parse {text : String} (h : Schema.parse text = .ok s) :
    s.IsResolved ∧
      ∀ (u : Undeclared) (document : String), s.checkWith u document = s.check document := by
  have hs := parse_isResolved h
  exact ⟨hs, fun u document => checkWith_eq hs⟩

def treeSchema : String :=
  "<schema xmlns='http://www.w3.org/2001/XMLSchema'><complexType name='t'><choice>" ++
    "<element name='a' type='t'/><element ref='r'/></choice></complexType>" ++
    "<element name='r' type='t'/></schema>"

theorem Schema.nothing_undeclared_of_parse_tree :
    ∃ s, Schema.parse treeSchema = .ok s ∧ s.IsResolved ∧
      ∀ (u : Undeclared) (document : String), s.checkWith u document = s.check document := by
  have hread : (Schema.parse treeSchema).isOk = true := by decide +kernel
  cases h : Schema.parse treeSchema with
  | error e =>
    rw [h] at hread
    cases hread
  | ok s => exact ⟨s, rfl, nothing_undeclared_of_parse h⟩

end Xsd
end RequestMatching
