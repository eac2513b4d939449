import RequestMatching.Xml.Parser
import RequestMatching.Xsd.Schema

/-!
# Reading schemas

A schema is read from an XML document. Types are resolved by the part of their names after the
colon, those of the schema before the built-in ones. A chain of simple types has a bounded length,
so a circle among them is found out.
-/

namespace RequestMatching

namespace Xsd

inductive SchemaFault where
  | notXml
  | notSchema
  | missingAttribute (element attr : String)
  | badMinOccurs (value : String)
  | badMaxOccurs (value : String)
  | maxBelowMin
  | unsupportedConstruct (name : String)
  | unsupportedElementContent (name : String)
  | unsupportedSimpleConstruct (name : String)
  | unsupportedComplexConstruct (name : String)
  | unsupportedParticle (name : String)
  | unsupportedFacet (name : String)
  | unsupportedUse (value : String)
  | unknownType (name : String)
  | derivationTooDeep
  | noRestriction
  | badAll
  | badFacet (kind value : String)
  | notNumeric (kind : String)
  | badPattern
  | undeclaredElement (name : String)
  deriving DecidableEq

namespace SchemaFault

def reason : SchemaFault → String
  | notXml => "invalid XML: *"
  | notSchema => "root element is not xs:schema"
  | missingAttribute e a => s!"xs:{e} is missing the {a} attribute"
  | badMinOccurs v => "invalid minOccurs '" ++ v ++ "'"
  | badMaxOccurs v => "invalid maxOccurs '" ++ v ++ "'"
  | maxBelowMin => "maxOccurs is smaller than minOccurs"
  | unsupportedConstruct n => s!"unsupported schema construct xs:{n}"
  | unsupportedElementContent n => s!"unsupported element content xs:{n}"
  | unsupportedSimpleConstruct n => s!"unsupported simple type construct xs:{n}"
  | unsupportedComplexConstruct n => s!"unsupported complex type construct xs:{n}"
  | unsupportedParticle n => s!"unsupported particle xs:{n}"
  | unsupportedFacet n => s!"unsupported facet xs:{n}"
  | unsupportedUse v => "unsupported attribute use '" ++ v ++ "'"
  | unknownType n => s!"unknown type {n}"
  | derivationTooDeep => "simple type derivation is too deep or circular"
  | noRestriction => "simple type has no restriction"
  | badAll => "xs:all may only contain elements occurring at most once"
  | badFacet k v => s!"invalid {k} '" ++ v ++ "'"
  | notNumeric k => s!"{k} requires a numeric base type"
  | badPattern => "*"
  | undeclaredElement n => s!"reference to undeclared element {n}"

def message (f : SchemaFault) : String :=
  if f = badPattern then "Invalid regex: " ++ f.reason
  else "Failed to parse xml schema: " ++ f.reason

end SchemaFault

def schemaNamespace : String :=
  standardSpace ++ "2001/XMLSchema"

def isXsd (tag : XmlTag) (name : String) : Bool :=
  tag.name = ⟨some schemaNamespace, name⟩

def isDocumentation (tag : XmlTag) : Bool :=
  isXsd tag "annotation"

def schemaChildren (nodes : List XmlNode) : List XmlElement :=
  (XmlElement.ofNodes nodes).filter fun e => !isDocumentation e.tag

def localPart (name : String) : String :=
  ((Text.splitOn ':' name).getLast?).getD name

def required (e : XmlElement) (name : String) : Except SchemaFault String :=
  match e.attribute? name with
  | some v => .ok v
  | none => .error (.missingAttribute e.tag.name.part name)

def occursOf (e : XmlElement) : Except SchemaFault Occurs := do
  let min ← match e.attribute? "minOccurs" with
    | none => pure 1
    | some v =>
      match Digits.unsigned? (twoTo 32) (Text.trim v) with
      | some n => pure n
      | none => throw (.badMinOccurs v)
  let max ← match e.attribute? "maxOccurs" with
    | none => pure (some 1)
    | some v =>
      if Text.trim v = "unbounded" then pure none
      else match Digits.unsigned? (twoTo 32) (Text.trim v) with
        | some n => pure (some n)
        | none => throw (.badMaxOccurs v)
  if max.any (· < min) then throw .maxBelowMin else return ⟨min, max⟩

/-! ## Simple types -/

def lengthOf (kind value : String) : Except SchemaFault Nat :=
  match Digits.unsigned? (twoTo 64) (Text.trim value) with
  | some n => .ok n
  | none => .error (.badFacet kind value)

def boundOf (base : BuiltIn) (kind value : String) : Except SchemaFault Binary64 :=
  if !base.isNumeric then .error (.notNumeric kind)
  else match floatOf? (Text.trim value).toList with
    | some x => .ok x
    | none => .error (.badFacet kind value)

def addFacet (base : BuiltIn) (f : Facets) (e : XmlElement) : Except SchemaFault Facets := do
  let kind := e.tag.name.part
  let value ← required e "value"
  match kind with
  | "enumeration" => return { f with enumeration := f.enumeration ++ [value] }
  | "pattern" =>
    match Regex.compileWhole value with
    | some r => return { f with patterns := f.patterns ++ [r] }
    | none => throw .badPattern
  | "length" => return { f with length := some (← lengthOf kind value) }
  | "minLength" => return { f with minLength := some (← lengthOf kind value) }
  | "maxLength" => return { f with maxLength := some (← lengthOf kind value) }
  | "minInclusive" => return { f with minInclusive := some (← boundOf base kind value) }
  | "maxInclusive" => return { f with maxInclusive := some (← boundOf base kind value) }
  | "minExclusive" => return { f with minExclusive := some (← boundOf base kind value) }
  | "maxExclusive" => return { f with maxExclusive := some (← boundOf base kind value) }
  | other => throw (.unsupportedFacet other)

def addFacets (base : BuiltIn) (f : Facets) : List XmlElement → Except SchemaFault Facets
  | [] => .ok f
  | e :: rest => do addFacets base (← addFacet base f e) rest

def restrictionOf (e : XmlElement) : Except SchemaFault XmlElement :=
  match schemaChildren e.children with
  | [] => .error .noRestriction
  | first :: rest =>
    if rest.isEmpty && isXsd first.tag "restriction" then .ok first
    else .error (.unsupportedSimpleConstruct first.tag.name.part)

/-- A simple type; `room` bounds the length of the chain of types that it comes from. -/
def simpleType (named : List (String × XmlElement)) : Nat → XmlElement → Except SchemaFault SimpleType
  | 0, _ => .error .derivationTooDeep
  | room + 1, e => do
    let restriction ← restrictionOf e
    let base ← required restriction "base"
    let type ← match named.lookup (localPart base) with
      | some e => simpleType named room e
      | none =>
        match BuiltIn.ofName? (localPart base) with
        | some b => pure { base := b }
        | none => throw (.unknownType base)
    let facets ← addFacets type.base {} (schemaChildren restriction.children)
    return { type with restrictions := type.restrictions ++ [facets] }

/-- The greatest number of named simple types in a chain. -/
def derivationLimit : Nat := 32

def simpleTypeNamed (named : List (String × XmlElement)) (name : String) :
    Except SchemaFault SimpleType :=
  match named.lookup (localPart name) with
  | some e => simpleType named derivationLimit e
  | none =>
    match BuiltIn.ofName? (localPart name) with
    | some b => .ok { base := b }
    | none => .error (.unknownType name)

def inlineSimpleType (named : List (String × XmlElement)) (e : XmlElement) :
    Except SchemaFault SimpleType :=
  simpleType named (derivationLimit + 1) e

/-! ## Complex types -/

structure Sources where
  simpleTypes : List (String × XmlElement) := []
  complexTypes : List (String × XmlElement) := []

def typeNamed (s : Sources) (name : String) : Except SchemaFault ElementType :=
  let part := localPart name
  if (s.complexTypes.lookup part).isSome then .ok (.named part)
  else if part = "anyType" then .ok .any
  else (simpleTypeNamed s.simpleTypes name).map .simple

def attributeOf (s : Sources) (e : XmlElement) : Except SchemaFault AttributeDecl := do
  let name ← required e "name"
  let type ← match e.attribute? "type" with
    | some t => simpleTypeNamed s.simpleTypes t
    | none =>
      match schemaChildren e.children with
      | first :: _ =>
        if isXsd first.tag "simpleType" then inlineSimpleType s.simpleTypes first
        else pure { base := .string }
      | [] => pure { base := .string }
  let isRequired ← match e.attribute? "use" with
    | none | some "optional" => pure false
    | some "required" => pure true
    | some other => throw (.unsupportedUse other)
  return ⟨name, type, isRequired⟩

def isAllItem (p : Particle) : Bool :=
  p.elementName?.isSome && p.occurs.max.any (· ≤ 1)

def groupOf (kind : String) (items : List Particle) (occurs : Occurs) : Except SchemaFault Particle :=
  if kind = "sequence" then .ok (.sequence items occurs)
  else if kind = "choice" then .ok (.choice items occurs)
  else if items.all isAllItem then .ok (.all items occurs)
  else .error .badAll

def isGroup (name : String) : Bool :=
  name = "sequence" || name = "choice" || name = "all"

def isMixed (tag : XmlTag) : Bool :=
  (XmlElement.mk tag []).attribute? "mixed" = some "true"

mutual

def inlineType? (s : Sources) : XmlNode → Option (Except SchemaFault ElementType)
  | .element tag children =>
    if isDocumentation tag then none
    else if isXsd tag "complexType" then
      some do
        let (content, attrs) ← addContents s (none, []) children
        return .complex (.mk content attrs (isMixed tag))
    else if isXsd tag "simpleType" then
      some ((inlineSimpleType s.simpleTypes ⟨tag, children⟩).map .simple)
    else some (.error (.unsupportedElementContent tag.name.part))
  | _ => none

/-- The type that the contents of a declaration spell out: that of the first node that says
something. -/
def inlineType (s : Sources) : List XmlNode → Except SchemaFault ElementType
  | [] => .ok .any
  | node :: rest =>
    match inlineType? s node with
    | some type => type
    | none => inlineType s rest

def addContent (s : Sources) (soFar : Option Particle × List AttributeDecl) :
    XmlNode → Except SchemaFault (Option Particle × List AttributeDecl)
  | .element tag children =>
    if isDocumentation tag then .ok soFar
    else if isGroup tag.name.part && soFar.1.isNone then do
      let occurs ← occursOf ⟨tag, []⟩
      let items ← particles s children
      let group ← groupOf tag.name.part items occurs
      return (some group, soFar.2)
    else if tag.name.part = "attribute" then do
      let a ← attributeOf s ⟨tag, children⟩
      return (soFar.1, soFar.2 ++ [a])
    else .error (.unsupportedComplexConstruct tag.name.part)
  | _ => .ok soFar

def addContents (s : Sources) (soFar : Option Particle × List AttributeDecl) :
    List XmlNode → Except SchemaFault (Option Particle × List AttributeDecl)
  | [] => .ok soFar
  | node :: rest => do addContents s (← addContent s soFar node) rest

def particle? (s : Sources) : XmlNode → Except SchemaFault (Option Particle)
  | .element tag children =>
    if isDocumentation tag then .ok none
    else do
      let e : XmlElement := ⟨tag, []⟩
      let occurs ← occursOf e
      if tag.name.part = "element" then
        match e.attribute? "ref" with
        | some target => return some (.reference (localPart target) occurs)
        | none => do
          let name ← required e "name"
          let type ← match e.attribute? "type" with
            | some t => typeNamed s t
            | none => inlineType s children
          return some (.element name type occurs)
      else if isGroup tag.name.part then do
        let items ← particles s children
        some <$> groupOf tag.name.part items occurs
      else throw (.unsupportedParticle tag.name.part)
  | _ => .ok none

def particles (s : Sources) : List XmlNode → Except SchemaFault (List Particle)
  | [] => .ok []
  | node :: rest => do
    let first ← particle? s node
    let more ← particles s rest
    return first.toList ++ more

end

def complexTypeOf (s : Sources) (e : XmlElement) : Except SchemaFault ComplexType := do
  let (content, attrs) ← addContents s (none, []) e.children
  return .mk content attrs (isMixed e.tag)

def elementOf (s : Sources) (e : XmlElement) : Except SchemaFault ElementDecl := do
  let name ← required e "name"
  let type ← match e.attribute? "type" with
    | some t => typeNamed s t
    | none => inlineType s e.children
  return ⟨name, type⟩

/-! ## References -/

mutual

def undeclared (names : List String) : Particle → Option String
  | .reference name _ => if names.contains name then none else some name
  | .element _ type _ => undeclaredInType names type
  | .sequence items _ | .choice items _ | .all items _ => undeclaredInItems names items

def undeclaredInItems (names : List String) : List Particle → Option String
  | [] => none
  | p :: rest => (undeclared names p).or (undeclaredInItems names rest)

/-- The first such reference in a type; named types are looked at on their own. -/
def undeclaredInType (names : List String) : ElementType → Option String
  | .complex type => undeclaredInComplex names type
  | .any | .simple _ | .named _ => none

def undeclaredInComplex (names : List String) : ComplexType → Option String
  | .mk (some p) _ _ => undeclared names p
  | .mk none _ _ => none

end

def Schema.undeclared (s : Schema) : Option String :=
  let names := s.elements.map (·.1)
  (s.elements.findSome? fun (_, t) => undeclaredInType names t).or
    (s.complexTypes.findSome? fun (_, t) => undeclaredInComplex names t)

/-! ## Schemas -/

/-- Sets the value under a name; a new name goes to the end. -/
def setNamed {α : Type} (name : String) (a : α) : List (String × α) → List (String × α)
  | [] => [(name, a)]
  | (n, b) :: rest => if n = name then (name, a) :: rest else (n, b) :: setNamed name a rest

def sourcesOf (s : Sources) (elements : List XmlElement) :
    List XmlElement → Except SchemaFault (Sources × List XmlElement)
  | [] => .ok (s, elements)
  | e :: rest =>
    match e.tag.name.part with
    | "element" => sourcesOf s (elements ++ [e]) rest
    | "simpleType" => do
      let name ← required e "name"
      sourcesOf { s with simpleTypes := setNamed name e s.simpleTypes } elements rest
    | "complexType" => do
      let name ← required e "name"
      sourcesOf { s with complexTypes := setNamed name e s.complexTypes } elements rest
    | other => .error (.unsupportedConstruct other)

def complexTypesOf (s : Sources) :
    List (String × XmlElement) → Except SchemaFault (List (String × ComplexType))
  | [] => .ok []
  | (name, e) :: rest => do
    let type ← complexTypeOf s e
    let more ← complexTypesOf s rest
    return (name, type) :: more

/-- The global elements of a schema; of several with one name the last one counts. -/
def elementsOf (s : Sources) (found : List (String × ElementType)) :
    List XmlElement → Except SchemaFault (List (String × ElementType))
  | [] => .ok found
  | e :: rest => do
    let decl ← elementOf s e
    elementsOf s (setNamed decl.name decl.type found) rest

def Schema.ofElement (root : XmlElement) : Except SchemaFault Schema := do
  if !isXsd root.tag "schema" then throw .notSchema
  let (sources, elements) ← sourcesOf {} [] (schemaChildren root.children)
  let complexTypes ← complexTypesOf sources sources.complexTypes
  let elements ← elementsOf sources [] elements
  let schema : Schema := ⟨root.attribute? "targetNamespace", elements, complexTypes⟩
  match schema.undeclared with
  | some name => throw (.undeclaredElement name)
  | none => return schema

def Schema.parse (text : String) : Except SchemaFault Schema :=
  match Xml.parse text with
  | none => .error .notXml
  | some d => Schema.ofElement d.root

end Xsd
end RequestMatching
