import RequestMatching.Xsd.Compiler

/-!
# Validation

A document is valid if its root is a declared element and valid for it. Content is matched against
its model from left to right without going back: every part takes as much as it can. Matching a
particle against the elements that are left gives those left after it, or what is wrong.
-/

namespace RequestMatching

namespace Xsd

def depthLimit : Nat := 128

def isSpecial (name : XmlName) : Bool :=
  match name.space with
  | some s => s = schemaNamespace ++ "-instance" || s = standardSpace ++ "2000/xmlns/"
  | none => name.part = "xmlns"

def described : List XmlElement → String
  | e :: _ => s!"<{e.tag.name.part}>"
  | [] => "end of content"

def errorAt {α : Type} (path reason : String) : Except String α :=
  .error (path ++ ": " ++ reason)

def isNamed (target : Option String) (e : XmlElement) (name : String) : Bool :=
  e.tag.name.part = name && (e.tag.name.space.isNone || e.tag.name.space = target)

abbrev Validity := XmlElement → ElementType → String → Except String Unit

/-- Matches a group again and again: at most `max` times, at least `min` times unless a round takes
nothing, and as long as rounds succeed. The last number bounds the rounds. -/
def repeated (occurs : Occurs) (once : List XmlElement → Except String (List XmlElement)) :
    Nat → Nat → List XmlElement → Except String (List XmlElement)
  | 0, _, cs => .ok cs
  | fuel + 1, count, cs =>
    if occurs.max.all (count < ·) then
      match once cs with
      | .ok rest =>
        if rest.length < cs.length then repeated occurs once fuel (count + 1) rest else .ok rest
      | .error e => if count < occurs.min then .error e else .ok cs
    else .ok cs

def takeNamed (target : Option String) (valid : Validity) (name : String) (type : ElementType)
    (occurs : Occurs) (path : String) : Nat → List XmlElement → Except String (List XmlElement)
  | count, [] =>
    if count < occurs.min then
      errorAt path s!"expected element <{name}> but found {described []}"
    else .ok []
  | count, e :: rest =>
    if occurs.max.all (count < ·) && isNamed target e name then do
      valid e type (path ++ "/" ++ name)
      takeNamed target valid name type occurs path (count + 1) rest
    else if count < occurs.min then
      errorAt path s!"expected element <{name}> but found {described (e :: rest)}"
    else .ok (e :: rest)

/-- An item of an unordered group: its name, whether it has to occur, and what it makes of the
elements that are left. -/
structure AllItem where
  name : String
  required : Bool
  run : List XmlElement → Except String (List XmlElement)

def pickItem (target : Option String) (e : XmlElement) :
    List AllItem → Option (AllItem × List AllItem)
  | [] => none
  | i :: rest =>
    if isNamed target e i.name then some (i, rest)
    else (pickItem target e rest).map fun (found, others) => (found, i :: others)

def matchAll (target : Option String) (path : String) :
    List AllItem → List XmlElement → Except String (List XmlElement)
  | items, [] =>
    match items.find? (·.required) with
    | some i => errorAt path s!"missing element <{i.name}>"
    | none => .ok []
  | items, e :: rest =>
    match pickItem target e items with
    | some (i, others) => do
      let _ ← i.run (e :: rest)
      matchAll target path others rest
    | none =>
      match items.find? (·.required) with
      | some i => errorAt path s!"missing element <{i.name}>"
      | none => .ok (e :: rest)

def nextName? : List XmlElement → Option String
  | e :: _ => some e.tag.name.part
  | [] => none

/-- What becomes of a choice when no alternative can start with the next element: one of them may
have to be able to stand for nothing. -/
def noChoice (items : List Particle) (cs : List XmlElement) (path : String) :
    Except String (List XmlElement) :=
  if Particle.anyEmptiable items then .ok cs
  else errorAt path s!"no choice alternative matches {described cs}"

mutual

def matchParticle (s : Schema) (valid : Validity) (path : String) :
    Particle → List XmlElement → Except String (List XmlElement)
  | .element name type occurs, cs =>
    takeNamed s.targetNamespace valid name type occurs path 0 cs
  | .reference name occurs, cs =>
    match s.elements.lookup name with
    | some type => takeNamed s.targetNamespace valid name type occurs path 0 cs
    | none => errorAt path s!"unknown element {name}"
  | .sequence items occurs, cs =>
    repeated occurs (fun cs => matchSequence s valid path items cs) (cs.length + 1) 0 cs
  | .choice items occurs, cs =>
    repeated occurs (fun cs =>
      match nextName? cs with
      | some name =>
        if Particle.anyCanStartWith name items then matchChoice s valid path name items cs
        else noChoice items cs path
      | none => noChoice items cs path) (cs.length + 1) 0 cs
  | .all items occurs, cs =>
    repeated occurs (fun cs => matchAll s.targetNamespace path (allItems s valid path items) cs)
      (cs.length + 1) 0 cs

def matchSequence (s : Schema) (valid : Validity) (path : String) :
    List Particle → List XmlElement → Except String (List XmlElement)
  | [], cs => .ok cs
  | p :: rest, cs => do
    let left ← matchParticle s valid path p cs
    matchSequence s valid path rest left

def matchChoice (s : Schema) (valid : Validity) (path : String) (name : String) :
    List Particle → List XmlElement → Except String (List XmlElement)
  | [], cs => .ok cs
  | p :: rest, cs =>
    if p.canStartWith name then matchParticle s valid path p cs
    else matchChoice s valid path name rest cs

def allItems (s : Schema) (valid : Validity) (path : String) : List Particle → List AllItem
  | [] => []
  | p :: rest =>
    ⟨p.elementName?.getD "", 0 < p.occurs.min, fun cs => matchParticle s valid path p cs⟩ ::
      allItems s valid path rest

end

def checkAttributes (declared : List AttributeDecl) (path : String) (seen : List String) :
    List XmlAttribute → Except String Unit
  | [] =>
    match declared.find? fun d => d.required && !seen.contains d.name with
    | some d => errorAt path s!"missing required attribute {d.name}"
    | none => .ok ()
  | a :: rest =>
    if isSpecial a.name then checkAttributes declared path seen rest
    else
      let name := a.name.part
      match declared.find? (·.name == name) with
      | none => errorAt path s!"attribute {name} is not allowed"
      | some d =>
        match d.type.check a.value with
        | .error e => .error (path ++ "/@" ++ name ++ ": " ++ e)
        | .ok () => checkAttributes declared path (name :: seen) rest

def simpleText (path : String) : List XmlNode → Except String String
  | [] => .ok ""
  | .element tag _ :: _ =>
    errorAt path s!"element <{tag.name.part}> is not allowed in simple content"
  | .text s :: rest => do
    let more ← simpleText path rest
    return s ++ more
  | _ :: rest => simpleText path rest

def checkSimple (e : XmlElement) (type : SimpleType) (path : String) : Except String Unit :=
  match e.tag.attributes.find? fun a => !isSpecial a.name with
  | some a => errorAt path s!"attribute {a.name.part} is not allowed"
  | none => do
    let text ← simpleText path e.children
    match type.check text with
    | .error m => errorAt path m
    | .ok () => return ()

def hasText : List XmlNode → Bool
  | [] => false
  | .text s :: rest => !Text.isBlank s || hasText rest
  | _ :: rest => hasText rest

def checkComplex (s : Schema) (valid : Validity) (e : XmlElement) (type : ComplexType)
    (path : String) : Except String Unit := do
  checkAttributes type.attributes path [] e.tag.attributes
  if !type.mixed && hasText e.children then errorAt path "text content is not allowed"
  let left ← match type.content with
    | some p => matchParticle s valid path p e.elements
    | none => pure e.elements
  match left with
  | extra :: _ => errorAt path s!"unexpected element <{extra.tag.name.part}>"
  | [] => return ()

/-- Checks an element for a type; the number bounds the depth of elements. -/
def checkElement (s : Schema) : Nat → Validity
  | 0, _, _, path => errorAt path s!"document nested deeper than {depthLimit} elements"
  | room + 1, e, type, path =>
    match type with
    | .any => .ok ()
    | .simple t => checkSimple e t path
    | .complex t => checkComplex s (checkElement s room) e t path
    | .named name =>
      match s.complexTypes.lookup name with
      | some t => checkComplex s (checkElement s room) e t path
      | none => errorAt path s!"unknown type {name}"

def Schema.checkRoot (s : Schema) (root : XmlElement) : Except String Unit :=
  let name := root.tag.name.part
  if root.tag.name.space ≠ s.targetNamespace then
    let target := s.targetNamespace.getD "(none)"
    .error s!"root element <{name}> is not in namespace {target}"
  else
    match s.elements.lookup name with
    | none => .error s!"no global element declaration for <{name}>"
    | some type => checkElement s depthLimit root type ("/" ++ name)

def Schema.check (s : Schema) (document : String) : Except String Unit :=
  match Xml.parse document with
  | none => .error "invalid XML: *"
  | some d => s.checkRoot d.root

end Xsd
end RequestMatching
