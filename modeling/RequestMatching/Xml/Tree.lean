/-!
# XML documents

A document is one element with comments and instructions around it. Names are resolved: they carry
the namespace that their mark stands for.
-/

namespace RequestMatching

structure XmlName where
  space : Option String
  part : String
  deriving DecidableEq

def standardSpace : String :=
  "http://www.w3.org/"

def reservedSpace : String :=
  standardSpace ++ "XML/1998/namespace"

/-- An attribute; `mark` is what its name was written with before the colon. -/
structure XmlAttribute where
  name : XmlName
  mark : Option String
  value : String
  deriving DecidableEq

/-- What a start tag says about its element: its name, the marks that it gives a meaning to, and
its attributes. -/
structure XmlTag where
  name : XmlName
  mark : Option String
  bindings : List (String × String)
  attributes : List XmlAttribute
  deriving DecidableEq

inductive XmlNode where
  | element (tag : XmlTag) (children : List XmlNode)
  | text (s : String)
  | comment (s : String)
  | instruction (target : String) (value : Option String)

structure XmlElement where
  tag : XmlTag
  children : List XmlNode

structure XmlDocument where
  before : List XmlNode
  root : XmlElement
  after : List XmlNode

namespace XmlElement

def ofNodes : List XmlNode → List XmlElement
  | [] => []
  | .element tag children :: rest => ⟨tag, children⟩ :: ofNodes rest
  | _ :: rest => ofNodes rest

def elements (e : XmlElement) : List XmlElement :=
  ofNodes e.children

def attribute? (e : XmlElement) (name : String) : Option String :=
  (e.tag.attributes.find? (·.name = ⟨none, name⟩)).map (·.value)

end XmlElement
end RequestMatching
