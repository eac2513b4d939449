import RequestMatching.Xml.Tree

/-!
# Nodes of a document

All nodes of a document in document order: an element is followed by its namespaces, its attributes
and what it holds. A node is known by its place in this order.
-/

namespace RequestMatching

namespace XPath

inductive Kind where
  | root
  | element (tag : XmlTag)
  | namespaceOf (mark space : String)
  | attributeOf (a : XmlAttribute)
  | text (s : String)
  | comment (s : String)
  | instruction (target value : String)

/-- A node with the place of the one that it belongs to and of the last one inside it. -/
structure Node where
  kind : Kind
  parent : Option Nat
  last : Nat

namespace Kind

def isContent : Kind → Bool
  | namespaceOf .. | attributeOf _ => false
  | _ => true

end Kind

/-- Marks with their namespaces, of which the first of each mark counts. -/
def visible : List (String × String) → List (String × String)
  | [] => []
  | (m, s) :: rest => (m, s) :: (visible rest).filter (·.1 != m)

def leaves (parent : Nat) : Nat → List Kind → List Node
  | _, [] => []
  | place, k :: rest => ⟨k, some parent, place⟩ :: leaves parent (place + 1) rest

mutual

/-- The nodes of an element or another node at a place; `marks` are those in force around it. -/
def nodesOf (marks : List (String × String)) (parent place : Nat) : XmlNode → List Node
  | .text s => [⟨.text s, some parent, place⟩]
  | .comment s => [⟨.comment s, some parent, place⟩]
  | .instruction target value => [⟨.instruction target (value.getD ""), some parent, place⟩]
  | .element tag children =>
    let marks := tag.bindings.reverse ++ marks
    let own := (visible marks).map (fun (m, s) => Kind.namespaceOf m s) ++
      tag.attributes.map Kind.attributeOf
    let inside := nodesOfAll marks place (place + 1 + own.length) children
    ⟨.element tag, some parent, place + own.length + inside.length⟩ ::
      (leaves place (place + 1) own ++ inside)

def nodesOfAll (marks : List (String × String)) (parent place : Nat) : List XmlNode → List Node
  | [] => []
  | n :: rest =>
    let first := nodesOf marks parent place n
    first ++ nodesOfAll marks parent (place + first.length) rest

end

def reservedMarks : List (String × String) :=
  [("xml", reservedSpace)]

def ofDocument (d : XmlDocument) : Array Node :=
  let inside := nodesOfAll reservedMarks 0 1
    (d.before ++ [.element d.root.tag d.root.children] ++ d.after)
  (⟨.root, none, inside.length⟩ :: inside).toArray

end XPath

structure XPath.Document where
  nodes : Array XPath.Node

namespace XPath.Document

def get (d : Document) (i : Nat) : Node :=
  d.nodes.getD i ⟨.root, none, 0⟩

def between (first last : Nat) : List Nat :=
  (List.range (last + 1 - first)).map (first + ·)

def isContent (d : Document) (i : Nat) : Bool :=
  (d.get i).kind.isContent

def children (d : Document) (i : Nat) : List Nat :=
  (between (i + 1) (d.get i).last).filter fun j => d.isContent j && (d.get j).parent = some i

def descendants (d : Document) (i : Nat) : List Nat :=
  (between (i + 1) (d.get i).last).filter d.isContent

def attributes (d : Document) (i : Nat) : List Nat :=
  (between (i + 1) (d.get i).last).filter fun j =>
    (d.get j).parent = some i && match (d.get j).kind with | .attributeOf _ => true | _ => false

def namespaces (d : Document) (i : Nat) : List Nat :=
  (between (i + 1) (d.get i).last).filter fun j =>
    (d.get j).parent = some i && match (d.get j).kind with | .namespaceOf .. => true | _ => false

def ancestorsFrom (d : Document) : Nat → Nat → List Nat
  | 0, _ => []
  | n + 1, i =>
    match (d.get i).parent with
    | some p => p :: ancestorsFrom d n p
    | none => []

def ancestors (d : Document) (i : Nat) : List Nat :=
  ancestorsFrom d d.nodes.size i

def siblings (d : Document) (i : Nat) : List Nat :=
  match (d.get i).parent with
  | some p => if d.isContent i then d.children p else []
  | none => []

def text (d : Document) (i : Nat) : String :=
  match (d.get i).kind with
  | .namespaceOf _ s => s
  | .attributeOf a => a.value
  | .text s => s
  | .comment s => s
  | .instruction _ v => v
  | .root | .element _ =>
    String.join ((d.descendants i).map fun j =>
      match (d.get j).kind with | .text s => s | _ => "")

def name? (d : Document) (i : Nat) : Option XmlName :=
  match (d.get i).kind with
  | .element tag => some tag.name
  | .attributeOf a => some a.name
  | .instruction target _ => some ⟨none, target⟩
  | .namespaceOf mark _ => some ⟨none, mark⟩
  | _ => none

def writtenName (d : Document) (i : Nat) : String :=
  let joined (mark : Option String) (part : String) : String :=
    match mark with
    | some m => m ++ ":" ++ part
    | none => part
  match (d.get i).kind with
  | .element tag => joined tag.mark tag.name.part
  | .attributeOf a => joined a.mark a.name.part
  | .instruction target _ => target
  | .namespaceOf mark _ => mark
  | _ => ""

end XPath.Document
end RequestMatching
