import RequestMatching.Xsd.SimpleType

/-!
# Schemas

A schema declares elements and complex types. The content of a complex type is a particle: elements
in sequences, choices and unordered groups, each with bounds on how often it occurs.
-/

namespace RequestMatching

namespace Xsd

structure Occurs where
  min : Nat
  max : Option Nat
  deriving DecidableEq

structure AttributeDecl where
  name : String
  type : SimpleType
  required : Bool

mutual

inductive ElementType where
  | any
  | simple (type : SimpleType)
  | complex (type : ComplexType)
  | named (name : String)

inductive Particle where
  | element (name : String) (type : ElementType) (occurs : Occurs)
  | reference (name : String) (occurs : Occurs)
  | sequence (items : List Particle) (occurs : Occurs)
  | choice (items : List Particle) (occurs : Occurs)
  | all (items : List Particle) (occurs : Occurs)

inductive ComplexType where
  | mk (content : Option Particle) (attributes : List AttributeDecl) (mixed : Bool)

end

structure ElementDecl where
  name : String
  type : ElementType

structure Schema where
  targetNamespace : Option String
  elements : List (String × ElementType)
  complexTypes : List (String × ComplexType)

namespace ComplexType

def content : ComplexType → Option Particle
  | mk c _ _ => c

def attributes : ComplexType → List AttributeDecl
  | mk _ as _ => as

def mixed : ComplexType → Bool
  | mk _ _ m => m

end ComplexType

namespace Particle

def occurs : Particle → Occurs
  | element _ _ o | reference _ o | sequence _ o | choice _ o | all _ o => o

def elementName? : Particle → Option String
  | element name _ _ | reference name _ => some name
  | _ => none

mutual

def isEmptiable : Particle → Bool
  | element _ _ o | reference _ o => o.min = 0
  | sequence items o | all items o => o.min = 0 || allEmptiable items
  | choice items o => o.min = 0 || anyEmptiable items

def allEmptiable : List Particle → Bool
  | [] => true
  | p :: rest => isEmptiable p && allEmptiable rest

def anyEmptiable : List Particle → Bool
  | [] => false
  | p :: rest => isEmptiable p || anyEmptiable rest

end

mutual

def canStartWith (name : String) : Particle → Bool
  | element n _ _ | reference n _ => n == name
  | sequence items _ => sequenceCanStartWith name items
  | choice items _ | all items _ => anyCanStartWith name items

/-- The same for particles in a row: those before the first that may not stand for nothing. -/
def sequenceCanStartWith (name : String) : List Particle → Bool
  | [] => false
  | p :: rest => canStartWith name p || (isEmptiable p && sequenceCanStartWith name rest)

def anyCanStartWith (name : String) : List Particle → Bool
  | [] => false
  | p :: rest => canStartWith name p || anyCanStartWith name rest

end

end Particle

end Xsd
end RequestMatching
