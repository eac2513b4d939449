import RequestMatching.Request.Definition
import RequestMatching.Time.Reader

/-!
# Expectations

What is to happen when a request comes that a definition is meant for. Expectations are read from a
JSON text that holds one of them or a list. One that says nothing about its identifier or about the
time of its creation gets both from a stamp.
-/

namespace RequestMatching

inductive LoadError where
  | invalidConfig (reason : String)
  | unreadable (path reason : String)
  | malformed (format reason : String)
  | invalidExpectation (reason : String)

def LoadError.message : LoadError → String
  | invalidConfig reason => "Invalid configuration: " ++ reason
  | unreadable path reason => s!"Failed to read {path}: {reason}"
  | malformed format reason => s!"Failed to parse {format}: {reason}"
  | invalidExpectation reason => "Invalid expectation: " ++ reason

structure Expectation where
  id : String
  priority : Int := 0
  created : CivilTime
  request : RequestDefinition := {}
  action : Json := .null

/-- The place of an expectation among others: those of a higher priority come first, and of two with
one priority the older. -/
structure Precedence where
  priority : Int
  created : CivilTime

namespace Precedence

def order (a b : Precedence) : Ordering :=
  (compare b.priority a.priority).then (compare a.created b.created)

instance : Ord Precedence :=
  ⟨order⟩

end Precedence

/-- What an expectation gets that says nothing about itself. -/
structure Stamp where
  id : String
  created : CivilTime

namespace Expectation

def precedence (e : Expectation) : Precedence :=
  ⟨e.priority, e.created⟩

def equal (a b : Expectation) : Bool :=
  a.id == b.id && a.priority == b.priority && a.created == b.created &&
    a.request.equal b.request && a.action.equal b.action

def validate (e : Expectation) : Except LoadError Unit :=
  if Text.isBlank e.id then .error (.invalidExpectation "id must not be blank") else .ok ()

/-! ## JSON -/

structure Draft where
  id : Option String := none
  priority : Int := 0
  created : Option CivilTime := none
  request : RequestDefinition := {}
  action : Json := .null

def Draft.complete (stamp : Stamp) (d : Draft) : Expectation :=
  ⟨d.id.getD stamp.id, d.priority, d.created.getD stamp.created, d.request, d.action⟩

def timeDecoder : Decoder CivilTime
  | _, .string r => do
    let s ← Decoder.ofFault r
    (CivilTime.ofLooseText s.toList).mapError .invalidDate
  | _, s => Decoder.mismatch "an RFC 3339 formatted date and time string" s

def fields : List (Field Draft) :=
  [.of "id" .string fun a d => { d with id := some a },
   .of "priority" (.integer (leastSigned 32) (greatestSigned 32) "i32") fun a d => { d with priority := a },
   .of "created" timeDecoder fun a d => { d with created := some a },
   .of "httpRequest" RequestDefinition.decoder fun a d => { d with request := a },
   .of "action" .json fun a d => { d with action := a }]

def decoder : Decoder Draft :=
  .record "Expectation" fields {}

def draftsDecoder : Decoder (List Draft) :=
  .firstOf "OneOrMany" [.list decoder, fun p s => (decoder p s).map ([·])]

def ofText (stamp : Stamp) (text : String) : Except DecodeError Expectation :=
  (decoder.ofText text).map (·.complete stamp)

def completeAll (stamps : Nat → Stamp) (drafts : List Draft) : List Expectation :=
  drafts.mapIdx fun i d => d.complete (stamps i)

def parseAll (stamps : Nat → Stamp) (text : String) : Except LoadError (List Expectation) := do
  let drafts ← (draftsDecoder.ofText text).mapError fun e => .malformed "json" e.message
  let expectations := completeAll stamps drafts
  expectations.forM validate
  return expectations

end Expectation
end RequestMatching
