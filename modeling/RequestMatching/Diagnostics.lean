import RequestMatching.Groups
import RequestMatching.Text.Blank

/-!
# Diagnostics

A comparison ends in a finding: a verdict and, where there is something to explain, a difference.
Diagnostics collect the differences of one attempt under the aspect of the request that they belong
to, in the order in which the aspects first have one.

A check does not write to the diagnostics itself. It returns a finding, which has room for one difference,
and the attempt notes it. So that a check explains itself once at most is a matter of this type and not of
a proof; what has to be proved of each check is when there is a difference at all.
-/

namespace RequestMatching

inductive Aspect where
  | method
  | path
  | pathParameters
  | query
  | cookies
  | headers
  | body
  | secure
  | protocol
  | keepAlive
  | operation
  | openapi
  deriving DecidableEq

namespace Aspect

def name : Aspect → String
  | method => "method"
  | path => "path"
  | pathParameters => "path parameters"
  | query => "query parameters"
  | cookies => "cookies"
  | headers => "headers"
  | body => "body"
  | secure => "secure"
  | protocol => "protocol"
  | keepAlive => "keep-alive"
  | operation => "operation"
  | openapi => "openapi"

end Aspect

/-- The verdict of a comparison, with a difference where there is one to tell. -/
structure Finding where
  accepted : Bool
  difference : Option String := none
  deriving DecidableEq

namespace Finding

def accept : Finding :=
  ⟨true, none⟩

def reject (difference : String) : Finding :=
  ⟨false, some difference⟩

def ofBool (accepted : Bool) (difference : String) : Finding :=
  if accepted then accept else reject difference

end Finding

structure Diagnostics where
  /-- Whether differences are kept at all. -/
  detailed : Bool
  subject : Option String := none
  /-- The aspect of differences that name none. -/
  current : Option Aspect := none
  differences : Groups Aspect String := []

namespace Diagnostics

/-- Keeps a difference for an aspect, or for the current one; without either it is dropped. -/
def add (d : Diagnostics) (aspect : Option Aspect) (message : String) : Diagnostics :=
  if d.detailed then
    match aspect.or d.current with
    | some a => { d with differences := Groups.add a message d.differences }
    | none => d
  else d

def note (d : Diagnostics) (aspect : Option Aspect) (f : Finding) : Diagnostics :=
  match f.difference with
  | some message => d.add aspect message
  | none => d

def messages (d : Diagnostics) (aspect : Aspect) : List String :=
  Groups.valuesOf d.differences aspect

def about (d : Diagnostics) (aspect : Aspect) : Diagnostics :=
  { d with current := some aspect }

def explains (d : Option Diagnostics) : Bool :=
  d.any (·.detailed)

def report (d : Diagnostics) : String :=
  let head := match d.subject with
    | some s => "request " ++ s ++ " didn't match"
    | none => "request didn't match"
  let group : Aspect × List String → String := fun (a, ms) =>
    "\n  " ++ a.name ++ " didn't match:" ++
      String.join ((ms.flatMap Text.lines).map fun l => "\n    " ++ l)
  if d.differences.isEmpty then head
  else head ++ " because:" ++ String.join (d.differences.map group)

end Diagnostics

structure Attempt where
  accepted : Bool
  diagnostics : Option Diagnostics

def Finding.attempt (f : Finding) (aspect : Option Aspect) (d : Option Diagnostics) : Attempt :=
  ⟨f.accepted, d.map fun d => d.note aspect f⟩

end RequestMatching
