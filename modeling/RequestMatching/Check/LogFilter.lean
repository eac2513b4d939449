import RequestMatching.Number.Reader
import RequestMatching.Text.Blank
import RequestMatching.Text.Category
import RequestMatching.Text.Property

/-!
# Log filters

A log filter is a list of directives: a level, a target, or both with an equals sign between them,
and maybe a span with fields in brackets. Nothing is logged here; what is decided is which filters
are in order.
-/

namespace RequestMatching
namespace LogFilter

inductive Fault where
  | directive
  | level
  deriving DecidableEq

def Fault.message : Fault → String
  | directive => "invalid filter directive"
  | level =>
    "error parsing level filter: expected one of \"off\", \"error\", \"warn\", \"info\", " ++
      "\"debug\", \"trace\", or a number 0-5"

def isLevel (s : String) : Bool :=
  (Digits.unsigned? 6 s).isSome || s.isEmpty ||
    ["off", "error", "warn", "info", "debug", "trace"].contains (Text.asciiLower s)

def isAlphanumeric (c : Char) : Bool :=
  c.isAlphanum ||
    (128 ≤ c.toNat &&
      (Property.alphabetic.holds c.toNat || ["Nd", "Nl", "No"].contains (Category.of c.toNat)))

/-- What a character of a directive belongs to. -/
inductive Part where
  | start
  | name
  | span
  | field (isEmpty : Bool)
  | fields
  | target
  | level (read : List Char)

def Part.next (p : Part) (c : Char) : Option Part :=
  match p with
  | start =>
    if c = '[' then some span
    else if ['-', ':', '_'].contains c || isAlphanumeric c then some name
    else none
  | name => if c = '=' then some (level []) else if c = '[' then some span else some name
  | span => if c = ']' then some target else if c = '{' then some (field true) else some span
  | field isEmpty =>
    if c = '}' then (if isEmpty then none else some fields) else some (field false)
  | fields => if c = ']' then some target else none
  | target => if c = '=' then some (level []) else none
  | level read => some (level (read ++ [c]))

def checkDirective (s : String) : Except Fault Unit :=
  match (Text.trim s).toList.foldlM Part.next .start with
  | some (.level read) => if isLevel (.ofList read) then .ok () else .error .level
  | some .name | some .target => .ok ()
  | _ => .error .directive

def check (s : String) : Except Fault Unit :=
  if s.isEmpty then .ok () else (Text.splitOn ',' s).forM checkDirective

end LogFilter
end RequestMatching
