import RequestMatching.Check.LogFilter
import RequestMatching.Check.Options

/-!
# Checking a request

Which expectations of a file match the request of another file, and why not if none does.
-/

namespace RequestMatching
namespace Check

structure Failure where
  message : String
  cause : Option String := none

structure Outcome where
  exit : Nat
  output : String := ""
  failure : Option Failure := none

/-- The files by their names; `none` stands for one that cannot be read. -/
abbrev Files := String → Option String

def green : String := "\x1b[32m"
def red : String := "\x1b[31m"
def dim : String := "\x1b[2m"
def plain : String := "\x1b[0m"

def during {α : Type} (doing : String) (r : Except LoadError α) : Except Failure α :=
  r.mapError fun e => ⟨doing, some e.message⟩

def readFile (files : Files) (path : String) : Except Failure String :=
  match files path with
  | some text => .ok text
  | none => .error ⟨"reading " ++ path, none⟩

/-- Checks that something can be logged: what the variable says wins over the configured level. -/
def checkLogging (env : Config.Environment) (c : Config) : Except Failure Unit :=
  if (env logVariable).any fun s => (LogFilter.check s).isOk then .ok ()
  else (LogFilter.check c.logLevel).mapError fun f => ⟨f.message, none⟩

def loadConfig (env : Config.Environment) (files : Files) (o : Options) :
    Except Failure Config := do
  let c ← match o.config with
    | some path => during ("loading config " ++ path) (Config.ofFile path (files path))
    | none => pure {}
  let (c, result) := c.override env
  (result.bind fun _ => c.validate).mapError fun e => ⟨e.message, none⟩
  checkLogging env c
  return c

def matchedText (e : Expectation) : String :=
  green ++ "Matched" ++ plain ++ s!" {e.id} (priority {e.priority})\n" ++
    if e.action.isNull then "" else e.action.pretty 0 ++ "\n"

def rejectedText (r : Registry) (request : HttpRequest) (e : Expectation) : String :=
  match (r.explain e.id request).bind (·.diagnostics) with
  | some d => "\n" ++ dim ++ e.id ++ ":" ++ plain ++ "\n" ++ d.report ++ "\n"
  | none => ""

def report (r : Registry) (request : HttpRequest) (all : Bool) : Outcome :=
  let loaded := dim ++ s!"Loaded {r.size} expectation(s)" ++ plain ++ "\n"
  let found := if all then r.allMatches request else (r.firstMatch request).1.toList
  if found.isEmpty then
    { exit := 1
      output := loaded ++ red ++ "No expectation matched" ++ plain ++ " " ++ request.text ++ "\n" ++
        String.join (r.expectations.map (rejectedText r request)) }
  else
    { exit := 0
      output := loaded ++ String.join (found.map fun m => matchedText m.expectation) }

def check (env : Config.Environment) (files : Files) (stamps : Nat → Stamp) (o : Options) :
    Except Failure Outcome := do
  let c ← loadConfig env files o
  let text ← readFile files o.expectations
  let expectations ← during ("parsing " ++ o.expectations) (Expectation.parseAll stamps text)
  let text ← readFile files o.request
  let request ← during ("parsing " ++ o.request)
    ((HttpRequest.decoder.ofText text).mapError fun e => .malformed "json" e.message)
  let r ← (c.registry.addAll expectations).mapError fun e => ⟨e.message, none⟩
  return report r request o.all

def run (env : Config.Environment) (files : Files) (stamps : Nat → Stamp) (args : List String) :
    Outcome :=
  match Command.ofArguments env args with
  | none => { exit := 2 }
  | some .help => { exit := 0, output := helpText env }
  | some .version => { exit := 0, output := versionText }
  | some (.run o) =>
    match check env files stamps o with
    | .ok outcome => outcome
    | .error failure => { exit := 1, failure := some failure }

end Check
end RequestMatching
