import RequestMatching.Config.Basic

/-!
# Arguments of the command line

Options have a long and a short name; a value follows an option directly, after an equals sign, or as
the next argument. An option may be given once.
-/

namespace RequestMatching
namespace Check

structure Options where
  expectations : String
  request : String
  config : Option String
  /-- Whether all expectations that match are wanted, and not only the first. -/
  all : Bool

inductive Command where
  | run (o : Options)
  | help
  | version

def filesOf : Option Command → List String
  | some (.run o) => o.config.toList ++ [o.expectations, o.request]
  | _ => []

inductive ValueOption where
  | expectations
  | request
  | config
  deriving DecidableEq

inductive Switch where
  | withValue (o : ValueOption)
  | all
  | help
  | version

def longNames : List (String × Switch) :=
  [("expectations", .withValue .expectations), ("request", .withValue .request),
   ("config", .withValue .config), ("all", .all), ("help", .help), ("version", .version)]

def shortNames : List (Char × Switch) :=
  [('e', .withValue .expectations), ('r', .withValue .request), ('c', .withValue .config),
   ('a', .all), ('h', .help), ('V', .version)]

def configVariable : String :=
  "MOCK_MATCHER_CONFIG"

def logVariable : String :=
  "RUST_LOG"

def variableNames : List String :=
  configVariable :: logVariable :: Config.overrides.map (·.name)

structure Given where
  values : List (ValueOption × String) := []
  all : Bool := false

namespace Given

/-- Takes a value, which may not be empty, for an option that has none yet. -/
def take (g : Given) (o : ValueOption) (value : String) : Option Given :=
  if value.isEmpty || (g.values.lookup o).isSome then none
  else some { g with values := (o, value) :: g.values }

def takeAll (g : Given) : Option Given :=
  if g.all then none else some { g with all := true }

def finish (env : Config.Environment) (g : Given) : Option Command := do
  let config := (g.values.lookup .config).or (env configVariable)
  if config = some "" then none
  let expectations ← g.values.lookup .expectations
  let request ← g.values.lookup .request
  return .run ⟨expectations, request, config, g.all⟩

end Given

/-- What an argument leads to: to more arguments, to a value for an option, or to a command. -/
inductive Step where
  | more (g : Given)
  | pending (g : Given) (o : ValueOption)
  | done (c : Command)

def readLong (g : Given) (name : String) (value : Option String) : Option Step :=
  match longNames.lookup name, value with
  | some (.withValue o), some v => (g.take o v).map .more
  | some (.withValue o), none => some (.pending g o)
  | some .all, none => g.takeAll.map .more
  | some .help, none => some (.done .help)
  | some .version, none => some (.done .version)
  | _, _ => none

def readShort (g : Given) : List Char → Option Step
  | [] => some (.more g)
  | c :: cs =>
    match shortNames.lookup c with
    | some (.withValue o) =>
      match cs with
      | [] => some (.pending g o)
      | '=' :: v => (g.take o (.ofList v)).map .more
      | v => (g.take o (.ofList v)).map .more
    | some .all => g.takeAll.bind fun g => readShort g cs
    | some .help => some (.done .help)
    | some .version => some (.done .version)
    | none => none

def readArgument (g : Given) (arg : String) : Option Step :=
  match arg.toList with
  | '-' :: '-' :: cs =>
    match Text.cutChars '=' cs with
    | some (name, value) => readLong g (.ofList name) (some (.ofList value))
    | none => readLong g (.ofList cs) none
  | '-' :: c :: cs => readShort g (c :: cs)
  | _ => none

def isValue (arg : String) : Bool :=
  arg = "-" || arg.toList.head? ≠ some '-'

/-- Reads arguments; `pending` waits for its value. -/
def readArguments (env : Config.Environment) :
    Given → Option ValueOption → List String → Option Command
  | g, none, [] => g.finish env
  | _, some _, [] => none
  | g, some o, arg :: rest =>
    if isValue arg then do
      let g ← g.take o arg
      readArguments env g none rest
    else none
  | g, none, arg :: rest =>
    if arg = "--" then (if rest.isEmpty then g.finish env else none)
    else
      match readArgument g arg with
      | some (.more g) => readArguments env g none rest
      | some (.pending g o) => readArguments env g (some o) rest
      | some (.done c) => some c
      | none => none

def Command.ofArguments (env : Config.Environment) (args : List String) : Option Command :=
  readArguments env {} none args

/-! ## Texts -/

def usage : String :=
  "Usage: mock-matcher-check [OPTIONS] --expectations <EXPECTATIONS> --request <REQUEST>\n"

def versionText : String :=
  "mock-matcher-check 0.1.0\n"

def helpText (env : Config.Environment) : String :=
  "Expectation matching engine for programmable HTTP mock servers: nottable patterns, subset " ++
  "containment, body matchers and a bounded priority store.\n\n" ++ usage ++
  "\nOptions:\n" ++
  "  -e, --expectations <EXPECTATIONS>\n" ++
  "          JSON file holding one expectation or a list of expectations\n" ++
  "  -r, --request <REQUEST>\n" ++
  "          JSON file holding the request to match\n" ++
  "  -c, --config <CONFIG>\n" ++
  "          Matcher configuration (YAML or JSON) [env: " ++ configVariable ++ "=" ++
  (env configVariable).getD "" ++ "]\n" ++
  "  -a, --all\n" ++
  "          Report every matching expectation instead of the first\n" ++
  "  -h, --help\n" ++
  "          Print help\n" ++
  "  -V, --version\n" ++
  "          Print version\n"

end Check
end RequestMatching
