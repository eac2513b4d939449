import RequestMatching.Check.Run
import RequestMatching.Expectation.Stamp
import Std.Time.DateTime.Timestamp

/-!
# The program `mock-matcher-check`

Gathers what `Check.run` looks at, and prints what it leaves behind.
-/

namespace RequestMatching

def readEnvironment : IO Config.Environment := do
  let values ← Check.variableNames.filterMapM fun name => do
    return (← IO.getEnv name).map fun value => (name, value)
  return fun name => values.lookup name

def readFiles (names : List String) : IO Check.Files := do
  let texts ← names.filterMapM fun (name : String) => do
    try
      return some (name, ← IO.FS.readFile name)
    catch _ =>
      return none
  return fun name => texts.lookup name

def readClock : IO CivilTime := do
  let passed := (← Std.Time.Timestamp.now).toDurationSinceUnixEpoch
  return { (CivilTime.ofDays 0).addSeconds passed.second.val with nanos := passed.nano.val.toNat }

def drawNumber : IO Nat := do
  return (← IO.getRandomBytes 16).foldl (fun n b => n * 256 + b.toNat) 0

def conclude (o : Check.Outcome) : IO UInt32 := do
  IO.print o.output
  if let some f := o.failure then
    IO.eprintln s!"Error: {f.message}"
    if let some cause := f.cause then
      IO.eprintln s!"\nCaused by:\n    {cause}"
  else if o.exit = 2 then
    IO.eprint Check.usage
  return o.exit.toUInt32

end RequestMatching

open RequestMatching in
def main (args : List String) : IO UInt32 := do
  let env ← readEnvironment
  let files ← readFiles (Check.filesOf (Check.Command.ofArguments env args))
  conclude (Check.run env files (Stamp.series (← readClock) (← drawNumber)) args)
