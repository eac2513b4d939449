import RequestMatching.Number.Reader
import RequestMatching.Text.Blank
import RequestMatching.Time.Civil

/-!
# Reading dates and times

A lenient form takes white space before each number and fewer digits than it could; a strict one
takes exactly the digits that there should be. The first thing that is wrong is the fault.
-/

namespace RequestMatching

inductive DateFault where
  | tooShort
  | tooLong
  | invalid
  | outOfRange
  | impossible
  deriving DecidableEq

def DateFault.message : DateFault → String
  | tooShort => "premature end of input"
  | tooLong => "trailing input"
  | invalid => "input contains invalid characters"
  | outOfRange => "input is out of range"
  | impossible => "no possible date and time matching input"

namespace CivilTime

abbrev Reader (α : Type) := List Char → Except DateFault (α × List Char)

def readDigits (least : Nat) (most : Option Nat) : Reader Nat := fun cs =>
  let ds := match most with
    | some n => (cs.take n).takeWhile Char.isDigit
    | none => cs.takeWhile Char.isDigit
  if least ≤ ds.length then .ok (Digits.value ds, cs.drop ds.length)
  else .error (if cs.length < least then .tooShort else .invalid)

def skipChar (c : Char) : List Char → Except DateFault (List Char)
  | d :: cs => if d = c then .ok cs else .error .invalid
  | [] => .error .tooShort

def skipSpace (cs : List Char) : List Char :=
  cs.dropWhile isSpace

def skipMark : List Char → Except DateFault (List Char)
  | c :: cs => if c = 't' || c = 'T' || c = ' ' then .ok cs else .error .invalid
  | [] => .error .tooShort

def within (low high : Int) (n : Int) : Except DateFault Int :=
  if low ≤ n && n ≤ high then .ok n else .error .outOfRange

def readNumber (low high : Nat) : Reader Nat := fun cs => do
  let (n, cs) ← readDigits 1 (some 2) (skipSpace cs)
  let n ← within low high n
  return (n.toNat, cs)

/-- A year after white space: with a sign it may have any number of digits. -/
def readYear : Reader Int := fun cs => do
  let (year, cs) ← match skipSpace cs with
    | '-' :: cs => (readDigits 1 none cs).map fun (n, rest) => (-(n : Int), rest)
    | '+' :: cs => (readDigits 1 none cs).map fun (n, rest) => ((n : Int), rest)
    | cs => (readDigits 1 (some 4) cs).map fun (n, rest) => ((n : Int), rest)
  let year ← within (leastSigned 32) (greatestSigned 32) year
  return (year, cs)

/-- A fraction of a second in nanoseconds; digits beyond the ninth do not matter. -/
def readFraction : Reader Nat := fun cs =>
  match cs with
  | '.' :: cs => do
    let (_, rest) ← readDigits 1 none cs
    let used := (cs.takeWhile Char.isDigit).take 9
    return (Digits.value used * tenTo (9 - used.length), rest)
  | cs => .ok (0, cs)

/-- A date in the lenient form; with `spaced` there may be white space before the hyphens too. It
need not be one that there is. -/
def readDate (spaced : Bool) : Reader CivilTime := fun cs => do
  let gap (cs : List Char) : List Char := if spaced then skipSpace cs else cs
  let (year, cs) ← readYear cs
  let (month, cs) ← readNumber 1 12 (← skipChar '-' (gap cs))
  let (day, cs) ← readNumber 1 31 (← skipChar '-' (gap cs))
  return ({ year, month, day }, cs)

def readTime (spaced : Bool) (t : CivilTime) : Reader CivilTime := fun cs => do
  let gap (cs : List Char) : List Char := if spaced then skipSpace cs else cs
  let (hour, cs) ← readNumber 0 23 cs
  let (minute, cs) ← readNumber 0 59 (← skipChar ':' (gap cs))
  let (second, cs) ← readNumber 0 60 (← skipChar ':' (gap cs))
  let (nanos, cs) ← readFraction cs
  return ({ t with hour, minute, second, nanos }, gap cs)

/-- Exactly two digits, the first of which may be at most `most`. -/
def readPair (most : Char) : Reader Nat
  | a :: b :: cs =>
    if !a.isDigit || !b.isDigit then .error .invalid
    else if a ≤ most then .ok (Digits.value [a, b], cs)
    else .error .outOfRange
  | [c] => .error (if c.toNat < 128 then .tooShort else .invalid)
  | [] => .error .tooShort

/-- An offset from the prime meridian in seconds. With `loose` there may be white space or nothing
in place of the colon. -/
def readOffset (loose : Bool) : Reader Int := fun cs =>
  match cs with
  | [] => .error .tooShort
  | c :: cs => do
    if c = 'Z' || c = 'z' then return (0, cs)
    if c ≠ '+' && c ≠ '-' && c ≠ '\u2212' then throw .invalid
    let (hours, cs) ← readPair '9' cs
    let cs ← if loose then pure (cs.dropWhile fun c => c = ':' || isSpace c) else skipChar ':' cs
    let (minutes, cs) ← readPair '5' cs
    let seconds : Int := hours * 3600 + minutes * 60
    return (if c = '+' then seconds else -seconds, cs)

def existing (t : CivilTime) : Except DateFault CivilTime :=
  if t.hasDate then .ok t else .error .outOfRange

def finish (cs : List Char) : Except DateFault Unit :=
  if cs.isEmpty then .ok () else .error .tooLong

def atMeridian (t : CivilTime) (offset : Int) : Except DateFault CivilTime := do
  let t ← existing t
  if offset.natAbs ≥ 86400 then throw .outOfRange
  let moved := t.addSeconds (-offset)
  if moved.hasDate then return moved else throw .impossible

def ofDateText (cs : List Char) : Except DateFault CivilTime := do
  let (t, cs) ← readDate false cs
  finish cs
  existing t

def ofLocalText (cs : List Char) : Except DateFault CivilTime := do
  let (t, cs) ← readDate false cs
  let (t, cs) ← readTime false t (← skipChar 'T' cs)
  finish cs
  existing t

def ofStrictText (cs : List Char) : Except DateFault CivilTime := do
  let two : Reader Nat := readDigits 2 (some 2)
  let (year, cs) ← readDigits 4 (some 4) cs
  let (month, cs) ← two (← skipChar '-' cs)
  let (day, cs) ← two (← skipChar '-' cs)
  let (hour, cs) ← two (← skipMark cs)
  let (minute, cs) ← two (← skipChar ':' cs)
  let (second, cs) ← two (← skipChar ':' cs)
  let (nanos, cs) ← readFraction cs
  let (offset, cs) ← readOffset false cs
  finish cs
  let t : CivilTime := { year, month, day, hour, minute, second, nanos }
  if t.hasTime then t.atMeridian offset else throw .outOfRange

def ofLooseText (cs : List Char) : Except DateFault CivilTime := do
  let (t, cs) ← readDate true cs
  let (t, cs) ← readTime true t (← skipMark cs)
  let (offset, cs) ←
    if (cs.take 3).map Char.toLower = "utc".toList then pure (0, cs.drop 3) else readOffset true cs
  finish (skipSpace cs)
  t.atMeridian offset

end CivilTime
end RequestMatching
