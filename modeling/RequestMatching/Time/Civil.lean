/-!
# Civil time

Dates of the proleptic Gregorian calendar and times of day, with their distance in seconds from the
beginning of 1970.
-/

namespace RequestMatching

/-- A date and a time of day. `second` may be 60, and `nanos` counts billionths of it. -/
structure CivilTime where
  year : Int
  month : Nat
  day : Nat
  hour : Nat := 0
  minute : Nat := 0
  second : Nat := 0
  nanos : Nat := 0
  deriving DecidableEq

namespace CivilTime

def isLeap (year : Int) : Bool :=
  year % 4 = 0 && (year % 100 ≠ 0 || year % 400 = 0)

def daysIn (year : Int) (month : Nat) : Nat :=
  if month = 2 then (if isLeap year then 29 else 28)
  else if month = 4 || month = 6 || month = 9 || month = 11 then 30
  else 31

def firstYear : Int := -262143
def lastYear : Int := 262142

def hasDate (t : CivilTime) : Bool :=
  firstYear ≤ t.year && t.year ≤ lastYear && 1 ≤ t.month && t.month ≤ 12 &&
    1 ≤ t.day && t.day ≤ daysIn t.year t.month

def hasTime (t : CivilTime) : Bool :=
  t.hour < 24 && t.minute < 60 && t.second ≤ 60

/-- The number of days from the beginning of the calendar's cycle in March of year 0 to the date,
with 1970 as the origin. -/
def days (t : CivilTime) : Int :=
  let y := if t.month ≤ 2 then t.year - 1 else t.year
  let m : Int := (t.month + 9) % 12
  365 * y + y.fdiv 4 - y.fdiv 100 + y.fdiv 400 + (153 * m + 2) / 5 + t.day - 1 - 719468

def ofDays (n : Int) : CivilTime :=
  let z := n + 719468
  let era := z.fdiv 146097
  let doe := (z - era * 146097).toNat
  let yoe := (doe - doe / 1460 + doe / 36524 - doe / 146096) / 365
  let doy := doe - (365 * yoe + yoe / 4 - yoe / 100)
  let mp := (5 * doy + 2) / 153
  let day := doy - (153 * mp + 2) / 5 + 1
  let month := if mp < 10 then mp + 3 else mp - 9
  let year : Int := yoe + era * 400 + if month ≤ 2 then 1 else 0
  { year, month, day }

/-- The time moved by a number of seconds. A second 60 counts as the one before it, and stays. -/
def addSeconds (t : CivilTime) (n : Int) : CivilTime :=
  let leap := t.second = 60
  let second := if leap then 59 else t.second
  let total := t.days * 86400 + (t.hour * 3600 + t.minute * 60 + second : Nat) + n
  let day := total.fdiv 86400
  let rest := (total - day * 86400).toNat
  let s := rest % 60
  { ofDays day with
    hour := rest / 3600
    minute := rest / 60 % 60
    second := if leap then s + 1 else s
    nanos := t.nanos }

def order (a b : CivilTime) : Ordering :=
  (compare a.year b.year).then <| (compare a.month b.month).then <| (compare a.day b.day).then <|
    (compare a.hour b.hour).then <| (compare a.minute b.minute).then <|
      (compare a.second b.second).then (compare a.nanos b.nanos)

instance : Ord CivilTime :=
  ⟨order⟩

def padded (width n : Nat) : String :=
  let ds := Nat.toDigits 10 n
  .ofList (List.replicate (width - ds.length) '0' ++ ds)

/-- The year with four digits, or with its sign where four do not do. -/
def yearText (year : Int) : String :=
  if 0 ≤ year && year ≤ 9999 then padded 4 year.toNat
  else (if year < 0 then "-" else "+") ++ padded 4 year.natAbs

def fractionText (nanos : Nat) : String :=
  if nanos = 0 then ""
  else if nanos % 1000000 = 0 then "." ++ padded 3 (nanos / 1000000)
  else if nanos % 1000 = 0 then "." ++ padded 6 (nanos / 1000)
  else "." ++ padded 9 nanos

def text (t : CivilTime) : String :=
  yearText t.year ++ "-" ++ padded 2 t.month ++ "-" ++ padded 2 t.day ++ "T" ++
    padded 2 t.hour ++ ":" ++ padded 2 t.minute ++ ":" ++ padded 2 t.second ++
    fractionText t.nanos ++ "Z"

end CivilTime
end RequestMatching
