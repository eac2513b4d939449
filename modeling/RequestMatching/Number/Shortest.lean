import RequestMatching.Number.Binary64

/-!
# Shortest decimals

The digits of a number are the fewest that read back as the same number; among those of the same
count the nearest ones are taken. `DecimalLayout` says how digits are laid out as text.
-/

namespace RequestMatching

structure Decimal where
  digits : Nat
  exponent : Int
  deriving DecidableEq

namespace Decimal

def units (d : Decimal) : Nat × Nat :=
  if d.exponent ≥ 0 then (d.digits * tenTo d.exponent.toNat * Binary64.unitsPerOne, 1)
  else (d.digits * Binary64.unitsPerOne, tenTo (-d.exponent).toNat)

def readsAs (d : Decimal) (units : Nat) : Bool :=
  let (num, den) := d.units
  Binary64.roundUnits num den == units

def distance (d : Decimal) (units : Nat) : Nat × Nat :=
  let (num, den) := d.units
  ((num : Int) - (units * den : Nat)).natAbs |> (·, den)

/-- The decimal on the grid of `exponent` next to a count of units, if one reads back: the lower
neighbour unless the upper one is nearer. -/
def onGrid (units : Nat) (exponent : Int) : Option Decimal :=
  let whole :=
    if exponent ≥ 0 then units / (Binary64.unitsPerOne * tenTo exponent.toNat)
    else units * tenTo (-exponent).toNat / Binary64.unitsPerOne
  let low : Decimal := ⟨whole, exponent⟩
  let high : Decimal := ⟨whole + 1, exponent⟩
  match low.readsAs units, high.readsAs units with
  | true, true =>
    let (a, _) := low.distance units
    let (b, _) := high.distance units
    some (if b < a || (b = a && whole % 2 = 1) then high else low)
  | true, false => some low
  | false, true => some high
  | false, false => none

/-- The first grid, from the coarse one at `exponent` on, that has a decimal which reads back. -/
def firstGrid (units : Nat) : Nat → Int → Option Decimal
  | 0, _ => none
  | fuel + 1, exponent => (onGrid units exponent).or (firstGrid units fuel (exponent - 1))

def dropZeros : Nat → Decimal → Decimal
  | 0, d => d
  | fuel + 1, d =>
    if d.digits ≠ 0 && d.digits % 10 = 0 then dropZeros fuel ⟨d.digits / 10, d.exponent + 1⟩ else d

/-- The shortest decimal that reads back as a count of units. The search begins at the power of ten
above the number and needs 17 digits at most. -/
def shortest (units : Nat) : Decimal :=
  if units = 0 then ⟨0, 0⟩
  else
    let whole := units / Binary64.unitsPerOne
    let top : Int :=
      if whole > 0 then (Nat.toDigits 10 whole).length
      else
        let places := (Nat.toDigits 10 (Binary64.unitsPerOne / units)).length
        1 - (places : Int)
    let d := (firstGrid units 20 top).getD ⟨0, 0⟩
    dropZeros 20 d

end Decimal

structure DecimalLayout where
  /-- The least and the greatest exponent of the first digit that are written positionally. -/
  least : Int
  greatest : Int
  /-- Whether a whole number ends in `.0`. -/
  keepPoint : Bool
  /-- The texts of infinity and of what is no number. -/
  infinity : String
  nan : String

namespace DecimalLayout

def positional (keepPoint : Bool) (digits : List Char) (before : Int) : List Char :=
  let count : Int := digits.length
  if before ≤ 0 then '0' :: '.' :: (List.replicate (-before).toNat '0' ++ digits)
  else if count ≤ before then
    digits ++ List.replicate (before - count).toNat '0' ++ (if keepPoint then ['.', '0'] else [])
  else digits.take before.toNat ++ '.' :: digits.drop before.toNat

def scientific (digits : List Char) (exponent : Int) : List Char :=
  let sign := if exponent < 0 then '-' else '+'
  let power := 'e' :: sign :: Nat.toDigits 10 exponent.natAbs
  match digits with
  | [] => power
  | [d] => d :: power
  | d :: ds => d :: '.' :: ds ++ power

def text (l : DecimalLayout) : Binary64 → String
  | .nan => l.nan
  | .infinite s => (if s then "-" else "") ++ l.infinity
  | .finite s u =>
    let d := Decimal.shortest u
    let digits := Nat.toDigits 10 d.digits
    let first : Int := d.exponent + digits.length - 1
    let body :=
      if u = 0 || (l.least ≤ first && first ≤ l.greatest) then positional l.keepPoint digits (first + 1)
      else scientific digits first
    .ofList ((if s then ['-'] else []) ++ body)

end DecimalLayout
end RequestMatching
