import RequestMatching.Number.Power

/-!
# Binary floating point numbers

Every finite double-precision number is a whole number of units of 2^-1074, so a number is a sign
and a count of units, and arithmetic is exact arithmetic followed by one rounding.
-/

namespace RequestMatching

/-- A double-precision number. A finite one is `units` times 2^-1074 with its sign. -/
inductive Binary64 where
  | nan
  | infinite (negative : Bool)
  | finite (negative : Bool) (units : Nat)
  deriving DecidableEq

namespace Binary64

def unitsPerOne : Nat := twoTo 1074

def roundDiv (num den : Nat) : Nat :=
  let q := num / den
  let r := num % den
  if 2 * r > den || (2 * r == den && q % 2 == 1) then q + 1 else q

/-- The count of units nearest to `num / den` that has at most 53 significant bits, a tie going to
the even one. -/
def roundUnits (num den : Nat) : Nat :=
  let excess := (num / den).log2 + 1 - 53
  roundDiv num (den * twoTo excess) * twoTo excess

/-- The number of a count of units given as a fraction; too large a count is infinite. -/
def ofUnits (negative : Bool) (num den : Nat) : Binary64 :=
  let u := roundUnits num den
  if u < twoTo 2098 then finite negative u else infinite negative

def ofFraction (negative : Bool) (num den : Nat) : Binary64 :=
  ofUnits negative (num * unitsPerOne) den

def ofNat (n : Nat) : Binary64 :=
  ofFraction false n 1

def ofInt (i : Int) : Binary64 :=
  ofFraction (i < 0) i.natAbs 1

/-- The number nearest to `digits` times ten to the power `exponent`. Beyond these exponents the
result is zero or infinite. -/
def ofDecimal (negative : Bool) (digits : Nat) (exponent : Int) : Binary64 :=
  if digits = 0 then finite negative 0
  else if exponent > 400 then infinite negative
  else if exponent ≥ 0 then ofFraction negative (digits * tenTo exponent.toNat) 1
  else if digits.log2 < 3 * (-(exponent + 400)).toNat then finite negative 0
  else ofFraction negative digits (tenTo (-exponent).toNat)

def zero : Binary64 := finite false 0

def neg : Binary64 → Binary64
  | nan => nan
  | infinite s => infinite (!s)
  | finite s u => finite (!s) u

def signedUnits (negative : Bool) (units : Nat) : Int :=
  if negative then -units else units

def add : Binary64 → Binary64 → Binary64
  | nan, _ | _, nan => nan
  | infinite s, infinite t => if s = t then infinite s else nan
  | infinite s, _ => infinite s
  | _, infinite t => infinite t
  | finite s u, finite t v =>
    let sum := signedUnits s u + signedUnits t v
    if sum = 0 then finite (s && t) 0 else ofUnits (sum < 0) sum.natAbs 1

def sub (a b : Binary64) : Binary64 :=
  add a b.neg

def mul : Binary64 → Binary64 → Binary64
  | nan, _ | _, nan => nan
  | infinite s, infinite t => infinite (xor s t)
  | infinite s, finite t v => if v = 0 then nan else infinite (xor s t)
  | finite s u, infinite t => if u = 0 then nan else infinite (xor s t)
  | finite s u, finite t v => ofUnits (xor s t) (u * v) unitsPerOne

def div : Binary64 → Binary64 → Binary64
  | nan, _ | _, nan => nan
  | infinite _, infinite _ => nan
  | infinite s, finite t _ => infinite (xor s t)
  | finite s _, infinite t => finite (xor s t) 0
  | finite s u, finite t v =>
    if v = 0 then (if u = 0 then nan else infinite (xor s t))
    else ofUnits (xor s t) (u * unitsPerOne) v

/-- The remainder of division towards zero, with the sign of the dividend. -/
def rem : Binary64 → Binary64 → Binary64
  | nan, _ | _, nan | infinite _, _ => nan
  | finite s u, infinite _ => finite s u
  | finite s u, finite _ v => if v = 0 then nan else finite s (u % v)

def floor : Binary64 → Binary64
  | finite s u =>
    let whole := u / unitsPerOne
    let whole := if s && u % unitsPerOne != 0 then whole + 1 else whole
    finite s (whole * unitsPerOne)
  | x => x

def ceil (x : Binary64) : Binary64 :=
  x.neg.floor.neg

/-- Numeric equality: the zeros are equal and nothing equals `nan`. -/
def eq : Binary64 → Binary64 → Bool
  | nan, _ | _, nan => false
  | infinite s, infinite t => s == t
  | infinite _, finite .. | finite .., infinite _ => false
  | finite s u, finite t v => signedUnits s u == signedUnits t v

def lt : Binary64 → Binary64 → Bool
  | nan, _ | _, nan => false
  | infinite s, infinite t => s && !t
  | infinite s, finite .. => s
  | finite .., infinite t => !t
  | finite s u, finite t v => signedUnits s u < signedUnits t v

def le (a b : Binary64) : Bool :=
  lt a b || eq a b

def isNaN (x : Binary64) : Bool :=
  x = nan

end Binary64
end RequestMatching
