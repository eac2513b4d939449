import RequestMatching.Number.Binary64

/-!
# Reading numbers

Integers are digits after an optional sign. A decimal may have a point and an exponent, and there
are words for infinity and for what is no number.
-/

namespace RequestMatching

namespace Digits

def value (ds : List Char) : Nat :=
  ds.foldl (fun n d => n * 10 + (d.toNat - 48)) 0

def natural? (cs : List Char) : Option Nat :=
  if !cs.isEmpty && cs.all Char.isDigit then some (value cs) else none

/-- A natural number with an optional plus sign, below a bound. -/
def unsigned? (bound : Nat) (s : String) : Option Nat :=
  let cs := match s.toList with
    | '+' :: cs => cs
    | cs => cs
  (natural? cs).filter (· < bound)

/-- An integer with an optional sign, in the range of `bits` bits. -/
def signed? (bits : Nat) (cs : List Char) : Option Int :=
  let n : Option Int := match cs with
    | '+' :: cs => (natural? cs).map Int.ofNat
    | '-' :: cs => (natural? cs).map fun n => -Int.ofNat n
    | cs => (natural? cs).map Int.ofNat
  n.filter (fitsSigned bits)

end Digits

namespace Binary64

def exponent? : List Char → Option Int
  | [] => some 0
  | c :: cs =>
    if c = 'e' || c = 'E' then
      match cs with
      | '+' :: ds => (Digits.natural? ds).map Int.ofNat
      | '-' :: ds => (Digits.natural? ds).map fun n => -Int.ofNat n
      | ds => (Digits.natural? ds).map Int.ofNat
    else none

def unsigned? (negative : Bool) (cs : List Char) : Option Binary64 :=
  let word := cs.map Char.toLower
  if word = "inf".toList || word = "infinity".toList then some (infinite negative)
  else if word = "nan".toList then some nan
  else
    let whole := cs.takeWhile Char.isDigit
    let rest := cs.dropWhile Char.isDigit
    let (fraction, rest) := match rest with
      | '.' :: rest => (rest.takeWhile Char.isDigit, rest.dropWhile Char.isDigit)
      | rest => ([], rest)
    if whole.isEmpty && fraction.isEmpty then none
    else (exponent? rest).map fun e =>
      ofDecimal negative (Digits.value (whole ++ fraction)) (e - fraction.length)

def ofChars? : List Char → Option Binary64
  | '+' :: cs => unsigned? false cs
  | '-' :: cs => unsigned? true cs
  | cs => unsigned? false cs

end Binary64
end RequestMatching
