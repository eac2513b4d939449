/-!
# Powers and widths

A power of two counts the numbers of a width in bits; half of them are negative where there is a
sign. A power of ten moves the point of a decimal.
-/

namespace RequestMatching

def twoTo (n : Nat) : Nat := Nat.pow 2 n

def tenTo (n : Nat) : Nat := Nat.pow 10 n

def leastSigned (bits : Nat) : Int := -(twoTo (bits - 1) : Int)

def greatestSigned (bits : Nat) : Int := twoTo (bits - 1) - 1

def fitsSigned (bits : Nat) (i : Int) : Bool :=
  leastSigned bits ≤ i && i ≤ greatestSigned bits

end RequestMatching
