import RequestMatching.Expectation.Basic

/-!
# Random stamps

Identifiers of expectations that bring none: 32 hexadecimal digits in five groups, of which one digit
tells the version 4 and one the variant of universally unique identifiers.
-/

namespace RequestMatching
namespace Stamp

def hexDigits : Nat → Nat → List Char
  | 0, _ => []
  | n + 1, k => hexDigits n (k / 16) ++ [Nat.digitChar (k % 16)]

def identifier (draw : Nat) : String :=
  let group (places above : Nat) := String.ofList (hexDigits places (draw / twoTo (4 * above)))
  let variant := Nat.digitChar (8 + draw / twoTo 60 % 4)
  s!"{group 8 24}-{group 4 20}-4{group 3 16}-{variant}{group 3 12}-{group 12 0}"

def series (now : CivilTime) (draw : Nat) (i : Nat) : Stamp :=
  ⟨identifier (draw + i), now⟩

end Stamp
end RequestMatching
