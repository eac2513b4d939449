import RequestMatching.Text.Utf8

/-!
# Percent encoding

`%XX` stands for one byte; a percent sign without two hex digits stands for itself. The text of the
bytes is taken only if they are well-formed UTF-8.
-/

namespace RequestMatching

def hexValue? (c : Char) : Option Nat :=
  if '0' ≤ c && c ≤ '9' then some (c.toNat - 48)
  else if 'a' ≤ c && c ≤ 'f' then some (c.toNat - 87)
  else if 'A' ≤ c && c ≤ 'F' then some (c.toNat - 55)
  else none

namespace Percent

def bytes : List Char → Bytes
  | '%' :: a :: b :: cs =>
    match hexValue? a, hexValue? b with
    | some x, some y => .ofNat (x * 16 + y) :: bytes cs
    | _, _ => Utf8.encodeChar '%' ++ bytes (a :: b :: cs)
  | c :: cs => Utf8.encodeChar c ++ bytes cs
  | [] => []

def decode? (s : String) : Option String :=
  Utf8.decode? (bytes s.toList)

end Percent
end RequestMatching
