/-!
# UTF-8

Texts and their bytes. `decode?` accepts well-formed bytes only; `decodeLossy` puts U+FFFD in the
place of each longest stretch of bytes that starts a character without finishing one.
-/

namespace RequestMatching

abbrev Bytes := List UInt8

namespace Utf8

def encodeChar (c : Char) : Bytes :=
  let n := c.toNat
  let tail (k : Nat) : UInt8 := .ofNat (0x80 + n / k % 64)
  if n < 0x80 then [.ofNat n]
  else if n < 0x800 then [.ofNat (0xC0 + n / 64), tail 1]
  else if n < 0x10000 then [.ofNat (0xE0 + n / 4096), tail 64, tail 1]
  else [.ofNat (0xF0 + n / 262144), tail 4096, tail 64, tail 1]

def encode (s : String) : Bytes :=
  s.toList.flatMap encodeChar

/-- What a first byte announces: how many bytes follow, the range of the next one, and the bits
it contributes. -/
structure Lead where
  follow : Nat
  low : Nat
  high : Nat
  bits : Nat

def lead? (b : Nat) : Option Lead :=
  if 0xC2 ≤ b && b ≤ 0xDF then some ⟨1, 0x80, 0xBF, b - 0xC0⟩
  else if b == 0xE0 then some ⟨2, 0xA0, 0xBF, 0⟩
  else if b == 0xED then some ⟨2, 0x80, 0x9F, 0xD⟩
  else if 0xE1 ≤ b && b ≤ 0xEF then some ⟨2, 0x80, 0xBF, b - 0xE0⟩
  else if b == 0xF0 then some ⟨3, 0x90, 0xBF, 0⟩
  else if b == 0xF4 then some ⟨3, 0x80, 0x8F, 4⟩
  else if 0xF1 ≤ b && b ≤ 0xF3 then some ⟨3, 0x80, 0xBF, b - 0xF0⟩
  else none

/-- The following bytes of a character: its number and how many bytes it took, or how many bytes
were right before the first wrong one. -/
def follow (bits : Nat) : Nat → Nat → Nat → Bytes → Except Nat (Nat × Nat)
  | 0, _, _, _ => .ok (bits, 0)
  | _ + 1, _, _, [] => .error 0
  | k + 1, low, high, b :: bs =>
    if low ≤ b.toNat && b.toNat ≤ high then
      match follow (bits * 64 + b.toNat % 64) k 0x80 0xBF bs with
      | .ok (n, taken) => .ok (n, taken + 1)
      | .error taken => .error (taken + 1)
    else .error 0

/-- The characters of a byte list, `none` standing for a malformed stretch. The first argument
counts the bytes that belong to the character before. -/
def scan : Nat → Bytes → List (Option Char)
  | _, [] => []
  | skip + 1, _ :: bs => scan skip bs
  | 0, b :: bs =>
    if b.toNat < 0x80 then some (Char.ofNat b.toNat) :: scan 0 bs
    else match lead? b.toNat with
      | none => none :: scan 0 bs
      | some l =>
        match follow l.bits l.follow l.low l.high bs with
        | .ok (n, taken) => some (Char.ofNat n) :: scan taken bs
        | .error taken => none :: scan taken bs

def decode? (bs : Bytes) : Option String :=
  ((scan 0 bs).mapM id).map .ofList

/-- The text of any bytes, with U+FFFD for what is malformed. -/
def decodeLossy (bs : Bytes) : String :=
  .ofList ((scan 0 bs).map (·.getD '\uFFFD'))

def size (s : String) : Nat :=
  (encode s).length

end Utf8
end RequestMatching
