import RequestMatching.Text.Utf8

/-!
# Base64

The standard alphabet with padding. `decode` takes canonical texts only: the padding is complete
and the bits that no byte uses are zero.
-/

namespace RequestMatching.Base64

def digit (n : Nat) : Char :=
  if n < 26 then .ofNat (65 + n)
  else if n < 52 then .ofNat (71 + n)
  else if n < 62 then .ofNat (n - 4)
  else if n = 62 then '+'
  else '/'

def value? (b : UInt8) : Option Nat :=
  let n := b.toNat
  if 65 ≤ n && n ≤ 90 then some (n - 65)
  else if 97 ≤ n && n ≤ 122 then some (n - 71)
  else if 48 ≤ n && n ≤ 57 then some (n + 4)
  else if n == 43 then some 62
  else if n == 47 then some 63
  else none

def encodeBytes : Bytes → List Char
  | a :: b :: c :: rest =>
    let n := a.toNat * 65536 + b.toNat * 256 + c.toNat
    digit (n / 262144) :: digit (n / 4096 % 64) :: digit (n / 64 % 64) :: digit (n % 64) ::
      encodeBytes rest
  | [a, b] =>
    let n := a.toNat * 1024 + b.toNat * 4
    [digit (n / 4096), digit (n / 64 % 64), digit (n % 64), '=']
  | [a] =>
    let n := a.toNat * 16
    [digit (n / 64), digit (n % 64), '=', '=']
  | [] => []

def encode (bs : Bytes) : String :=
  .ofList (encodeBytes bs)

inductive Fault where
  | invalidByte (offset : Nat) (byte : UInt8)
  | invalidLength (length : Nat)
  | invalidLastSymbol (offset : Nat) (byte : UInt8)
  | invalidPadding
  deriving DecidableEq

def Fault.message : Fault → String
  | .invalidByte offset byte => s!"Invalid symbol {byte.toNat}, offset {offset}."
  | .invalidLength length => s!"Invalid input length: {length}"
  | .invalidLastSymbol offset byte => s!"Invalid last symbol {byte.toNat}, offset {offset}."
  | .invalidPadding => "Invalid padding"

def symbol (offset : Nat) (b : UInt8) : Except Fault Nat :=
  match value? b with
  | some n => .ok n
  | none => .error (.invalidByte offset b)

def groups (offset : Nat) : Nat → Bytes → Except Fault (Bytes × Bytes)
  | count + 1, a :: b :: c :: d :: rest => do
    let n ← symbol offset a
    let n := n * 64 + (← symbol (offset + 1) b)
    let n := n * 64 + (← symbol (offset + 2) c)
    let n := n * 64 + (← symbol (offset + 3) d)
    let (decoded, tail) ← groups (offset + 4) count rest
    .ok (.ofNat (n / 65536) :: .ofNat (n / 256) :: .ofNat n :: decoded, tail)
  | _, rest => .ok ([], rest)

/-- The symbols of the last group with the number of padding signs after them. Padding begins after
two symbols at the earliest and only padding follows it. -/
def lastGroup (offset : Nat) : Bytes → Except Fault (List (UInt8 × Nat) × Nat)
  | bytes => go 0 none bytes
where
  /-- Reads on at place `i` of the group, `padded` being the place of the first padding sign. -/
  go (i : Nat) (padded : Option Nat) : Bytes → Except Fault (List (UInt8 × Nat) × Nat)
    | [] => .ok ([], match padded with | some p => i - p | none => 0)
    | b :: rest =>
      if b.toNat = 61 then
        if i < 2 then .error (.invalidByte (offset + i) b)
        else go (i + 1) (some (padded.getD i)) rest
      else match padded with
        | some p => .error (.invalidByte (offset + p) 61)
        | none => do
          let n ← symbol (offset + i) b
          let (symbols, padding) ← go (i + 1) none rest
          .ok ((b, n) :: symbols, padding)

/-- The bytes of the last group's symbols, whose unused bits must be zero. -/
def closing (offset : Nat) : List (UInt8 × Nat) → Except Fault Bytes
  | [(_, a), (last, b)] =>
    if b % 16 = 0 then .ok [.ofNat (a * 4 + b / 16)]
    else .error (.invalidLastSymbol (offset + 1) last)
  | [(_, a), (_, b), (last, c)] =>
    if c % 4 = 0 then
      let n := a * 1024 + b * 16 + c / 4
      .ok [.ofNat (n / 256), .ofNat n]
    else .error (.invalidLastSymbol (offset + 2) last)
  | [(_, a), (_, b), (_, c), (_, d)] =>
    let n := a * 262144 + b * 4096 + c * 64 + d
    .ok [.ofNat (n / 65536), .ofNat (n / 256), .ofNat n]
  | symbols => .error (.invalidLength (offset + symbols.length))

def decodeBytes (input : Bytes) : Except Fault Bytes := do
  let length := input.length
  if length = 0 then return []
  let rest := length % 4
  match input.getLast? with
  | some b =>
    if rest = 1 && b.toNat != 61 then
      let _ ← symbol (length - 1) b
  | none => pure ()
  let count := if rest = 0 then length / 4 - 1 else length / 4
  let (decoded, tail) ← groups 0 count input
  let offset := count * 4
  let (symbols, padding) ← lastGroup offset tail
  if symbols.length < 2 then throw (.invalidLength (offset + symbols.length))
  if (symbols.length + padding) % 4 ≠ 0 then throw .invalidPadding
  return decoded ++ (← closing offset symbols)

def decode (s : String) : Except Fault Bytes :=
  decodeBytes (Utf8.encode s)

end RequestMatching.Base64
