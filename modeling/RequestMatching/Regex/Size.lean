import RequestMatching.Regex.CharSet

/-!
# The size of compiled expressions

The engine compiles an expression into two automata over the bytes of a text, one that reads forward and
one that reads backward, and refuses it if one of them takes too many bytes. A state takes 32 bytes, one for
alternatives 4 more for each of them, and one for several ranges of bytes 8 more for each range; forward,
the states of a set beyond ASCII are all of the last kind. What the engine saves by simplifying an expression before it compiles it is left out, and so
are the bounds of the tables in which it looks for states that it can share.
-/

namespace RequestMatching.Regex

@[ext]
structure Size where
  forward : Nat
  backward : Nat

namespace Size

instance : Add Size :=
  ⟨fun s t => ⟨s.forward + t.forward, s.backward + t.backward⟩⟩

@[simp]
theorem forward_add (s t : Size) : (s + t).forward = s.forward + t.forward := rfl

@[simp]
theorem backward_add (s t : Size) : (s + t).backward = s.backward + t.backward := rfl

def times (n : Nat) (s : Size) : Size :=
  ⟨n * s.forward, n * s.backward⟩

def largest (s : Size) : Nat :=
  Nat.max s.forward s.backward

def states (n : Nat) : Size :=
  ⟨32 * n, 32 * n⟩

def union (alternatives : Nat) : Size :=
  ⟨32 + 4 * alternatives, 32 + 4 * alternatives⟩

/-- The two ends of a group that captures; backward, nothing is captured. -/
def capture : Size :=
  ⟨64, 0⟩

/-- What there is around every expression: a state to begin in, the group of the whole match and a state
to end in. -/
def frame : Size :=
  capture + states 2

end Size

/-! ## Ranges -/

namespace CharSet

/-- Puts a range among sorted ranges of which no two touch. -/
def insertRange (first last : Nat) : List (Nat × Nat) → List (Nat × Nat)
  | [] => [(first, last)]
  | (a, b) :: rs =>
    if last + 1 < a then (first, last) :: (a, b) :: rs
    else if b + 1 < first then (a, b) :: insertRange first last rs
    else insertRange (Nat.min first a) (Nat.max last b) rs

def joinRanges (rs ss : List (Nat × Nat)) : List (Nat × Nat) :=
  rs.foldr (fun (a, b) ss => insertRange a b ss) ss

def gaps (next : Nat) : List (Nat × Nat) → List (Nat × Nat)
  | [] => if next ≤ 0x10FFFF then [(next, 0x10FFFF)] else []
  | (a, b) :: rs => if next < a then (next, a - 1) :: gaps (b + 1) rs else gaps (b + 1) rs

/-- The ranges with what their members are folded to, and with what is folded to a member. -/
def foldRanges (runs : List CaseRun) (rs : List (Nat × Nat)) : List (Nat × Nat) :=
  let holds (n : Nat) : Bool := rs.any fun (a, b) => a ≤ n && n ≤ b
  runs.foldl (fun acc r =>
    (List.range ((r.last - r.first) / r.step + 1)).foldl (fun acc k =>
      let n : Nat := r.first + k * r.step
      let m := ((n : Int) + r.shift).toNat
      if holds n || holds m then insertRange n n (insertRange m m acc) else acc) acc) rs

def categoryRanges (isMember : String → Bool) : List (Nat × String) → List (Nat × Nat)
  | [] => []
  | [(a, c)] => if isMember c then [(a, 0x10FFFF)] else []
  | (a, c) :: (b, d) :: runs =>
    let rs := categoryRanges isMember ((b, d) :: runs)
    if isMember c then insertRange a (b - 1) rs else rs

/-- The members in sorted ranges. Folding is done twice, since two characters may only be folded to the
same third one. -/
def ranges : CharSet → List (Nat × Nat)
  | range a b => if a ≤ b then [(a, b)] else []
  | property p => joinRanges p.ranges.toList []
  | category isMember => categoryRanges isMember Category.runs.toList
  | union a b => joinRanges a.ranges b.ranges
  | inter a b => gaps 0 (joinRanges (gaps 0 a.ranges) (gaps 0 b.ranges))
  | diff a b => gaps 0 (joinRanges (gaps 0 a.ranges) b.ranges)
  | symmDiff a b =>
    joinRanges (gaps 0 (joinRanges (gaps 0 a.ranges) b.ranges))
      (gaps 0 (joinRanges (gaps 0 b.ranges) a.ranges))
  | compl a => gaps 0 a.ranges
  | folded a => foldRanges CaseRun.folding (foldRanges CaseRun.folding a.ranges)
  | asciiFolded a => foldRanges [⟨0x41, 0x5A, 1, 32⟩] a.ranges

end CharSet

/-! ## Bytes -/

/-- The ranges of the bytes of the numbers from `a` to `b` that have `k` bytes behind the first one,
which is counted from `lead`. -/
def byteRanges : Nat → Nat → Nat → Nat → List (List (Nat × Nat))
  | lead, 0, a, b => [[(lead + a, lead + b)]]
  | lead, k + 1, a, b =>
    let block := 64 ^ (k + 1)
    let part (p a b : Nat) := (byteRanges 0x80 k a b).map ((lead + p, lead + p) :: ·)
    let p := a / block
    let q := b / block
    if p = q then part p (a % block) (b % block)
    else
      let front := if a % block = 0 then [] else part p (a % block) (block - 1)
      let back := if b % block = block - 1 then [] else part q 0 (b % block)
      let first := if front.isEmpty then p else p + 1
      let after := if back.isEmpty then q + 1 else q
      let whole := if first < after then
        [(lead + first, lead + after - 1) :: List.replicate (k + 1) (0x80, 0xBF)] else []
      front ++ whole ++ back

def encodings (a b : Nat) : List (List (Nat × Nat)) :=
  let part (lo hi lead k : Nat) :=
    if Nat.max a lo ≤ Nat.min b hi then byteRanges lead k (Nat.max a lo) (Nat.min b hi) else []
  part 0 0x7F 0 0 ++ part 0x80 0x7FF 0xC0 1 ++ part 0x800 0xD7FF 0xE0 2 ++
    part 0xE000 0xFFFF 0xE0 2 ++ part 0x10000 0x10FFFF 0xF0 3

def byHead : List (List (Nat × Nat)) → List ((Nat × Nat) × List (List (Nat × Nat)))
  | [] => []
  | [] :: words => byHead words
  | (r :: w) :: words =>
    match byHead words with
    | [] => [(r, [w])]
    | (s, ws) :: groups => if r = s then (r, w :: ws) :: groups else (r, [w]) :: (s, ws) :: groups

/-- The nodes of the tree of the words, each as the words that lead on from it. -/
def nodes : Nat → List (List (Nat × Nat)) → List (List (List (Nat × Nat)))
  | 0, words => [words]
  | n + 1, words => words :: (byHead words).flatMap fun (_, ws) => nodes n ws

/-- A set beyond ASCII. Forward, nodes that the same words lead on from are one state. Backward, the tree
is not shared: it has a state for each node but the root, whose words are alternatives. -/
def encodingSize (rs : List (Nat × Nat)) : Size :=
  let words := rs.flatMap fun (a, b) => encodings a b
  let tree := nodes 4 words
  let shared := tree.eraseDups.filter (· != [[]])
  ⟨shared.foldl (fun size words => size + 32 + 8 * (byHead words).length) 32,
    32 * tree.length + 32 + 4 * words.length⟩

/-- A single character is compiled as its bytes, a set of ASCII characters as one state. -/
def CharSet.size (s : CharSet) : Size :=
  let rs := s.ranges
  match rs with
  | [(a, b)] => if a = b then .states (encodings a b).flatten.length else ofRanges rs
  | rs => ofRanges rs
where
  ofRanges (rs : List (Nat × Nat)) : Size :=
    if rs.all fun (_, b) => b < 128 then .states 2 + ⟨8 * rs.length, 8 * rs.length⟩
    else encodingSize rs

end RequestMatching.Regex
