/-!
# Differences between texts

A shortest edit between two texts by lines, and its unified form with three lines of context. The
edit is found by cutting the lines where two searches for shortest paths meet, one from each end.
Afterwards each edit is moved up and down past equal lines and other edits, so that edits that can
meet are one.
-/

namespace RequestMatching

/-- Lines next to each other that are the same in both texts, or that one of them has instead of
the other's: where they begin and how many they are. -/
structure LineBlock where
  same : Bool
  old : Nat
  oldSize : Nat
  new : Nat
  newSize : Nat

namespace LineBlock

def kept (old new size : Nat) : LineBlock :=
  ⟨true, old, size, new, size⟩

def removed (old size new : Nat) : LineBlock :=
  ⟨false, old, size, new, 0⟩

def added (old new size : Nat) : LineBlock :=
  ⟨false, old, 0, new, size⟩

def isEmpty (b : LineBlock) : Bool :=
  b.oldSize == 0 && b.newSize == 0

def isRemoval (b : LineBlock) : Bool :=
  !b.same && b.newSize == 0

def isAddition (b : LineBlock) : Bool :=
  !b.same && b.oldSize == 0

def up (b : LineBlock) (n : Nat) : LineBlock :=
  { b with old := b.old - n, new := b.new - n }

def down (b : LineBlock) (n : Nat) : LineBlock :=
  { b with old := b.old + n, new := b.new + n }

def grow (b : LineBlock) (n : Nat) : LineBlock :=
  { b with oldSize := b.oldSize + n, newSize := b.newSize + n }

def shrink (b : LineBlock) (n : Nat) : LineBlock :=
  { b with oldSize := b.oldSize - n, newSize := b.newSize - n }

def append (b c : LineBlock) : LineBlock :=
  { b with oldSize := b.oldSize + c.oldSize, newSize := b.newSize + c.newSize }

end LineBlock

namespace Diff

/-- The lines of a text with their line feeds or carriage returns; `line` is what has been read of
the first one, in reverse. -/
def linesFrom (line : List Char) : List Char → List String
  | [] => if line.isEmpty then [] else [.ofList line.reverse]
  | '\r' :: '\n' :: cs => .ofList ('\n' :: '\r' :: line).reverse :: linesFrom [] cs
  | c :: cs =>
    if c = '\n' || c = '\r' then .ofList (c :: line).reverse :: linesFrom [] cs
    else linesFrom (c :: line) cs

def commonLength : List String → List String → Nat
  | a :: as, b :: bs => if a = b then commonLength as bs + 1 else 0
  | _, _ => 0

/-! ## Shortest edits -/

/-- How far each diagonal has been followed; the diagonals are counted from `-offset`. -/
structure Front where
  offset : Nat
  reach : Array Nat

namespace Front

def start (size : Nat) : Front :=
  ⟨size + 1, .replicate (2 * size + 3) 0⟩

def get (f : Front) (k : Int) : Nat :=
  f.reach.getD (k + f.offset).toNat 0

def set (f : Front) (k : Int) (x : Nat) : Front :=
  { f with reach := f.reach.setIfInBounds (k + f.offset).toNat x }

def edit (f : Front) (d : Nat) (k : Int) : Nat :=
  if k = -d || (k ≠ d && f.get (k - 1) < f.get (k + 1)) then f.get (k + 1) else f.get (k - 1) + 1

end Front

/-- Extends all diagonals by one edit and the equal lines after it. Stops where `meets` tells, from
the diagonal and the points before and after the equal lines, that the searches have met. -/
def extend {α : Type} (old new : List String) (d : Nat) (meets : Int → Nat → Nat → Option α) :
    List Int → Front → Option α × Front
  | [], f => (none, f)
  | k :: ks, f =>
    let x := f.edit d k
    let y := (x - k).toNat
    let x' := x + commonLength (old.drop x) (new.drop y)
    let f := f.set k x'
    match meets k x x' with
    | some a => (some a, f)
    | none => extend old new d meets ks f

def meeting (old new : List String) :
    Nat → Nat → Front → Front → Option (Nat × Nat)
  | 0, _, _, _ => none
  | fuel + 1, d, forward, backward =>
    let n := old.length
    let m := new.length
    let delta : Int := n - m
    let isOdd := delta % 2 != 0
    let diagonals := (List.range (d + 1)).map fun (i : Nat) => (d : Int) - 2 * i
    let (found, forward) := extend old new d (fun k x x' =>
      if isOdd && (k - delta).natAbs + 1 ≤ d && x' + backward.get (delta - k) ≥ n then
        some (x, (x - k).toNat)
      else none) diagonals forward
    match found with
    | some point => some point
    | none =>
      let (found, backward) := extend old.reverse new.reverse d (fun k _ x' =>
        if !isOdd && (k - delta).natAbs ≤ d && x' + forward.get (delta - k) ≥ n then
          some (n - x', m - (x' - k).toNat)
        else none) diagonals backward
      match found with
      | some point => some point
      | none => meeting old new fuel (d + 1) forward backward

def edits : Nat → Nat → Nat → List String → List String → List LineBlock
  | 0, _, _, _, _ => []
  | fuel + 1, i, j, old, new =>
    let first := commonLength old new
    let old := old.drop first
    let new := new.drop first
    let last := commonLength old.reverse new.reverse
    let old := old.take (old.length - last)
    let new := new.take (new.length - last)
    let n := old.length
    let m := new.length
    let size := (n + m + 1) / 2 + 1
    let head := if first = 0 then [] else [LineBlock.kept i j first]
    let tail := if last = 0 then [] else [LineBlock.kept (i + first + n) (j + first + m) last]
    let i := i + first
    let j := j + first
    let middle :=
      if n = 0 && m = 0 then []
      else if m = 0 then [.removed i n j]
      else if n = 0 then [.added i j m]
      else match meeting old new size 0 (.start size) (.start size) with
        | some (x, y) =>
          edits fuel i j (old.take x) (new.take y) ++
            edits fuel (i + x) (j + y) (old.drop x) (new.drop y)
        | none => [.removed i n j, .added i j m]
    head ++ middle ++ tail

/-! ## Moving edits together -/

/-- A block among those before it, the nearest first, and those after it. -/
structure Cursor where
  before : List LineBlock
  block : LineBlock
  after : List LineBlock

def slice (lines : List String) (start size : Nat) : List String :=
  (lines.drop start).take size

def moveUp (old new : List String) : Nat → Cursor → Cursor
  | 0, c => c
  | fuel + 1, c =>
    match c.before with
    | [] => c
    | p :: before =>
      if p.same then
        let n := commonLength (slice old p.old p.oldSize).reverse
          (slice new c.block.new c.block.newSize).reverse
        if n = 0 then
          if p.isEmpty then moveUp old new fuel { c with before } else c
        else
          let after := match c.after with
            | a :: rest =>
              if a.same then (a.up n).grow n :: rest
              else .kept (p.old + p.oldSize - n) (c.block.new + c.block.newSize - n) n :: c.after
            | [] => [.kept (p.old + p.oldSize - n) (c.block.new + c.block.newSize - n) n]
          let p := p.shrink n
          moveUp old new fuel
            ⟨if p.isEmpty then before else p :: before, c.block.up n, after⟩
      else if p.isRemoval == c.block.isRemoval then
        moveUp old new fuel ⟨before, p.append c.block, c.after⟩
      else moveUp old new fuel ⟨before, c.block, p :: c.after⟩

def moveDown (old new : List String) : Nat → Cursor → Cursor
  | 0, c => c
  | fuel + 1, c =>
    match c.after with
    | [] => c
    | a :: after =>
      if a.same then
        let n := commonLength (slice old a.old a.oldSize) (slice new c.block.new c.block.newSize)
        if n = 0 then
          if a.isEmpty then moveDown old new fuel { c with after } else c
        else
          let before := match c.before with
            | p :: rest =>
              if p.same then p.grow n :: rest else .kept a.old c.block.new n :: c.before
            | [] => [.kept a.old c.block.new n]
          let a := (a.down n).shrink n
          moveDown old new fuel
            ⟨before, c.block.down n, if a.isEmpty then after else a :: after⟩
      else if a.isRemoval == c.block.isRemoval then
        moveDown old new fuel ⟨c.before, c.block.append a, after⟩
      else moveDown old new fuel ⟨a :: c.before, c.block, after⟩

def settle (old new : List String) (kind : LineBlock → Bool) (room : Nat) :
    Nat → List LineBlock → List LineBlock → List LineBlock
  | 0, before, after => before.reverse ++ after
  | _ + 1, before, [] => before.reverse
  | fuel + 1, before, b :: after =>
    if kind b then
      let c := moveDown old new room (moveUp old new room ⟨before, b, after⟩)
      settle old new kind room fuel (c.block :: c.before) c.after
    else settle old new kind room fuel (b :: before) after

/-- Joins blocks of equal lines, and edits that have none between them. -/
def join : List LineBlock → List LineBlock
  | [] => []
  | b :: rest =>
    match join rest with
    | [] => [b]
    | c :: more =>
      if b.same && c.same then b.append c :: more
      else if b.same || c.same then b :: c :: more
      else
        let old := if b.oldSize ≠ 0 || c.oldSize = 0 then b.old else c.old
        let new := if b.newSize ≠ 0 || c.newSize = 0 then b.new else c.new
        ⟨false, old, b.oldSize + c.oldSize, new, b.newSize + c.newSize⟩ :: more

def blocks (old new : List String) : List LineBlock :=
  let found := edits (old.length + new.length + 1) 0 0 old new
  let room := old.length + new.length + 2 * found.length + 2
  let steps := 2 * room
  join (settle old new LineBlock.isAddition room steps []
    (settle old new LineBlock.isRemoval room steps [] found))

/-! ## The unified form -/

def context : Nat := 3

/-- The groups of blocks after `group`, which is in reverse: a long run of equal lines ends one
group and begins another. -/
def groupsFrom (group : List LineBlock) : List LineBlock → List (List LineBlock)
  | [] =>
    match group with
    | [] => []
    | [b] => if b.same then [] else [group]
    | _ => [group.reverse]
  | b :: rest =>
    if b.same && 2 * context < b.oldSize then
      let n := b.oldSize - context
      ((b.shrink n) :: group).reverse :: groupsFrom [(b.down n).shrink n] rest
    else groupsFrom (b :: group) rest

def trimmed (bs : List LineBlock) : List LineBlock :=
  let cutFirst : LineBlock → LineBlock := fun b =>
    if b.same then let n := b.oldSize - context; (b.down n).shrink n else b
  let cutLast : LineBlock → LineBlock := fun b =>
    if b.same then b.shrink (b.oldSize - context) else b
  match bs with
  | [] => []
  | b :: rest =>
    match (cutFirst b :: rest).reverse with
    | [] => []
    | l :: front => (cutLast l :: front).reverse

def rangeText (first last : Nat) : String :=
  let size := last - first
  if size = 1 then s!"{first + 1}"
  else if size = 0 then s!"{first},0"
  else s!"{first + 1},{size}"

def lineText (mark : String) (line : String) : String :=
  let ended := line.toList.getLast?.any fun c => c = '\n' || c = '\r'
  mark ++ line ++ (if ended then "" else "\n\\ No newline at end of file\n")

def blockText (old new : List String) (b : LineBlock) : String :=
  if b.same then String.join ((slice old b.old b.oldSize).map (lineText " "))
  else
    String.join ((slice old b.old b.oldSize).map (lineText "-")) ++
      String.join ((slice new b.new b.newSize).map (lineText "+"))

def groupText (old new : List String) (group : List LineBlock) : String :=
  match group.head?, group.getLast? with
  | some first, some last =>
    s!"@@ -{rangeText first.old (last.old + last.oldSize)} " ++
      s!"+{rangeText first.new (last.new + last.newSize)} @@\n" ++
      String.join (group.map (blockText old new))
  | _, _ => ""

def unified (expected found : String) : String :=
  let old := linesFrom [] expected.toList
  let new := linesFrom [] found.toList
  match groupsFrom [] (trimmed (blocks old new)) with
  | [] => ""
  | groups =>
    "--- expected\n+++ found\n" ++ String.join (groups.map (groupText old new))

end Diff
end RequestMatching
