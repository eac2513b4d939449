import RequestMatching.Yaml.Token

/-!
# Nodes of YAML

The tokens of a stream as its documents. An alias stands for the node that its anchor names.
-/

namespace RequestMatching

inductive YamlNode where
  | scalar (tag : Option String) (plain : Bool) (text : String)
  | sequence (items : List YamlNode)
  | mapping (members : List (YamlNode × YamlNode))

namespace Yaml

/-- What is left to read: tokens, and the nodes that have a name so far. -/
structure Rest where
  tokens : List Token
  anchors : List (String × YamlNode) := []

namespace Rest

def head? (r : Rest) : Option Token :=
  r.tokens.head?

def tail (r : Rest) : Rest :=
  { r with tokens := r.tokens.tail }

def isAt (r : Rest) (ts : List Token) : Bool :=
  r.head?.any ts.contains

end Rest

abbrev Reader (α : Type) := Rest → Option (α × Rest)

def nothing (tag : Option String) : YamlNode :=
  .scalar tag true ""

def readProperties (r : Rest) : Option String × Option String × Rest :=
  match r.tokens with
  | .anchor a :: .tag t :: ts => (some a, some t, { r with tokens := ts })
  | .tag t :: .anchor a :: ts => (some a, some t, { r with tokens := ts })
  | .anchor a :: ts => (some a, none, { r with tokens := ts })
  | .tag t :: ts => (none, some t, { r with tokens := ts })
  | _ => (none, none, r)

def Rest.define (r : Rest) (anchor : Option String) (n : YamlNode) : Rest :=
  match anchor with
  | none => r
  | some a => { r with anchors := (a, n) :: r.anchors }

def orNothing (ends : List Token) (read : Reader YamlNode) : Reader YamlNode := fun r =>
  if r.tokens.isEmpty || r.isAt ends then some (nothing none, r) else read r

mutual

/-- Reads a node. In brackets and braces there are no blocks, and the items of a sequence may stand
without a block of their own only where `bare` says so. -/
def readNode : Nat → Bool → Bool → Reader YamlNode
  | 0, _, _, _ => none
  | fuel + 1, block, bare, r => do
    if let some (.alias name) := r.head? then
      return (← r.anchors.lookup name, r.tail)
    let (anchor, tag, r) := readProperties r
    let (node, r) ← match r.head? with
      | some .blockEntry =>
        if bare then (readBareItems fuel r).map fun (ns, r) => (.sequence ns, r)
        else if anchor.isSome || tag.isSome then some (nothing tag, r)
        else none
      | some (.scalar text plain) => some (.scalar tag plain text, r.tail)
      | some .flowSequence => (readFlowItems fuel true r.tail).map fun (ns, r) => (.sequence ns, r)
      | some .flowMapping => (readFlowMembers fuel true r.tail).map fun (ms, r) => (.mapping ms, r)
      | some .blockSequence =>
        if block then (readItems fuel r.tail).map fun (ns, r) => (.sequence ns, r)
        else if anchor.isSome || tag.isSome then some (nothing tag, r)
        else none
      | some .blockMapping =>
        if block then (readMembers fuel r.tail).map fun (ms, r) => (.mapping ms, r)
        else if anchor.isSome || tag.isSome then some (nothing tag, r)
        else none
      | _ => if anchor.isSome || tag.isSome then some (nothing tag, r) else none
    return (node, r.define anchor node)

def readItems : Nat → Reader (List YamlNode)
  | 0, _ => none
  | fuel + 1, r =>
    match r.head? with
    | some .blockEntry => do
      let (n, r) ← orNothing [.blockEntry, .blockEnd] (readNode fuel true false) r.tail
      let (ns, r) ← readItems fuel r
      return (n :: ns, r)
    | some .blockEnd => some ([], r.tail)
    | _ => none

def readBareItems : Nat → Reader (List YamlNode)
  | 0, _ => none
  | fuel + 1, r =>
    match r.head? with
    | some .blockEntry => do
      let (n, r) ←
        orNothing [.blockEntry, .key, .value, .blockEnd] (readNode fuel true false) r.tail
      let (ns, r) ← readBareItems fuel r
      return (n :: ns, r)
    | _ => some ([], r)

def readMembers : Nat → Reader (List (YamlNode × YamlNode))
  | 0, _ => none
  | fuel + 1, r => do
    let node := orNothing [.key, .value, .blockEnd] (readNode fuel true true)
    match r.head? with
    | some .blockEnd => return ([], r.tail)
    | some .key | some .value =>
      let (k, r) ← if r.isAt [.key] then node r.tail else some (nothing none, r)
      let (v, r) ← if r.isAt [.value] then node r.tail else some (nothing none, r)
      let (ms, r) ← readMembers fuel r
      return ((k, v) :: ms, r)
    | _ => none

def readFlowItems : Nat → Bool → Reader (List YamlNode)
  | 0, _, _ => none
  | fuel + 1, first, r => do
    if r.isAt [.flowSequenceEnd] then return ([], r.tail)
    if !first && !r.isAt [.flowEntry] then none
    let r := if first then r else r.tail
    if r.isAt [.flowSequenceEnd] then return ([], r.tail)
    let node := orNothing [.value, .flowEntry, .flowSequenceEnd] (readNode fuel false false)
    let (n, r) ←
      if r.isAt [.key] then do
        let (k, r) ← node r.tail
        let (v, r) ← if r.isAt [.value] then
            orNothing [.flowEntry, .flowSequenceEnd] (readNode fuel false false) r.tail
          else some (nothing none, r)
        some (YamlNode.mapping [(k, v)], r)
      else readNode fuel false false r
    let (ns, r) ← readFlowItems fuel false r
    return (n :: ns, r)

def readFlowMembers : Nat → Bool → Reader (List (YamlNode × YamlNode))
  | 0, _, _ => none
  | fuel + 1, first, r => do
    if r.isAt [.flowMappingEnd] then return ([], r.tail)
    if !first && !r.isAt [.flowEntry] then none
    let r := if first then r else r.tail
    if r.isAt [.flowMappingEnd] then return ([], r.tail)
    let (k, r) ←
      if r.isAt [.key] then
        orNothing [.value, .flowEntry, .flowMappingEnd] (readNode fuel false false) r.tail
      else readNode fuel false false r
    let (v, r) ← if r.isAt [.value] then
        orNothing [.flowEntry, .flowMappingEnd] (readNode fuel false false) r.tail
      else some (nothing none, r)
    let (ms, r) ← readFlowMembers fuel false r
    return ((k, v) :: ms, r)

end

def dropDirectives : List Token → List Token
  | .directive :: ts => dropDirectives ts
  | ts => ts

def readContent (ts : List Token) : Option (YamlNode × List Token) :=
  (readNode (2 * ts.length + 2) true false ⟨ts, []⟩).map fun (n, r) => (n, r.tokens)

def readMarked : Nat → List Token → Option (List YamlNode)
  | 0, _ => none
  | fuel + 1, ts =>
    match dropDirectives (ts.dropWhile (· = .documentEnd)) with
    | [] => if ts.all (· = .documentEnd) then some [] else none
    | .documentStart :: ts => do
      let (n, ts) ←
        if ts.isEmpty || ts.head?.any [.directive, .documentStart, .documentEnd].contains then
          some (nothing none, ts)
        else readContent ts
      let ns ← readMarked fuel ts
      return n :: ns
    | _ => none

/-- Reads the documents of a stream; only the first one may go without a mark. -/
def documents (text : String) : Option (List YamlNode) := do
  let ts ← tokens text
  match ts with
  | [] => return []
  | .directive :: _ | .documentStart :: _ => readMarked (ts.length + 1) ts
  | _ =>
    let (n, rest) ← readContent ts
    let ns ← readMarked (rest.length + 1) rest
    return n :: ns

end Yaml
end RequestMatching
