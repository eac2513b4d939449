import RequestMatching.Json.Source
import RequestMatching.Text.Base64
import RequestMatching.Time.Reader

/-!
# Reading records from JSON

A record is read member by member in the order of the text, and the first thing that is wrong is the
error: a fault of the text as well as a value of the wrong kind. Members without a field are
skipped. A record may also be written as the list of its fields.
-/

namespace RequestMatching

inductive Found where
  | null
  | bool (b : Bool)
  | integer (i : Int)
  | float (x : Binary64)
  | string (s : String)
  | sequence
  | map

def Found.text : Found → String
  | null => "null"
  | bool b => s!"boolean `{b}`"
  | integer i => s!"integer `{i}`"
  | float x => s!"floating point `{JsonNumber.layout.text x}`"
  | string s => "string \"" ++ s ++ "\""
  | sequence => "sequence"
  | map => "map"

inductive DecodeError where
  | fault (f : JsonFault)
  | invalidType (found : Found) (expected : String)
  | invalidValue (found : Found) (expected : String)
  | missingField (name : String)
  | duplicateField (name : String)
  | unknownVariant (name : String) (known : List String)
  | noVariant (type : String)
  | invalidBody (f : Base64.Fault)
  | invalidDate (f : DateFault)

namespace DecodeError

/-- Names in a row: two with `or` between them, more after `one of`. -/
def oneOf : List String → String
  | [] => "nothing"
  | [a] => s!"`{a}`"
  | [a, b] => s!"`{a}` or `{b}`"
  | names => "one of " ++ String.intercalate ", " (names.map fun n => s!"`{n}`")

def message : DecodeError → String
  | fault f => f.message
  | invalidType found expected => s!"invalid type: {found.text}, expected {expected}"
  | invalidValue found expected => s!"invalid value: {found.text}, expected {expected}"
  | missingField name => s!"missing field `{name}`"
  | duplicateField name => s!"duplicate field `{name}`"
  | unknownVariant name known => s!"unknown variant `{name}`, expected {oneOf known}"
  | noVariant type => s!"data did not match any variant of untagged enum {type}"
  | invalidBody f => s!"invalid bodyBase64: {f.message}"
  | invalidDate f => f.message

end DecodeError

/-- Where a value is read: how many lists and objects are open, and whether the text around it has
been read as a whole before, so that it holds no faults. -/
structure Place where
  depth : Nat := 0
  buffered : Bool := false

abbrev Decoder (α : Type) := Place → Source → Except DecodeError α

namespace Decoder

variable {α β : Type}

def ofFault (r : Except JsonFault α) : Except DecodeError α :=
  r.mapError .fault

/-- The error for a value of the wrong kind. A broken value is a fault instead. -/
def mismatch (expected : String) : Source → Except DecodeError α
  | .null => .error (.invalidType .null expected)
  | .bool b => .error (.invalidType (.bool b) expected)
  | .number (.ok (.integer i)) => .error (.invalidType (.integer i) expected)
  | .number (.ok (.float x)) => .error (.invalidType (.float x) expected)
  | .number (.error f) => .error (.fault f)
  | .string (.ok s) => .error (.invalidType (.string s) expected)
  | .string (.error f) => .error (.fault f)
  | .array .. => .error (.invalidType .sequence expected)
  | .object .. => .error (.invalidType .map expected)
  | .broken b => .error (.fault b.taken)

def string : Decoder String
  | _, .string r => ofFault r
  | _, s => mismatch "a string" s

def bool : Decoder Bool
  | _, .bool b => .ok b
  | _, s => mismatch "a boolean" s

def integer (low high : Int) (expected : String) : Decoder Int
  | _, .number (.ok (.integer i)) =>
    if low ≤ i && i ≤ high then .ok i else .error (.invalidValue (.integer i) expected)
  | _, s => mismatch expected s

def unsigned (expected : String) : Decoder Nat
  | p, s => (integer 0 (twoTo 64 - 1) expected p s).map Int.toNat

def json : Decoder Json
  | p, s => ofFault (s.take p.depth)

def optional (d : Decoder α) : Decoder (Option α)
  | _, .null => .ok none
  | p, .broken b =>
    if b.start = some 'n' then .error (.fault b.taken) else (d p (.broken b)).map some
  | p, s => (d p s).map some

def enter (p : Place) : Except DecodeError Place :=
  if p.depth + 1 ≥ Source.depthLimit then .error (.fault .nestedTooDeeply)
  else .ok { p with depth := p.depth + 1 }

def close (breach : Option Breach) (a : α) : Except DecodeError α :=
  match breach with
  | some b => .error (.fault b.taken)
  | none => .ok a

def items (d : Decoder α) (p : Place) : List Source → Except DecodeError (List α)
  | [] => .ok []
  | s :: rest => do
    let a ← d p s
    let rest ← items d p rest
    .ok (a :: rest)

def list (d : Decoder α) : Decoder (List α)
  | p, .array ss breach => do
    let values ← items d (← enter p) ss
    close breach values
  | _, s => mismatch "a sequence" s

def entries (d : Decoder α) (p : Place) :
    List (Except JsonFault String × Source) → Except DecodeError (List (String × α))
  | [] => .ok []
  | (key, s) :: rest => do
    let key ← ofFault key
    let a ← d p s
    let rest ← entries d p rest
    .ok ((key, a) :: rest)

def members (expected : String) (d : Decoder α) : Decoder (List (String × α))
  | p, .object ms breach => do
    let values ← entries d (← enter p) ms
    close breach values
  | _, s => mismatch expected s

def insertSorted (name : String) (a : α) : List (String × α) → List (String × α)
  | [] => [(name, a)]
  | (n, b) :: rest =>
    if name < n then (name, a) :: (n, b) :: rest
    else if name = n then (name, a) :: rest
    else (n, b) :: insertSorted name a rest

def sortNames (pairs : List (String × α)) : List (String × α) :=
  pairs.foldl (fun acc (n, a) => insertSorted n a acc) []

def sortedMembers (d : Decoder α) : Decoder (List (String × α))
  | p, s => (members "a map" d p s).map sortNames

/-! ## Variants -/

def variantNamed (variants : List (String × α)) (name : String) : Except DecodeError α :=
  match variants.find? (·.1 == name) with
  | some (_, a) => .ok a
  | none => .error (.unknownVariant name (variants.map (·.1)))

def unit : Decoder Unit
  | _, .null => .ok ()
  | _, s => mismatch "unit" s

def variant (variants : List (String × α)) : Decoder α
  | _, .string r => do variantNamed variants (← ofFault r)
  | p, .object ms breach =>
    if p.buffered then
      match ms with
      | [(key, s)] => do
        let a ← variantNamed variants (← ofFault key)
        unit p s
        .ok a
      | _ => .error (.invalidValue .map "map with a single key")
    else do
      let p ← enter p
      match ms, breach with
      | [], none => .error (.fault .expectedValue)
      | [], some b => .error (.fault (if b.taken = .eofObject then .eofValue else b.taken))
      | (key, s) :: rest, breach => do
        let a ← variantNamed variants (← ofFault key)
        unit p s
        match rest, breach with
        | [], none => .ok a
        | [], some b => .error (.fault (if b.taken = .eofObject then .eofObject else .expectedValue))
        | _ :: _, _ => .error (.fault .expectedValue)
  | p, .broken b =>
    if p.buffered || b.start = some '"' || b.start.isNone then .error (.fault b.taken)
    else .error (.fault .expectedValue)
  | p, s => if p.buffered then mismatch "string or map" s else .error (.fault .expectedValue)

def firstOf (type : String) (ds : List (Decoder α)) : Decoder α
  | p, s => do
    let _ ← ofFault (s.take p.depth)
    match ds.findSome? fun d => (d { p with buffered := true } s).toOption with
    | some a => .ok a
    | none => .error (.noVariant type)

def oneOrMany : Decoder (List String) :=
  firstOf "OneOrMany" [fun p s => (string p s).map ([·]), list string]

end Decoder

structure Field (α : Type) where
  name : String
  read : Place → Source → α → Except DecodeError α

namespace Field

variable {α β : Type}

def of (name : String) (d : Decoder β) (store : β → α → α) : Field α :=
  ⟨name, fun p s a => (d p s).map fun b => store b a⟩

/-- Reads the members of a record; `seen` are the fields read so far. -/
def readMembers (fields : List (Field α)) (p : Place) :
    List String → α → List (Except JsonFault String × Source) → Except DecodeError α
  | _, a, [] => .ok a
  | seen, a, (key, s) :: rest => do
    let key ← Decoder.ofFault key
    match fields.find? (·.name == key) with
    | some f =>
      if seen.contains key then throw (.duplicateField key)
      let a ← f.read p s a
      readMembers fields p (key :: seen) a rest
    | none =>
      match if p.buffered then none else s.skipFault with
      | some f => throw (.fault f)
      | none => readMembers fields p seen a rest

def endOfList : List Source → Option Breach → Option JsonFault
  | _ :: _, _ => some .trailingCharacters
  | [], none => none
  | [], some b => some (if b.taken = .eofValue then .trailingCharacters else b.taken)

/-- Reads a record from the list of its fields; fields that the list does not reach keep their
values. -/
def readItems (p : Place) (breach : Option Breach) :
    List (Field α) → α → List Source → Except DecodeError α
  | [], a, rest =>
    match endOfList rest breach with
    | some f => .error (.fault f)
    | none => .ok a
  | _ :: _, a, [] => Decoder.close breach a
  | f :: fields, a, s :: rest => do
    let a ← f.read p s a
    readItems p breach fields a rest

end Field

def Decoder.record {α : Type} (type : String) (fields : List (Field α)) (initial : α) : Decoder α
  | p, .object ms breach => do
    let a ← Field.readMembers fields (← enter p) [] initial ms
    close breach a
  | p, .array ss breach => do
    Field.readItems (← enter p) breach fields initial ss
  | _, s => mismatch s!"struct {type}" s

def Decoder.ofText {α : Type} (d : Decoder α) (text : String) : Except DecodeError α := do
  let (tree, more) := Source.ofText text
  let a ← d {} tree
  if more then throw (.fault .trailingCharacters) else return a

end RequestMatching
