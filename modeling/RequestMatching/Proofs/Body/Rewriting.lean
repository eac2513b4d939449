import RequestMatching.Body.Definition
import RequestMatching.Proofs.Json.Records
import RequestMatching.Proofs.Json.Taking

/-!
# Written bodies

The definition of a body is written with its kind first and with what is set only, and it is read back
as it is.
-/

namespace RequestMatching

namespace BodyPattern

def kind : BodyPattern → String
  | json .. => "JSON"
  | jsonPath .. => "JSON_PATH"
  | xpath .. => "XPATH"
  | xmlSchema .. => "XML_SCHEMA"
  | string .. => "STRING"
  | regex .. => "REGEX"
  | binary .. => "BINARY"

def members : BodyPattern → List (String × Json)
  | json v m => [("json", v)] ++ (m.map fun m => ("matchType", Json.string m.name)).toList
  | jsonPath q => [("jsonPath", .string q)]
  | xpath e ns =>
    [("xpath", .string e)] ++
      if ns.isEmpty then [] else [("namespaces", .object (ns.map fun (p, u) => (p, .string u)))]
  | xmlSchema s => [("xmlSchema", .string s)]
  | string t sub => [("string", .string t), ("subString", .bool sub)]
  | regex e => [("regex", .string e)]
  | binary b => [("base64", .string b)]

def numbers : BodyPattern → List JsonNumber
  | json v _ => v.numbers
  | _ => []

/-- The pattern has been read below `depth` lists and objects. -/
def IsRead (depth : Nat) : BodyPattern → Prop
  | json v _ => (Source.ofJson v).take depth = .ok v
  | xpath _ ns => Decoder.NamesIncrease ns
  | _ => True

theorem memberTexts_eq_cons (b : BodyPattern) :
    b.memberTexts = member "type" (Json.quote b.kind) :: b.memberTexts.tail := by
  cases b <;> simp [memberTexts, kind, Json.quote, Json.escapeChar]

theorem tail_memberTexts (b : BodyPattern) : b.memberTexts.tail = Json.memberTexts b.members := by
  cases b with
  | json v m => cases m <;> simp [memberTexts, members, member, Json.memberTexts, Json.text]
  | xpath e ns =>
    have hmembers : ns.map (fun (p, u) => member p (Json.quote u)) =
        Json.memberTexts (ns.map fun (p, u) => (p, .string u)) := by
      rw [Json.memberTexts_eq_map, List.map_map]
      rfl
    cases ns with
    | nil => rfl
    | cons n ns => rw [memberTexts, members, hmembers]; rfl
  | _ => simp [memberTexts, members, member, Json.memberTexts, Json.text]

theorem memberTexts_eq (b : BodyPattern) : b.memberTexts =
    Json.memberTexts (("type", .string b.kind) :: b.members) := by
  rw [memberTexts_eq_cons, tail_memberTexts]
  rfl

theorem members_numbers (b : BodyPattern) : Json.memberNumbers b.members = b.numbers := by
  rw [Json.memberNumbers_eq_flatMap]
  cases b with
  | json v m => cases m <;> simp [members, numbers, Json.numbers]
  | xpath e ns =>
    cases ns with
    | nil => rfl
    | cons n ns =>
      simp [members, numbers, Json.numbers, Json.memberNumbers_eq_flatMap, List.flatMap_map]
  | _ => rfl

/-! ## Reading -/

theorem readString_members (p : Place) (name s : String) :
    readString name p (Source.ofMembers [(name, .string s)]) = .ok s := by
  have hwrites : Field.Writes p [.of name .string fun s _ => some s] none [(name, .string s)] (some s) :=
    .write (f := .of name .string fun s _ => some s) rfl .nil
  simp only [readString, hwrites.readMembers_eq (by simp), required, bind, Except.bind]

theorem entries_string (p : Place) (ns : List (String × String)) : Decoder.entries .string p
    (Source.ofMembers (ns.map fun (p, u) => (p, .string u))) = .ok ns := by
  induction ns with
  | nil => rfl
  | cons n ns ih =>
    simp only [List.map_cons, Source.ofMembers, Source.ofJson, Decoder.entries, Decoder.string,
      Decoder.ofFault, Except.mapError, ih, bind, Except.bind]

theorem sortedMembers_string {p : Place} (hp : p.depth + 1 < Source.depthLimit) {ns : List (String × String)}
    (h : Decoder.NamesIncrease ns) : Decoder.sortedMembers .string p
      (.ofJson (.object (ns.map fun (p, u) => (p, .string u)))) = .ok ns := by
  simp only [Decoder.sortedMembers, Source.ofJson, Decoder.members, Decoder.enter,
    if_neg (Nat.not_le.mpr hp), entries_string, Decoder.close, Except.map, bind, Except.bind,
    Decoder.sortNames_of_increase h]

theorem matchType_name (p : Place) (m : JsonMatchType) :
    Decoder.optional (.variant JsonMatchType.names) p (.ofJson (.string m.name)) = .ok (some m) := by
  cases m <;> rfl

theorem writes_json {p : Place} {v : Json}
    (hv : (Source.ofJson v).take p.depth = .ok v) (m : Option JsonMatchType) :
    Field.Writes p jsonFields (none, none) (members (json v m)) (some v, m) := by
  refine .write (b := (some v, none)) ?_ (.last ?_)
  · simp only [Field.of, Decoder.json, hv, Decoder.ofFault, Except.mapError, Except.map]
  · cases m with
    | none => exact .inl ⟨rfl, rfl⟩
    | some m => exact .inr ⟨_, rfl, matchType_name p m⟩

theorem writes_xpath {p : Place} (hp : p.depth + 1 < Source.depthLimit) (e : String)
    {ns : List (String × String)} (h : Decoder.NamesIncrease ns) :
    Field.Writes p xpathFields (none, []) (members (xpath e ns)) (some e, ns) := by
  refine .write (b := (some e, [])) rfl (.last ?_)
  cases ns with
  | nil => exact .inl ⟨rfl, rfl⟩
  | cons n ns => exact .inr ⟨_, rfl, sortedMembers_string hp h⟩

theorem writes_string (p : Place) (t : String) (sub : Bool) :
    Field.Writes p stringFields (none, false) (members (string t sub)) (some t, sub) :=
  .write (b := (some t, false)) rfl (.write rfl .nil)

theorem ofMembers_members {p : Place} (hp : p.depth + 1 < Source.depthLimit) {b : BodyPattern} (h : b.IsRead p.depth) :
    ofMembers b.kind p (Source.ofMembers b.members) = .ok b := by
  cases b with
  | json v m =>
    have hread := (writes_json h m).readMembers_eq (by decide)
    simp only [kind, ofMembers, hread, required, bind, Except.bind, pure, Except.pure]
  | jsonPath q => exact congrArg (Except.map jsonPath) (readString_members p "jsonPath" q)
  | xpath e ns =>
    have hread := (writes_xpath hp e h).readMembers_eq (by decide)
    simp only [kind, ofMembers, hread, required, bind, Except.bind, pure, Except.pure]
  | xmlSchema s => exact congrArg (Except.map xmlSchema) (readString_members p "xmlSchema" s)
  | string t sub =>
    have hread := (writes_string p t sub).readMembers_eq (by decide)
    simp only [kind, ofMembers, hread, required, bind, Except.bind, pure, Except.pure]
  | regex e => exact congrArg (Except.map regex) (readString_members p "regex" e)
  | binary b => exact congrArg (Except.map binary) (readString_members p "base64" b)

theorem members_name (b : BodyPattern) : ∀ m ∈ b.members, m.1 ≠ "type" ∧ m.1 ≠ "not" := by
  cases b with
  | json v m => cases m <;> simp [members]
  | xpath e ns => cases ns <;> simp [members]
  | _ => simp [members]

theorem splitKind_ofMembers (kind : Option Source) {ms : List (String × Json)}
    (h : ∀ m ∈ ms, m.1 ≠ "type") :
    splitKind kind (Source.ofMembers ms) = .ok (kind, Source.ofMembers ms) := by
  induction ms with
  | nil => rfl
  | cons m ms ih =>
    simp only [Source.ofMembers, splitKind, Decoder.ofFault, Except.mapError, bind, Except.bind,
      if_neg (h m (List.mem_cons_self ..)), ih fun m hm => h m (List.mem_cons_of_mem _ hm)]
    rfl

theorem kindOf_kind (b : BodyPattern) : kindOf (.string (.ok b.kind)) = .ok b.kind := by
  cases b <;> rfl

theorem read_members {p : Place} (hp : p.depth + 1 < Source.depthLimit) {b : BodyPattern} (h : b.IsRead p.depth) :
    read p (Source.ofMembers (("type", .string b.kind) :: b.members)) = .ok b := by
  have hsplit := splitKind_ofMembers (some (.string (.ok b.kind)))
    fun m hm => (b.members_name m hm).1
  simp only [read, Source.ofMembers, Source.ofJson, splitKind, Decoder.ofFault, Except.mapError,
    bind, Except.bind, pure, Except.pure, if_true, Option.isSome, Bool.false_eq_true, if_false, hsplit,
    required, kindOf_kind, ofMembers_members hp h]

theorem members_take {depth : Nat} (hdepth : depth + 1 < Source.depthLimit) {b : BodyPattern}
    (h : b.IsRead depth) : ∀ m ∈ b.members, (Source.ofJson m.2).take depth = .ok m.2 := by
  cases b with
  | json v m =>
    intro n hn
    rcases List.mem_cons.mp hn with rfl | hn
    · exact h
    · obtain ⟨m, -, rfl⟩ := Option.map_eq_some_iff.mp (Option.mem_toList.mp hn)
      rfl
  | xpath e ns =>
    intro n hn
    rcases List.mem_cons.mp hn with rfl | hn
    · rfl
    · split at hn
      · cases hn
      · obtain rfl := List.mem_singleton.mp hn
        refine Source.take_object hdepth (List.pairwise_map.mpr h) fun p hp => ?_
        obtain ⟨u, -, rfl⟩ := List.mem_map.mp hp
        rfl
  | string t sub =>
    intro n hn
    rcases List.mem_cons.mp hn with rfl | hn
    · rfl
    · obtain rfl := List.mem_singleton.mp hn
      rfl
  | _ =>
    intro n hn
    obtain rfl := List.mem_singleton.mp hn
    rfl

/-! ## Patterns that have been read -/

theorem required_eq_ok {α : Type} {name : String} {o : Option α} {a : α}
    (h : required name o = .ok a) : o = some a := by
  cases o with
  | none => cases h
  | some b => cases h; rfl

theorem isRead_of_jsonFields {p : Place} {members : List (Except JsonFault String × Source)}
    {value : Option Json} {matchType : Option JsonMatchType}
    (h : Field.readMembers jsonFields p [] (none, none) members = .ok (value, matchType)) :
    ∀ v, value = some v → (Source.ofJson v).take p.depth = .ok v := by
  let Keeps (a : Option Json × Option JsonMatchType) :=
    ∀ v, a.1 = some v → (Source.ofJson v).take p.depth = .ok v
  refine Field.readMembers_keeps Keeps (fun f hf s a a' ha hread => ?_) (by rintro v ⟨⟩) h
  simp only [jsonFields, List.mem_cons, List.not_mem_nil, or_false] at hf
  rcases hf with rfl | rfl
  · obtain ⟨v, hv, rfl⟩ := Field.of_read_eq_ok hread
    rintro w ⟨⟩
    exact Source.take_ofJson (Decoder.ofFault_eq_ok hv)
  · obtain ⟨m, -, rfl⟩ := Field.of_read_eq_ok hread
    exact ha

theorem isRead_of_xpathFields {p : Place} {members : List (Except JsonFault String × Source)}
    {expression : Option String} {ns : List (String × String)}
    (h : Field.readMembers xpathFields p [] (none, []) members = .ok (expression, ns)) :
    Decoder.NamesIncrease ns := by
  let Keeps (a : Option String × List (String × String)) := Decoder.NamesIncrease a.2
  refine Field.readMembers_keeps Keeps (fun f hf s a a' ha hread => ?_) (show Keeps (none, []) from .nil) h
  simp only [xpathFields, List.mem_cons, List.not_mem_nil, or_false] at hf
  rcases hf with rfl | rfl
  · obtain ⟨e, -, rfl⟩ := Field.of_read_eq_ok hread
    exact ha
  · obtain ⟨ns, hns, rfl⟩ := Field.of_read_eq_ok hread
    obtain ⟨pairs, -, rfl⟩ := ok_of_map hns
    exact Decoder.sortNames_increase pairs

theorem isRead_of_ofMembers {kind : String} {p : Place}
    {members : List (Except JsonFault String × Source)} {b : BodyPattern}
    (h : ofMembers kind p members = .ok b) : b.IsRead p.depth := by
  unfold ofMembers at h
  split at h
  case h_1 =>
    obtain ⟨⟨value, matchType⟩, hread, h⟩ := ok_of_bind h
    obtain ⟨v, hv, h⟩ := ok_of_bind h
    cases h
    exact isRead_of_jsonFields hread v (required_eq_ok hv)
  case h_3 =>
    obtain ⟨⟨expression, ns⟩, hread, h⟩ := ok_of_bind h
    obtain ⟨e, -, h⟩ := ok_of_bind h
    cases h
    exact isRead_of_xpathFields hread
  case h_5 =>
    obtain ⟨⟨text, subString⟩, -, h⟩ := ok_of_bind h
    obtain ⟨t, -, h⟩ := ok_of_bind h
    cases h
    trivial
  all_goals
    obtain ⟨s, -, rfl⟩ := ok_of_map h
    trivial

end BodyPattern

namespace BodyDefinition

def toJson (d : BodyDefinition) : Json :=
  .object (("type", .string d.pattern.kind) ::
    (d.pattern.members ++ if d.negated then [("not", .bool true)] else []))

theorem toJson_text (d : BodyDefinition) : d.toJson.text = d.jsonText := by
  have hnot : (if d.negated then [BodyPattern.member "not" "true"] else []) =
      Json.memberTexts (if d.negated then [("not", .bool true)] else []) := by
    cases d.negated <;> rfl
  rw [jsonText, d.pattern.memberTexts_eq, hnot, toJson, Json.text, ← List.cons_append,
    Json.memberTexts_append]

theorem toJson_numbers (d : BodyDefinition) : d.toJson.numbers = d.pattern.numbers := by
  have hnot : Json.memberNumbers (if d.negated then [("not", .bool true)] else []) = [] := by
    cases d.negated <;> rfl
  simp only [toJson, Json.numbers, Json.memberNumbers, Json.memberNumbers_append, hnot,
    d.pattern.members_numbers, List.nil_append, List.append_nil]

/-- The other members have been read as wholes, and `not` is told apart from them. -/
theorem splitNot_ofMembers {p : Place} {ms : List (String × Json)} (negated : Bool)
    (hname : ∀ m ∈ ms, m.1 ≠ "not")
    (htake : ∀ m ∈ ms, (Source.ofJson m.2).take p.depth = .ok m.2) : splitNot p none
      (Source.ofMembers (ms ++ if negated then [("not", .bool true)] else [])) =
        .ok (if negated then some true else none, Source.ofMembers ms) := by
  induction ms with
  | nil => cases negated <;> rfl
  | cons m ms ih =>
    have hrest := ih (fun m hm => hname m (List.mem_cons_of_mem _ hm))
      fun m hm => htake m (List.mem_cons_of_mem _ hm)
    simp only [List.cons_append, Source.ofMembers, splitNot, Decoder.ofFault, Except.mapError,
      Decoder.json, if_neg (hname m (List.mem_cons_self ..)), htake m (List.mem_cons_self ..), hrest,
      bind, Except.bind, pure, Except.pure]

/-- A definition is read back from what is written for it. -/
theorem decoder_toJson {p : Place} (hp : p.depth + 2 < Source.depthLimit) {d : BodyDefinition}
    (h : d.pattern.IsRead (p.depth + 1)) : decoder p (.ofJson d.toJson) = .ok d := by
  have hp' : ¬p.depth + 1 ≥ Source.depthLimit := by omega
  have hnames : ∀ m ∈ ("type", .string d.pattern.kind) :: d.pattern.members, m.1 ≠ "not" :=
    List.forall_mem_cons.mpr ⟨ne_of_beq_false rfl, fun m hm => (d.pattern.members_name m hm).2⟩
  have htake : ∀ m ∈ ("type", .string d.pattern.kind) :: d.pattern.members,
      (Source.ofJson m.2).take (p.depth + 1) = .ok m.2 :=
    List.forall_mem_cons.mpr ⟨rfl, BodyPattern.members_take hp h⟩
  have hsplit := splitNot_ofMembers (p := { p with depth := p.depth + 1 }) d.negated hnames htake
  rw [List.cons_append] at hsplit
  have hread := BodyPattern.read_members (p := ⟨p.depth + 1, true⟩) hp h
  simp only [decoder, toJson, Source.ofJson, Decoder.enter, if_neg hp', bind, Except.bind, pure,
    Except.pure, hsplit, Decoder.close, hread]
  obtain ⟨pattern, negated⟩ := d
  cases negated <;> rfl

theorem isRead_of_decoder {p : Place} {s : Source} {d : BodyDefinition} (h : decoder p s = .ok d) :
    d.pattern.IsRead (p.depth + 1) := by
  unfold decoder at h
  split at h
  case h_1 =>
    obtain ⟨q, hq, h⟩ := ok_of_bind h
    obtain rfl := Decoder.enter_eq_ok hq
    obtain ⟨⟨negated, others⟩, -, h⟩ := ok_of_bind h
    obtain ⟨-, -, h⟩ := ok_of_bind h
    obtain ⟨pattern, hread, h⟩ := ok_of_bind h
    cases h
    obtain ⟨_, -, hread⟩ := ok_of_bind hread
    obtain ⟨_, -, hread⟩ := ok_of_bind hread
    obtain ⟨_, -, hread⟩ := ok_of_bind hread
    exact BodyPattern.isRead_of_ofMembers hread
  case h_2 => exact absurd h Decoder.mismatch_ne_ok

end BodyDefinition

end RequestMatching
