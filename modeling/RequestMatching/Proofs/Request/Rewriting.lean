import RequestMatching.Request.Definition
import RequestMatching.Proofs.Body.Rewriting
import RequestMatching.Proofs.Pattern.Regrouping

/-!
# Written definitions

A request definition that has been read is written and read again: its multimaps come back key by key,
and everything else comes back as it is.
-/

namespace RequestMatching

namespace RequestDefinition

/-- The definition with the entries of its multimaps key by key. -/
def regrouped (d : RequestDefinition) : RequestDefinition :=
  { d with
    pathParameters := d.pathParameters.regroup
    query := d.query.regroup
    cookies := d.cookies.regroup
    headers := d.headers.regroup }

def numbers (d : RequestDefinition) : List JsonNumber :=
  match d.body with
  | none => []
  | some b => b.pattern.numbers

/-! ## Writing -/

def optionalPart {α : Type} (name : String) (toJson : α → Json) (o : Option α) :
    List (String × Json) :=
  (o.map fun a => (name, toJson a)).toList

def mapPart (name : String) (m : MultiMap) : List (String × Json) :=
  if m.isEmpty then [] else [(name, m.toJson)]

def flaggedJson (v : Flagged) : Json :=
  .string v.text

def protocolJson (p : Protocol) : Json :=
  .string p.name

def members (d : RequestDefinition) : List (String × Json) :=
  optionalPart "method" flaggedJson d.method ++
    optionalPart "path" flaggedJson d.path ++
    mapPart "pathParameters" d.pathParameters ++
    mapPart "queryStringParameters" d.query ++
    mapPart "cookies" d.cookies ++
    mapPart "headers" d.headers ++
    optionalPart "body" BodyDefinition.toJson d.body ++
    optionalPart "secure" .bool d.secure ++
    optionalPart "keepAlive" .bool d.keepAlive ++
    optionalPart "protocol" protocolJson d.protocol

def toJson (d : RequestDefinition) : Json :=
  .object d.members

section
variable {α : Type} (toJson : α → Json)

theorem memberTexts_optionalPart (text : α → String) (h : ∀ a, (toJson a).text = text a)
    (name : String) (o : Option α) :
    Json.memberTexts (optionalPart name toJson o) = optionalMember name text o := by
  cases o with
  | none => rfl
  | some a => simp only [optionalPart, optionalMember, Option.map_some, Option.toList_some,
      Json.memberTexts, h, BodyPattern.member]

theorem memberNumbers_optionalPart (h : ∀ a, (toJson a).numbers = []) (name : String)
    (o : Option α) : Json.memberNumbers (optionalPart name toJson o) = [] := by
  cases o with
  | none => rfl
  | some a => simp only [optionalPart, Option.map_some, Option.toList_some, Json.memberNumbers, h,
      List.append_nil]

end

theorem memberTexts_mapPart (name : String) (m : MultiMap) :
    Json.memberTexts (mapPart name m) = mapMember name m := by
  unfold mapPart mapMember
  split
  · rfl
  · simp only [Json.memberTexts, m.toJson_text, BodyPattern.member]

theorem memberNumbers_mapPart (name : String) (m : MultiMap) :
    Json.memberNumbers (mapPart name m) = [] := by
  unfold mapPart
  split
  · rfl
  · simp only [Json.memberNumbers, m.toJson_numbers, List.append_nil]

theorem toJson_text (d : RequestDefinition) : d.toJson.text = d.jsonText := by
  simp only [toJson, Json.text, members, jsonText, Json.memberTexts_append, memberTexts_mapPart,
    memberTexts_optionalPart flaggedJson (fun v => Json.quote v.text) fun _ => rfl,
    memberTexts_optionalPart BodyDefinition.toJson BodyDefinition.jsonText BodyDefinition.toJson_text,
    memberTexts_optionalPart Json.bool boolText fun _ => rfl,
    memberTexts_optionalPart protocolJson (fun p => Json.quote p.name) fun _ => rfl]

theorem toJson_numbers (d : RequestDefinition) : d.toJson.numbers = d.numbers := by
  have hbody : Json.memberNumbers (optionalPart "body" BodyDefinition.toJson d.body) = d.numbers := by
    unfold numbers
    cases d.body with
    | none => rfl
    | some b => simp only [optionalPart, Option.map_some, Option.toList_some, Json.memberNumbers,
        b.toJson_numbers, List.append_nil]
  simp only [toJson, Json.numbers, members, Json.memberNumbers_append, memberNumbers_mapPart, hbody,
    memberNumbers_optionalPart flaggedJson fun _ => rfl,
    memberNumbers_optionalPart Json.bool fun _ => rfl,
    memberNumbers_optionalPart protocolJson fun _ => rfl, List.nil_append, List.append_nil]

/-! ## Reading -/

/-- What every definition is that has been read. -/
structure IsRead (d : RequestDefinition) : Prop where
  method : ∀ v, d.method = some v → v.IsRead
  path : ∀ v, d.path = some v → v.IsRead
  pathParameters : d.pathParameters.IsRead
  query : d.query.IsRead
  cookies : d.cookies.IsRead
  headers : d.headers.IsRead
  body : ∀ b, d.body = some b → b.pattern.IsRead 2

theorem flagged_isRead {p : Place} {s : Source} {o : Option Flagged}
    (h : Decoder.optional flaggedDecoder p s = .ok o) : ∀ v, o = some v → v.IsRead := by
  rintro v rfl
  obtain ⟨t, -, rfl⟩ := ok_of_map (Decoder.optional_eq_ok h)
  exact ⟨t, rfl⟩

theorem isRead_of_decoder {s : Source} {d : RequestDefinition} (h : decoder {} s = .ok d) :
    d.IsRead := by
  have hinitial : IsRead {} := by constructor <;> (intro _ h; cases h)
  refine Decoder.record_keeps IsRead (fun f hf s a a' ha hread => ?_) hinitial h
  simp only [fields, List.mem_cons, List.not_mem_nil, or_false] at hf
  rcases hf with rfl | rfl | rfl | rfl | rfl | rfl | rfl | rfl | rfl | rfl <;>
    obtain ⟨b, hb, rfl⟩ := Field.of_read_eq_ok hread
  · exact { ha with method := flagged_isRead hb }
  · exact { ha with path := flagged_isRead hb }
  · exact { ha with pathParameters := MultiMap.isRead_of_decoder hb }
  · exact { ha with query := MultiMap.isRead_of_decoder hb }
  · exact { ha with cookies := MultiMap.isRead_of_decoder hb }
  · exact { ha with headers := MultiMap.isRead_of_decoder hb }
  · refine { ha with body := fun d hd => ?_ }
    obtain rfl : b = some d := hd
    exact BodyDefinition.isRead_of_decoder (Decoder.optional_eq_ok hb)
  all_goals exact { ha with }

theorem IsRead.regrouped {d : RequestDefinition} (h : d.IsRead) : d.regrouped.IsRead :=
  { h with
    pathParameters := h.pathParameters.regroup
    query := h.query.regroup
    cookies := h.cookies.regroup
    headers := h.headers.regroup }

section
variable {p : Place} {a b : RequestDefinition} {name : String} {fields : List (Field RequestDefinition)}
  {members : List (String × Json)}

theorem writes_optionalPart {β : Type} {toJson : β → Json} {decode : Decoder β} {o : Option β}
    {store : Option β → RequestDefinition → RequestDefinition} (hnone : store none a = a)
    (hread : ∀ v, o = some v → toJson v ≠ .null ∧ decode p (.ofJson (toJson v)) = .ok v)
    (h : Field.Writes p fields (store o a) members b) :
    Field.Writes p (.of name (.optional decode) store :: fields) a
      (optionalPart name toJson o ++ members) b := by
  refine .part ?_ h
  cases o with
  | none => exact .inl ⟨rfl, hnone⟩
  | some v =>
    obtain ⟨hnull, hv⟩ := hread v rfl
    exact .inr ⟨toJson v, rfl, Decoder.optional_ofJson hnull hv⟩

theorem writes_mapPart {m : MultiMap} {store : MultiMap → RequestDefinition → RequestDefinition}
    (hp : p.depth + 2 < Source.depthLimit) (hempty : store [] a = a) (hm : m.IsRead)
    (h : Field.Writes p fields (store m.regroup a) members b) :
    Field.Writes p (.of name MultiMap.decoder store :: fields) a (mapPart name m ++ members) b := by
  refine .part ?_ h
  cases m with
  | nil => exact .inl ⟨rfl, hempty⟩
  | cons e m => exact .inr ⟨_, rfl, MultiMap.decoder_toJson hp hm⟩

end

theorem reads_flagged {p : Place} {o : Option Flagged} (h : ∀ v, o = some v → v.IsRead) :
    ∀ v, o = some v → flaggedJson v ≠ .null ∧ flaggedDecoder p (.ofJson (flaggedJson v)) = .ok v :=
  fun v hv => ⟨nofun, congrArg Except.ok (h v hv).parse_text⟩

theorem writes_members {d : RequestDefinition} (h : d.IsRead) :
    Field.Writes { depth := 1 } fields {} d.members d.regrouped := by
  have hdepth : 1 + 2 < Source.depthLimit := by decide
  rw [members, ← List.append_nil (optionalPart "protocol" protocolJson d.protocol)]
  simp only [List.append_assoc]
  refine writes_optionalPart rfl (reads_flagged h.method) ?_
  refine writes_optionalPart rfl (reads_flagged h.path) ?_
  refine writes_mapPart hdepth rfl h.pathParameters ?_
  refine writes_mapPart hdepth rfl h.query ?_
  refine writes_mapPart hdepth rfl h.cookies ?_
  refine writes_mapPart hdepth rfl h.headers ?_
  refine writes_optionalPart rfl
    (fun b hb => ⟨nofun, BodyDefinition.decoder_toJson hdepth (h.body b hb)⟩) ?_
  refine writes_optionalPart rfl (fun b _ => ⟨nofun, rfl⟩) ?_
  refine writes_optionalPart rfl (fun b _ => ⟨nofun, rfl⟩) ?_
  refine writes_optionalPart rfl (fun p _ => ⟨nofun, by cases p <;> rfl⟩) ?_
  exact .nil

/-- A definition that has been read is read back from its tree with its multimaps key by key. -/
theorem decoder_toJson {d : RequestDefinition} (h : d.IsRead) :
    decoder {} (.ofJson d.toJson) = .ok d.regrouped := by
  have hread := (writes_members h).readMembers_eq (by decide)
  have henter : Decoder.enter {} = .ok { depth := 1 } := rfl
  simp only [decoder, Decoder.record, toJson, Source.ofJson, henter, hread, Decoder.close, bind,
    Except.bind]

/-- The text of a definition that has been read is read as the definition with its multimaps key by
key. -/
theorem ofText_jsonText {d : RequestDefinition} (h : d.IsRead)
    (hnumbers : ∀ n ∈ d.numbers, Source.ReadsBack n) :
    decoder.ofText d.jsonText = .ok d.regrouped := by
  have htree : Source.ofText d.jsonText = (.ofJson d.toJson, false) := by
    rw [← d.toJson_text]
    exact Source.ofText_text (by simpa only [Json.ReadsBack, d.toJson_numbers] using hnumbers)
  simp only [Decoder.ofText, htree, decoder_toJson h]
  rfl

theorem regrouped_eq_self_iff (d : RequestDefinition) : d.regrouped = d ↔
    d.pathParameters.KeysAdjacent ∧ d.query.KeysAdjacent ∧ d.cookies.KeysAdjacent ∧
      d.headers.KeysAdjacent := by
  simp only [← MultiMap.regroup_eq_self_iff]
  constructor
  · intro h
    exact ⟨congrArg pathParameters h, congrArg query h, congrArg cookies h, congrArg headers h⟩
  · rintro ⟨hpath, hquery, hcookies, hheaders⟩
    simp only [regrouped, hpath, hquery, hcookies, hheaders]

theorem regrouped_regrouped (d : RequestDefinition) : d.regrouped.regrouped = d.regrouped := by
  simp only [regrouped, MultiMap.regroup_regroup]

/-- Writing a definition that has been read and reading it again puts the entries of each multimap key
by key and changes nothing else; it changes nothing exactly when they are key by key already, and
nothing is changed the second time. -/
theorem ofText_jsonText_of_ofText {text : String} {d : RequestDefinition}
    (h : decoder.ofText text = .ok d) (hnumbers : ∀ n ∈ d.numbers, Source.ReadsBack n) :
    decoder.ofText d.jsonText = .ok d.regrouped ∧
      (d.regrouped = d ↔ d.pathParameters.KeysAdjacent ∧ d.query.KeysAdjacent ∧
        d.cookies.KeysAdjacent ∧ d.headers.KeysAdjacent) ∧
      decoder.ofText d.regrouped.jsonText = .ok d.regrouped := by
  obtain ⟨s, hs⟩ := Decoder.ofText_eq_ok h
  have hread := isRead_of_decoder hs
  refine ⟨ofText_jsonText hread hnumbers, d.regrouped_eq_self_iff, ?_⟩
  have hagain := ofText_jsonText hread.regrouped hnumbers
  rwa [d.regrouped_regrouped] at hagain

/-- A definition with entries of one key on both sides of another key. -/
def separated : RequestDefinition where
  query := [.plain "a" "1", ⟨⟨"b", true, true⟩, .plain "2"⟩, .plain "a" "3"]
  body := some ⟨.json (.array [.number (.integer 1)]) none, false⟩

/-- A text of the definition: the marks are in the other order, and one value is in a list. -/
def separatedText : String :=
  "\x7b\"queryStringParameters\":\x7b\"a\":\"1\",\"!?b\":[\"2\"],\"a\":\"3\"\x7d," ++
    "\"body\":\x7b\"type\":\"JSON\",\"json\":[1]\x7d\x7d"

theorem ofText_separatedText : decoder.ofText separatedText = .ok separated := by
  let tree : Json := .object
    [("queryStringParameters",
      .object [("a", .string "1"), ("!?b", .array [.string "2"]), ("a", .string "3")]),
     ("body", .object [("type", .string "JSON"), ("json", .array [.number (.integer 1)])])]
  have htext : tree.text = separatedText := by cbv
  have hreads : tree.ReadsBack := fun n hn => by
    obtain rfl := List.mem_singleton.mp hn
    rfl
  rw [← htext, Decoder.ofText, Source.ofText_text hreads]
  rfl

theorem ofText_jsonText_of_separated :
    (decoder.ofText separatedText = .ok separated ∧ ∀ n ∈ separated.numbers, Source.ReadsBack n) ∧
      decoder.ofText separated.jsonText = .ok separated.regrouped ∧
      separated.regrouped.query =
        [.plain "a" "1", .plain "a" "3", ⟨⟨"b", true, true⟩, .plain "2"⟩] ∧
      decoder.ofText separated.regrouped.jsonText = .ok separated.regrouped := by
  have hnumbers : ∀ n ∈ separated.numbers, Source.ReadsBack n := fun n hn => by
    obtain rfl := List.mem_singleton.mp hn
    rfl
  obtain ⟨hread, -, hagain⟩ := ofText_jsonText_of_ofText ofText_separatedText hnumbers
  exact ⟨⟨ofText_separatedText, hnumbers⟩, hread, by decide, hagain⟩

end RequestDefinition

end RequestMatching
