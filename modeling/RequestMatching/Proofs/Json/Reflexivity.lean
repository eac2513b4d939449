import RequestMatching.Body.Matcher
import RequestMatching.Proofs.Json.Satisfaction
import RequestMatching.Proofs.Json.Spelled

/-!
# Values that satisfy themselves

The value of a text satisfies itself, strictly or not, unless it holds a placeholder for numbers or for
booleans, which as a string is neither. So a body that has the text of its pattern need not be read.
-/

namespace RequestMatching

theorem JsonNumber.same_self {n : JsonNumber} (hn : n ≠ .float .nan) : n.same n = true := by
  cases n with
  | integer i =>
    unfold same
    dsimp only
    split
    · exact beq_self_eq_true i
    · exact Binary64.eq_self (Binary64.ofInt_ne_nan i)
  | float x => exact Binary64.eq_self fun hx => hn (congrArg float hx)

namespace Json

variable {m : JsonMatchType} {v : Json}

theorem satisfies_self_string {s : String} (hnumber : Placeholder.ofString? s ≠ some .anyNumber)
    (hboolean : Placeholder.ofString? s ≠ some .anyBoolean) : Satisfies m (string s) (string s) := by
  cases hs : Placeholder.ofString? s with
  | none => exact .plain hs (beq_self_eq_true s)
  | some p =>
    cases p with
    | anything | anyString => exact .placeholder hs rfl
    | anyNumber => exact absurd hs hnumber
    | anyBoolean => exact absurd hs hboolean

theorem satisfies_self (hnames : v.hasDistinctNames = true) (hproper : v.hasProperNumbers = true)
    (hnumber : v.lacks .anyNumber = true) (hboolean : v.lacks .anyBoolean = true) :
    Satisfies m v v := by
  induction v using Json.induction with
  | null => exact .plain trivial rfl
  | bool b => exact .plain trivial (beq_self_eq_true b)
  | number n => exact .number (JsonNumber.same_self (hasProperNumbers_number.mp hproper))
  | string s => exact satisfies_self_string (lacks_string.mp hnumber) (lacks_string.mp hboolean)
  | array items ih =>
    have hitems : ∀ v ∈ items, Satisfies m v v := fun v hv =>
      ih v hv (hasDistinctNames_array.mp hnames v hv) (hasProperNumbers_array.mp hproper v hv)
        (lacks_array.mp hnumber v hv) (lacks_array.mp hboolean v hv)
    cases m with
    | strict => exact .ordered rfl (List.forall₂_same.mpr hitems)
    | onlyMatchingFields =>
      -- each item may serve for itself, whatever others it could serve for
      exact .unordered (.refl _) rfl fun i => hitems _ (List.get_mem items i)
  | object members ih =>
    obtain ⟨hdistinct, hnames⟩ := hasDistinctNames_object.mp hnames
    have hlookup : ∀ n v, (n, v) ∈ members → lookup n members = some v := fun n v =>
      lookup_of_mem hdistinct
    refine satisfies_object_iff.mpr ⟨fun n v hv => ⟨v, hlookup n v hv, ?_⟩, fun _ n v hv => ?_⟩
    · exact ih (n, v) hv (hnames _ hv) (hasProperNumbers_object.mp hproper _ hv)
        (lacks_object.mp hnumber _ hv) (lacks_object.mp hboolean _ hv)
    · rw [hlookup n v hv]
      rfl

end Json

namespace BodyRule

def checkJsonValues (pattern : String) (matchType : JsonMatchType) (explain : Bool) (body : String) :
    Finding :=
  match Json.parse pattern with
  | .error f => .reject ("json pattern failed to parse: " ++ f.message)
  | .ok expected =>
    match Json.parse body with
    | .error f => .reject s!"failed to parse body as json: {f.message} body: {body}"
    | .ok actual =>
      match Json.compareAt ⟨matchType, !explain⟩ [] expected actual with
      | [] => .accept
      | ds =>
        .reject (s!"json match failed expected:\n  {pattern}\nfound:\n  {body}\n" ++
          "failed because:\n" ++ String.intercalate "\n" (ds.map fun d => "  " ++ d.text))

theorem checkJson_eq (pattern : String) (matchType : JsonMatchType) (explain : Bool) (body : String) :
    checkJson pattern matchType explain body =
      if body = pattern then .accept else checkJsonValues pattern matchType explain body :=
  rfl

/-- A body with the text of its pattern is accepted without being read, and a comparison of the values
accepts it as well: it finds no difference, be the match strict or relaxed. -/
theorem checkJson_own_text {pattern : String} {v : Json} (h : Json.parse pattern = .ok v)
    (hnumber : v.lacks .anyNumber = true) (hboolean : v.lacks .anyBoolean = true)
    (matchType : JsonMatchType) (explain : Bool) :
    Json.compare v v matchType = [] ∧
      checkJsonValues pattern matchType explain pattern = .accept ∧
      checkJson pattern matchType explain pattern = .accept := by
  have hself : Json.Satisfies matchType v v := Json.satisfies_self (Json.hasDistinctNames_of_parse h)
    (Json.hasProperNumbers_of_parse h) hnumber hboolean
  have hnone : ∀ firstOnly, Json.compareAt ⟨matchType, firstOnly⟩ [] v v = [] := fun firstOnly =>
    (Json.compareAt_eq_nil_iff_satisfies ⟨matchType, firstOnly⟩ [] v v).mpr hself
  have hvalues : checkJsonValues pattern matchType explain pattern = .accept := by
    simp only [checkJsonValues, h, hnone]
  exact ⟨hnone false, hvalues, by rw [checkJson_eq, if_pos rfl]⟩

/-- Items that could serve for each other, and placeholders that strings serve for. -/
theorem checkJson_own_text_of_items :
    let text := "[\x7b\"a\":1\x7d,\x7b\"a\":1,\"b\":\"$\x7bjson-unit.any-string\x7d\"\x7d," ++
      "\"$\x7bjson-unit.ignore\x7d\"]"
    let one := Json.number (.integer 1)
    let v := Json.array [.object [("a", one)],
      .object [("a", one), ("b", .string "$\x7bjson-unit.any-string\x7d")],
      .string "$\x7bjson-unit.ignore\x7d"]
    (Json.parse text = .ok v ∧ v.lacks .anyNumber = true ∧ v.lacks .anyBoolean = true) ∧
      Json.compare v v .onlyMatchingFields = [] ∧
      checkJsonValues text .onlyMatchingFields true text = .accept := by
  intro text one v
  have htext : v.text = text := by cbv
  have hreads : v.ReadsBack := fun n hn => by
    simp only [v, one, Json.numbers, Json.itemNumbers, Json.memberNumbers, List.append_nil,
      List.cons_append, List.nil_append, List.mem_cons, List.not_mem_nil, or_false, or_self] at hn
    subst hn
    rfl
  have hparse : Json.parse text = .ok v := by
    rw [← htext, Json.parse, Source.ofText_text hreads]
    rfl
  have hnumber : v.lacks .anyNumber = true := by decide
  have hboolean : v.lacks .anyBoolean = true := by decide
  obtain ⟨hcompare, hvalues, -⟩ :=
    checkJson_own_text hparse hnumber hboolean .onlyMatchingFields true
  exact ⟨⟨hparse, hnumber, hboolean⟩, hcompare, hvalues⟩

end BodyRule
end RequestMatching
