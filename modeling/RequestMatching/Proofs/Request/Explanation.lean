import RequestMatching.Proofs.Request.Verdict

/-!
# Explanations

Checks explain their rejections and nothing else, but for the check of a negated body, which always
has something to tell. So an attempt that is explained in full keeps one difference for each aspect
that rejects, in the order in which the aspects are tried. That no check has more than one to tell is built
into the findings; proved here is that each check has one exactly if it rejects, and that an attempt notes
each finding once and under its own aspect.
-/

namespace RequestMatching

/-! ## Findings -/

namespace Finding

/-- A difference is told exactly if the verdict is a rejection. -/
def Explained (f : Finding) : Prop :=
  f.difference.isSome = !f.accepted

theorem accept_explained : accept.Explained := rfl

theorem reject_explained (difference : String) : (reject difference).Explained := rfl

theorem ofBool_explained (accepted : Bool) (difference : String) :
    (ofBool accepted difference).Explained := by
  cases accepted <;> rfl

end Finding

theorem PathPattern.check_explained (c : Comparator) (p : PathPattern) (path : String) :
    (p.check c path).Explained := by
  unfold check
  split
  · exact Finding.accept_explained
  · cases p.template with
    | none => exact Finding.ofBool_explained ..
    | some t => exact Finding.ofBool_explained ..

theorem Subset.check_explained (c : Comparator) (patterns candidates : List Entry) :
    (check c patterns candidates).Explained := by
  unfold check
  cases choices c candidates patterns with
  | error difference => exact Finding.reject_explained difference
  | ok required => exact Finding.ofBool_explained ..

theorem MultiMapPattern.check_explained (c : Comparator) (p : MultiMapPattern)
    (candidate : MultiMap) : (p.check c candidate).Explained := by
  unfold check MultiMap.contains
  split
  · exact Finding.accept_explained
  · split
    · exact Finding.ofBool_explained ..
    · exact Subset.check_explained ..

/-! ## Findings on bodies -/

namespace BodyRule

theorem checkJson_explained (pattern : String) (m : JsonMatchType) (explain : Bool) (body : String) :
    (checkJson pattern m explain body).Explained := by
  unfold checkJson
  split
  · exact Finding.accept_explained
  · cases Json.parse pattern with
    | error f => exact Finding.reject_explained _
    | ok expected =>
      cases Json.parse body with
      | error f => exact Finding.reject_explained _
      | ok actual =>
        dsimp only
        cases Json.compareAt ⟨m, !explain⟩ [] expected actual with
        | nil => exact Finding.accept_explained
        | cons d ds => exact Finding.reject_explained _

theorem checkJsonPath_explained (query body : String) : (checkJsonPath query body).Explained := by
  unfold checkJsonPath
  split
  · exact Finding.accept_explained
  · cases JsonPath.parse (Text.trim query) with
    | none => exact Finding.reject_explained _
    | some q =>
      cases Json.parse body with
      | error f => exact Finding.reject_explained _
      | ok document => exact Finding.ofBool_explained ..

theorem checkXPath_explained (expression : String) (namespaces : List (String × String))
    (body : String) : (checkXPath expression namespaces body).Explained := by
  unfold checkXPath
  split
  · exact Finding.accept_explained
  · cases XPath.parse (Text.trim expression) with
    | none => exact Finding.reject_explained _
    | some e =>
      cases Xml.parse body with
      | none => exact Finding.reject_explained _
      | some document =>
        dsimp only
        cases XPath.isTrue e namespaces document with
        | error _ => exact Finding.reject_explained _
        | ok b => exact Finding.ofBool_explained ..

theorem checkXmlSchema_explained (schema body : String) : (checkXmlSchema schema body).Explained := by
  unfold checkXmlSchema
  cases Xsd.Schema.parse schema with
  | error f => exact Finding.reject_explained _
  | ok s =>
    dsimp only
    cases s.check body with
    | error e => exact Finding.reject_explained _
    | ok _ => exact Finding.accept_explained

theorem checkText_explained (pattern : String) (subString : Bool) (body : String) :
    (checkText pattern subString body).Explained := by
  unfold checkText
  split <;> exact Finding.ofBool_explained ..

theorem checkRegex_explained (expression body : String) : (checkRegex expression body).Explained := by
  unfold checkRegex
  split
  · exact Finding.accept_explained
  · cases Regex.parseWholeDotAll expression with
    | error _ => exact Finding.reject_explained _
    | ok r => exact Finding.ofBool_explained ..

theorem checkBinary_explained (base64 : String) (body : Bytes) :
    (checkBinary base64 body).Explained := by
  unfold checkBinary
  cases Base64.decode (Text.trim base64) with
  | error f => exact Finding.reject_explained _
  | ok expected => exact Finding.ofBool_explained ..

theorem checkPresent_explained (explain : Bool) (r : BodyRule) (body : String) :
    (checkPresent explain r body).Explained := by
  cases r with
  | json p m => exact checkJson_explained p m explain body
  | jsonPath q => exact checkJsonPath_explained q body
  | xpath e ns => exact checkXPath_explained e ns body
  | xmlSchema s => exact checkXmlSchema_explained s body
  | text p sub => exact checkText_explained p sub body
  | regex e => exact checkRegex_explained e body
  | binary b => exact checkBinary_explained b (Utf8.encode body)

theorem checkOptionalBinary_explained (base64 : String) (body : Option Bytes) :
    (checkOptionalBinary base64 body).Explained := by
  unfold checkOptionalBinary
  split
  · exact Finding.accept_explained
  · split
    · exact Finding.reject_explained _
    · exact Finding.reject_explained _
    · exact checkBinary_explained ..

theorem checkOptional_explained (explain : Bool) (r : BodyRule) (body : Option String) :
    (checkOptional explain r body).Explained := by
  unfold checkOptional
  split
  · exact checkOptionalBinary_explained ..
  · split
    · exact Finding.accept_explained
    · cases body with
      | none => exact Finding.reject_explained _
      | some s =>
        dsimp only
        split
        · exact Finding.reject_explained _
        · exact checkPresent_explained ..

end BodyRule

namespace BodyMatcher

/-- A rejection of the rule keeps its difference when the negation makes it an acceptance. -/
theorem applyNegation_difference (m : BodyMatcher) {f : Finding} (hf : f.Explained) :
    (m.applyNegation f).difference.isSome = (!(m.applyNegation f).accepted || m.negated) := by
  obtain ⟨rule, negated⟩ := m
  obtain ⟨accepted, difference⟩ := f
  unfold Finding.Explained at hf
  cases negated <;> cases accepted <;>
    simp_all [applyNegation, Finding.reject]

theorem checkBytes_difference (explain : Bool) (m : BodyMatcher) (body : Option Bytes) :
    (m.checkBytes explain body).difference.isSome =
      (!(m.checkBytes explain body).accepted || m.negated) := by
  unfold checkBytes
  split
  · exact m.applyNegation_difference (BodyRule.checkOptionalBinary_explained ..)
  · exact m.applyNegation_difference (BodyRule.checkOptional_explained ..)

end BodyMatcher

/-! ## Kept differences -/

theorem Groups.add_of_notMem {K V : Type} [DecidableEq K] {key : K} (value : V) :
    ∀ {groups : Groups K V}, key ∉ groups.map Prod.fst →
      Groups.add key value groups = groups ++ [(key, [value])]
  | [], _ => rfl
  | (k, values) :: rest, h => by
    simp only [List.map_cons, List.mem_cons, not_or] at h
    rw [add, if_neg (Ne.symm h.1), add_of_notMem value h.2, List.cons_append]

namespace Diagnostics

theorem note_detailed (d : Diagnostics) (aspect : Option Aspect) (f : Finding) :
    (d.note aspect f).detailed = d.detailed := by
  unfold note add
  cases f.difference with
  | none => rfl
  | some message => cases hd : d.detailed <;> cases aspect.or d.current <;> simp [hd]

theorem note_differences {d : Diagnostics} {a : Aspect} (f : Finding) (hd : d.detailed = true)
    (ha : d.current = some a) (hnew : a ∉ d.differences.map Prod.fst) :
    (d.note none f).differences =
      d.differences ++ (f.difference.map fun message => (a, [message])).toList := by
  unfold note add
  cases f.difference with
  | none => simp
  | some message => simp [hd, ha, Groups.add_of_notMem message hnew]

end Diagnostics

namespace RequestPattern

variable (c : Comparator) (p : RequestPattern) (r : HttpRequest)

def negatesBody : Bool :=
  p.body.any (·.negated)

theorem checkOptional_explained {α : Type} (wanted : Option α) {check : α → Finding}
    (h : ∀ a, (check a).Explained) : (checkOptional wanted check).Explained := by
  cases wanted with
  | none => exact Finding.accept_explained
  | some a => exact h a

theorem checkEqual_explained {α : Type} [DecidableEq α] (text : α → String) (wanted : Option α)
    (actual : α) : (checkEqual text wanted actual).Explained :=
  checkOptional_explained wanted fun _ => Finding.ofBool_explained ..

theorem check_explained (explain : Bool) {a : Aspect} (ha : a ≠ .body) :
    (p.check c explain r a).Explained := by
  cases a with
  | method => exact checkOptional_explained p.method fun _ => Finding.ofBool_explained ..
  | path => exact checkOptional_explained p.path fun t => t.check_explained c r.path
  | pathParameters | query | cookies | headers => exact MultiMapPattern.check_explained ..
  | body => exact absurd rfl ha
  | secure | protocol | keepAlive => exact checkEqual_explained ..
  | operation | openapi => exact Finding.accept_explained

/-- A difference is told of each aspect that rejects, and of a negated body in any case. -/
theorem check_difference (explain : Bool) (a : Aspect) :
    (p.check c explain r a).difference.isSome =
      (!p.acceptsAspect c r a || (a = .body && p.negatesBody)) := by
  rw [← p.check_accepted c r explain a]
  by_cases ha : a = .body
  · subst ha
    unfold check negatesBody
    cases p.body with
    | none => rfl
    | some m => simpa [checkOptional] using m.checkBytes_difference explain r.body
  · have hexplained := p.check_explained c r explain ha
    unfold Finding.Explained at hexplained
    simp [hexplained, ha]

def told (a : Aspect) : Option (Aspect × List String) :=
  (p.check c true r a).difference.map fun message => (a, [message])

theorem attemptAspect_differences (a : Aspect) {d : Diagnostics} (hd : d.detailed = true)
    (ha : a ∉ d.differences.map Prod.fst) :
    ∃ kept, (attemptAspect c p r a (some d)).diagnostics = some kept ∧ kept.detailed = true ∧
      kept.differences = d.differences ++ (p.told c r a).toList := by
  have hexplains : Diagnostics.explains (some d) = true := hd
  refine ⟨(d.about a).note none (p.check c true r a), ?_, ?_, ?_⟩
  · rw [attemptAspect, hexplains]
    rfl
  · exact ((d.about a).note_detailed none _).trans hd
  · exact Diagnostics.note_differences (d := d.about a) _ hd rfl ha

/-- Every aspect of a row adds what is told of it, once. -/
theorem attemptAll_differences : ∀ (as : List Aspect) {d : Diagnostics}, d.detailed = true →
    as.Nodup → (∀ a ∈ as, a ∉ d.differences.map Prod.fst) →
      ∃ kept, (attemptAll c p r as (some d)).diagnostics = some kept ∧
        kept.differences = d.differences ++ as.filterMap (p.told c r)
  | [], d, _, _, _ => ⟨d, rfl, by simp⟩
  | a :: rest, d, hd, hnodup, hnew => by
    obtain ⟨ha, hrest⟩ := List.nodup_cons.mp hnodup
    obtain ⟨first, hfirst, hdetailed, hdiff⟩ :=
      p.attemptAspect_differences c r a hd (hnew a List.mem_cons_self)
    have hnewRest : ∀ b ∈ rest, b ∉ first.differences.map Prod.fst := by
      intro b hb
      rw [hdiff, List.map_append, List.mem_append, not_or]
      refine ⟨hnew b (List.mem_cons_of_mem _ hb), ?_⟩
      intro hmem
      have hab : b = a := by
        unfold told at hmem
        cases hm : (p.check c true r a).difference <;> simp_all
      exact ha (hab ▸ hb)
    obtain ⟨kept, hkept, hall⟩ := attemptAll_differences rest hdetailed hrest hnewRest
    have hexplains : Diagnostics.explains (some d) = true := hd
    refine ⟨kept, ?_, ?_⟩
    · rw [attemptAll, hexplains, Bool.or_true, if_pos rfl, hfirst]
      exact hkept
    · rw [hall, hdiff, List.append_assoc]
      unfold told
      cases hm : (p.check c true r a).difference <;> simp [hm]

theorem told_keys (as : List Aspect) : (as.filterMap (p.told c r)).map Prod.fst =
    as.filter fun a => !p.acceptsAspect c r a || (a = .body && p.negatesBody) := by
  induction as with
  | nil => rfl
  | cons a rest ih =>
    have hsome := p.check_difference c r true a
    rw [List.filter_cons, ← hsome, ← ih]
    unfold told
    cases hm : (p.check c true r a).difference <;> simp [hm]

theorem told_single {as : List Aspect} {g : Aspect × List String}
    (hg : g ∈ as.filterMap (p.told c r)) : ∃ message, g.2 = [message] := by
  obtain ⟨a, _, ha⟩ := List.mem_filterMap.mp hg
  obtain ⟨message, _, rfl⟩ := Option.map_eq_some_iff.mp ha
  exact ⟨message, rfl⟩

/-- An attempt with fresh detailed diagnostics keeps exactly one difference for each aspect that
rejects when it is tried alone, and one for a negated body, in the order of the aspects. So every
rejection is explained, and without a negated body nothing else is. -/
theorem attempt_explanation (matchType : JsonMatchType) (c : Comparator)
    (definition : RequestDefinition) (r : HttpRequest) (subject : Option String) :
    let p := ofDefinition matchType definition
    let negated := definition.body.any (·.negated)
    let whole := p.attempt c r (some { detailed := true, subject })
    ∃ kept, whole.diagnostics = some kept ∧
      kept.differences.map Prod.fst =
        aspects.filter (fun a =>
          !(attemptAspect c p r a none).accepted || (a = .body && negated)) ∧
      (∀ g ∈ kept.differences, ∃ message, g.2 = [message]) ∧
      (whole.accepted = false → kept.differences ≠ []) ∧
      (negated = false → whole.accepted = true → kept.differences = []) := by
  intro p negated whole
  have hnegated : p.negatesBody = negated := by
    simp only [p, negated, negatesBody, ofDefinition, Option.any_map]
    rfl
  obtain ⟨kept, hkept, hdiff⟩ := p.attemptAll_differences c r aspects
    (d := { detailed := true, subject }) rfl (by decide) (by simp)
  rw [List.nil_append] at hdiff
  have hkeys : kept.differences.map Prod.fst =
      aspects.filter fun a => !p.acceptsAspect c r a || (a = .body && negated) := by
    rw [hdiff, told_keys, hnegated]
  have hwhole : whole.accepted = aspects.all (p.acceptsAspect c r) :=
    p.attempt_accepted c r _
  refine ⟨kept, hkept, ?_, ?_, ?_, ?_⟩
  · rw [hkeys]
    simp only [attemptAspect_accepted]
  · intro g hg
    exact p.told_single c r (hdiff ▸ hg)
  · intro hfalse hnone
    rw [hnone, List.map_nil, eq_comm, List.filter_eq_nil_iff] at hkeys
    rw [hwhole, List.all_eq_false] at hfalse
    obtain ⟨a, ha, hreject⟩ := hfalse
    exact hkeys a ha (by simp [hreject])
  · intro hplain htrue
    rw [hwhole, List.all_eq_true] at htrue
    rw [← List.map_eq_nil_iff (f := Prod.fst), hkeys, List.filter_eq_nil_iff]
    intro a ha
    simp [htrue a ha, hplain]

end RequestPattern
end RequestMatching
