import RequestMatching.Expectation.Matcher
import RequestMatching.Proofs.Request.Identity
import RequestMatching.Proofs.Request.Verdict

/-!
# Updates of matchers

A matcher keeps its pattern through an update whose definition equals the one in place. Without
negative zeros that is the same definition, so after any updates the pattern is still the one of the
expectation in place, and no verdict tells whether it was made anew.
-/

namespace RequestMatching

namespace ExpectationMatcher

def updateAll (m : ExpectationMatcher) : List Expectation → ExpectationMatcher
  | [] => m
  | e :: rest => (m.update e).2.updateAll rest

/-! ## The expectation in place -/

section
variable (m : ExpectationMatcher) (e : Expectation)

/-- An expectation that equals the one in place changes nothing. Any other one takes its place, and the
pattern stays if the definitions are equal. -/
theorem update_cases :
    (m.expectation.equal e = true ∧ m.update e = (false, m)) ∨
      (m.expectation.equal e = false ∧ m.update e = (true, { m with
        expectation := e
        pattern :=
          if m.expectation.request.equal e.request then m.pattern
          else .ofDefinition m.matchType e.request })) := by
  cases hsame : m.expectation.equal e with
  | true => exact .inl ⟨rfl, if_pos hsame⟩
  | false => exact .inr ⟨rfl, if_neg (by simp [hsame])⟩

theorem update_fst : (m.update e).1 = !m.expectation.equal e := by
  obtain ⟨hsame, hupdate⟩ | ⟨hsame, hupdate⟩ := m.update_cases e <;> rw [hupdate, hsame] <;> rfl

theorem update_id : (m.update e).2.id = m.id := by
  obtain ⟨-, hupdate⟩ | ⟨-, hupdate⟩ := m.update_cases e <;> rw [hupdate]

theorem update_of_false {m : ExpectationMatcher} {e : Expectation} (h : (m.update e).1 = false) :
    (m.update e).2 = m := by
  obtain ⟨-, hupdate⟩ | ⟨-, hupdate⟩ := m.update_cases e <;> rw [hupdate] at h ⊢
  cases h

theorem update_expectation :
    (m.update e).2.expectation = e ∨ (m.update e).2.expectation.equal e = true := by
  obtain ⟨hsame, hupdate⟩ | ⟨-, hupdate⟩ := m.update_cases e <;> rw [hupdate]
  · exact .inr hsame
  · exact .inl rfl

end

theorem updateAll_expectation (es : List Expectation) : ∀ (m : ExpectationMatcher) (e : Expectation),
    m.expectation = e ∨ m.expectation.equal e = true →
      (m.updateAll es).expectation = es.getLastD e ∨
        (m.updateAll es).expectation.equal (es.getLastD e) = true := by
  induction es with
  | nil => exact fun _ _ h => h
  | cons next rest ih =>
    intro m _ _
    rw [List.getLastD_cons]
    exact ih (m.update next).2 next (m.update_expectation next)

/-! ## The pattern in place -/

variable {matchType : JsonMatchType} {m : ExpectationMatcher}

/-- The pattern is the one of the expectation in place. -/
structure IsCurrent (matchType : JsonMatchType) (m : ExpectationMatcher) : Prop where
  pattern : m.pattern = .ofDefinition matchType m.expectation.request
  matchType : m.matchType = matchType
  plain : m.expectation.request.isPlain = true

theorem IsCurrent.update (h : IsCurrent matchType m) {e : Expectation}
    (he : e.request.isPlain = true) : IsCurrent matchType (m.update e).2 := by
  obtain ⟨-, hupdate⟩ | ⟨-, hupdate⟩ := m.update_cases e <;> rw [hupdate]
  · exact h
  · refine ⟨?_, h.matchType, he⟩
    by_cases hrequest : m.expectation.request.equal e.request = true
    · -- the old pattern stays, and it is the one of the new definition
      have hdefinition := RequestDefinition.eq_of_equal hrequest h.plain he
      simp only [if_pos hrequest]
      rw [h.pattern, hdefinition]
    · simp only [if_neg hrequest]
      rw [h.matchType]

theorem IsCurrent.updateAll (es : List Expectation) : ∀ {m : ExpectationMatcher},
    IsCurrent matchType m → (∀ e ∈ es, e.request.isPlain = true) →
      IsCurrent matchType (m.updateAll es) := by
  induction es with
  | nil => exact fun h _ => h
  | cons e rest ih =>
    exact fun h hes => ih (h.update (hes e List.mem_cons_self))
      fun x hx => hes x (List.mem_cons_of_mem _ hx)

/-! ## Verdicts after updates -/

theorem attempt_accepted (m : ExpectationMatcher) (r : HttpRequest) (d : Option Diagnostics) :
    (m.attempt r d).accepted = m.accepts r := by
  rw [accepts, attempt, attempt, RequestPattern.attempt_accepted, RequestPattern.attempt_accepted]

/-- After any updates without negative zeros a matcher comes to the verdicts of a new one for the
expectation in place, which is the last one that came or equals it. It gives that expectation for the
requests that it accepts, and tells of the next one whether it differs. -/
theorem updateAll_verdict (mode : MatchMode) (cache : Regex.Cache) (matchType : JsonMatchType)
    (origin : Origin) (e : Expectation) (es : List Expectation)
    (hplain : ∀ x ∈ e :: es, x.request.isPlain = true) :
    let m := (ofExpectation (.ofCache mode cache) matchType origin e).updateAll es
    (m.expectation = es.getLastD e ∨ m.expectation.equal (es.getLastD e) = true) ∧
      (∀ cache₁ cache₂ r d₁ d₂,
        ({ m with comparator := .ofCache mode cache₁ }.attempt r d₁).accepted =
          ((ofExpectation (.ofCache mode cache₂) matchType origin m.expectation).attempt r d₂).accepted) ∧
      (∀ r d₁ d₂, m.matched? r d₁ = if (m.attempt r d₂).accepted then some m.expectation else none) ∧
      ∀ next, ((m.update next).1 = true ↔ m.expectation.equal next = false) ∧
        (m.expectation.isExact = true → next.isExact = true →
          ((m.update next).1 = true ↔ m.expectation ≠ next)) := by
  intro m
  have hnew : IsCurrent matchType (ofExpectation (.ofCache mode cache) matchType origin e) :=
    ⟨rfl, rfl, hplain e List.mem_cons_self⟩
  have hcurrent : IsCurrent matchType m :=
    hnew.updateAll es fun x hx => hplain x (List.mem_cons_of_mem _ hx)
  have hdiffers : ∀ next, (m.update next).1 = true ↔ m.expectation.equal next = false := fun next => by
    rw [update_fst, Bool.not_eq_true']
  refine ⟨updateAll_expectation es _ e (.inl rfl), fun cache₁ cache₂ r d₁ d₂ => ?_,
    fun r d₁ d₂ => ?_, fun next => ⟨hdiffers next, fun hm hnext => ?_⟩⟩
  · rw [attempt, attempt, RequestPattern.attempt_accepted, RequestPattern.attempt_accepted,
      Comparator.ofCache_eq_direct, ofExpectation, Comparator.ofCache_eq_direct, hcurrent.pattern]
  · rw [matched?, attempt_accepted, attempt_accepted]
  · rw [hdiffers, ← Bool.not_eq_true, Expectation.equal_iff_eq hm hnext]

def expectingPath (path : String) (action : Json) : Expectation where
  id := "a"
  created := { year := 2024, month := 1, day := 1 }
  request := { path := some (.plain path) }
  action := action

/-- A change of the action keeps the pattern and a change of the path does not; both go unnoticed. -/
theorem updateAll_verdict_of_paths :
    let es := [expectingPath "/a" (.bool true), expectingPath "/b" (.bool true)]
    let m := (ofExpectation (.fresh .dataPlane) .strict .api (expectingPath "/a" .null)).updateAll es
    (∀ x ∈ expectingPath "/a" .null :: es, x.request.isPlain = true) ∧
      (∀ r, (m.attempt r none).accepted =
        ((ofExpectation (.fresh .dataPlane) .strict .api m.expectation).attempt r none).accepted) ∧
      m.accepts { method := "GET", path := "/b" } = true ∧
      m.accepts { method := "GET", path := "/a" } = false ∧
      (m.update (expectingPath "/b" (.bool true))).1 = false ∧
      (m.update (expectingPath "/b" .null)).1 = true := by
  intro es m
  have hplain : ∀ x ∈ expectingPath "/a" .null :: es, x.request.isPlain = true := by
    simp [es, expectingPath, RequestDefinition.isPlain]
  obtain ⟨-, hverdicts, -, -⟩ := updateAll_verdict .dataPlane (.ofSize 1000) .strict .api
    (expectingPath "/a" .null) es hplain
  exact ⟨hplain, fun r => hverdicts (.ofSize 1000) (.ofSize 1000) r none none, by decide +kernel,
    by decide +kernel, by decide +kernel, by decide +kernel⟩

end ExpectationMatcher
end RequestMatching
