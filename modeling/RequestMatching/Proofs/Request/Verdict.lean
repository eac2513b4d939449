import RequestMatching.Proofs.Body.Verdict
import RequestMatching.Proofs.Pattern.Lookup
import RequestMatching.Request.Pattern

/-!
# Verdicts on requests

An attempt that is not explained ends with the first aspect that rejects, while one that is explained
goes on and leaves another cache behind. Both come to the verdict that every aspect accepts.
-/

namespace RequestMatching

namespace RequestPattern

variable (c : Comparator) (mode : MatchMode) (p : RequestPattern) (r : HttpRequest)

def acceptsAspect (a : Aspect) : Bool :=
  (p.check c false r a).accepted

/-! ## With and without an explanation -/

theorem check_accepted (explain : Bool) (a : Aspect) :
    (p.check c explain r a).accepted = p.acceptsAspect c r a := by
  cases a with
  | body =>
    unfold acceptsAspect check
    cases p.body with
    | none => rfl
    | some m => exact m.checkBytes_accepted explain r.body
  | _ => rfl

theorem attemptAspect_accepted (a : Aspect) (d : Option Diagnostics) :
    (attemptAspect c p r a d).accepted = p.acceptsAspect c r a :=
  p.check_accepted c r (Diagnostics.explains d) a

theorem attemptAll_accepted (as : List Aspect) : ∀ d : Option Diagnostics,
    (attemptAll c p r as d).accepted = as.all (p.acceptsAspect c r) := by
  induction as with
  | nil => exact fun _ => rfl
  | cons a rest ih =>
    intro d
    have hfirst := attemptAspect_accepted c p r a d
    rw [attemptAll, List.all_cons, ← hfirst]
    cases ha : (attemptAspect c p r a d).accepted with
    | true => simpa using ih _
    | false => cases Diagnostics.explains d <;> simp [ha]

theorem attemptAll_quiet (as : List Aspect) : ∀ d : Diagnostics, d.detailed = false →
    ∃ kept, (attemptAll c p r as (some d)).diagnostics = some kept ∧
      kept.differences = d.differences := by
  induction as with
  | nil => exact fun d _ => ⟨d, rfl, rfl⟩
  | cons a rest ih =>
    intro d hd
    have hfirst : (attemptAspect c p r a (some d)).diagnostics = some (d.about a) :=
      congrArg some (Diagnostics.note_quiet (d := d.about a) hd ..)
    have hexplains : Diagnostics.explains (some d) = false := hd
    rw [attemptAll, hexplains, Bool.or_false]
    cases (attemptAspect c p r a (some d)).accepted with
    | true =>
      rw [hfirst]
      exact ih (d.about a) hd
    | false => exact ⟨d.about a, hfirst, rfl⟩

theorem attempt_accepted (d : Option Diagnostics) :
    (p.attempt c r d).accepted = aspects.all (p.acceptsAspect c r) :=
  attemptAll_accepted c p r aspects d

theorem attempt_impartial : Impartial (p.attempt c r) where
  accepted d := (p.attempt_accepted c r d).trans (p.attempt_accepted c r none).symm
  quiet d := attemptAll_quiet c p r aspects { d with detailed := false } rfl

/-! ## With lookups -/

def lookUp (explain : Bool) : Aspect → Lookup Bool
  | .method =>
    match p.method with
    | none => pure true
    | some m => Lookup.accepts mode m (.plain r.method)
  | .path =>
    match p.path with
    | none => pure true
    | some t => Lookup.acceptsPath mode t r.path
  | .pathParameters =>
    Lookup.acceptsMap mode p.pathParameters ((p.path.map fun t => t.parameters r.path).getD [])
  | .query => Lookup.acceptsMap mode p.query r.query
  | .cookies => Lookup.acceptsMap mode p.cookies r.cookies
  | .headers => Lookup.acceptsMap mode p.headers r.headers
  | .body => pure (checkOptional p.body fun m => m.checkBytes explain r.body).accepted
  | .secure => pure (p.secure.all (· = r.secure.getD false))
  | .protocol => pure (p.protocol.all (· = r.protocol.getD .http1))
  | .keepAlive => pure (p.keepAlive.all (· = r.keepAlive.getD true))
  | .operation | .openapi => pure true

/-- Whether all aspects of a row are accepted. Without an explanation nothing is looked up after the
first one that is not. -/
def lookUpAll (explain : Bool) : List Aspect → Lookup Bool
  | [] => pure true
  | a :: rest => do
    let accepted ← p.lookUp mode r explain a
    if accepted || explain then
      let others ← lookUpAll explain rest
      return accepted && others
    else pure false

theorem checkEqual_accepted {α : Type} [DecidableEq α] (text : α → String) (wanted : Option α)
    (actual : α) : (checkEqual text wanted actual).accepted = wanted.all (· = actual) := by
  cases wanted with
  | none => rfl
  | some w => exact Finding.ofBool_accepted ..

theorem lookUp_yields (explain : Bool) (a : Aspect) :
    Lookup.Yields (p.lookUp mode r explain a) (p.acceptsAspect (.direct mode) r a) := by
  rw [← p.check_accepted (.direct mode) r explain a]
  cases a with
  | method =>
    unfold lookUp check
    cases p.method with
    | none => exact .pure true
    | some m =>
      rw [checkOptional, Comparator.compare, Finding.ofBool_accepted]
      exact Lookup.accepts_yields mode m _
  | path =>
    unfold lookUp check
    cases p.path with
    | none => exact .pure true
    | some t => exact Lookup.acceptsPath_yields mode t r.path
  | pathParameters => exact Lookup.acceptsMap_yields mode _ _
  | query => exact Lookup.acceptsMap_yields mode _ _
  | cookies => exact Lookup.acceptsMap_yields mode _ _
  | headers => exact Lookup.acceptsMap_yields mode _ _
  | body => exact .pure _
  | secure | protocol | keepAlive =>
    rw [lookUp, check, checkEqual_accepted]
    exact .pure _
  | operation | openapi => exact .pure true

theorem lookUpAll_yields (explain : Bool) (as : List Aspect) :
    Lookup.Yields (p.lookUpAll mode r explain as) (as.all (p.acceptsAspect (.direct mode) r)) := by
  induction as with
  | nil => exact .pure true
  | cons a rest ih =>
    refine (p.lookUp_yields mode r explain a).bind ?_
    rw [List.all_cons]
    cases p.acceptsAspect (.direct mode) r a with
    | true => exact ih.map _
    | false =>
      cases explain with
      | false => exact .pure false
      | true => exact ih.map fun _ => false

/-- Every attempt on a request comes to the verdict that each of its aspects is accepted when it is
tried alone and without an explanation, whatever the cache holds before each of them, and attempts on
bodies are impartial. -/
theorem attempt_verdict (matchType : JsonMatchType) (mode : MatchMode)
    (definition : RequestDefinition) (r : HttpRequest) (alone : Aspect → Regex.Cache) :
    let p := ofDefinition matchType definition
    let verdict := aspects.all fun a =>
      (attemptAspect (.ofCache mode (alone a)) p r a none).accepted
    (∀ cache, Impartial (p.attempt (.ofCache mode cache) r)) ∧
      (∀ cache d, (p.attempt (.ofCache mode cache) r d).accepted = verdict) ∧
      (∀ cache d, ((p.lookUpAll mode r (Diagnostics.explains d) aspects).run cache).1 = verdict) ∧
      ∀ body : BodyDefinition,
        (∀ text, Impartial ((BodyMatcher.ofDefinition matchType body).attempt text)) ∧
        ∀ bytes, Impartial ((BodyMatcher.ofDefinition matchType body).attemptBytes bytes) := by
  intro p verdict
  have hverdict : verdict = aspects.all (p.acceptsAspect (.direct mode) r) := by
    refine congrArg aspects.all (funext fun a => ?_)
    rw [attemptAspect_accepted, Comparator.ofCache_eq_direct]
  refine ⟨fun cache => p.attempt_impartial _ r, fun cache d => ?_, fun cache d => ?_, fun body => ?_⟩
  · rw [p.attempt_accepted, Comparator.ofCache_eq_direct, hverdict]
  · rw [p.lookUpAll_yields mode r (Diagnostics.explains d) aspects cache, hverdict]
  · exact ⟨BodyMatcher.attempt_impartial _, BodyMatcher.attemptBytes_impartial _⟩

end RequestPattern
end RequestMatching
