import RequestMatching.Body.Matcher
import RequestMatching.Proofs.Json.FirstDifference

/-!
# Verdicts on bodies

Whether a difference is explained decides how much of it is told, never whether there is one. So an
attempt comes to one verdict whatever diagnostics it is given, and diagnostics that are not detailed
come out of it as they went in.
-/

namespace RequestMatching

/-! ## Diagnostics that keep nothing -/

theorem Diagnostics.add_quiet {d : Diagnostics} (h : d.detailed = false) (aspect : Option Aspect)
    (message : String) : d.add aspect message = d := by
  rw [add, h, if_neg Bool.false_ne_true]

theorem Diagnostics.note_quiet {d : Diagnostics} (h : d.detailed = false) (aspect : Option Aspect)
    (f : Finding) : d.note aspect f = d := by
  rw [note]
  cases f.difference with
  | none => rfl
  | some message => exact add_quiet h aspect message

/-- Attempts that differ in the diagnostics they are given and in nothing else: all come to one
verdict, and diagnostics that are not detailed gain no difference. -/
structure Impartial (run : Option Diagnostics → Attempt) : Prop where
  accepted : ∀ d, (run d).accepted = (run none).accepted
  quiet : ∀ d : Diagnostics, ∃ kept,
    (run (some { d with detailed := false })).diagnostics = some kept ∧
      kept.differences = d.differences

/-- An attempt that comes to a finding is impartial if the verdict of the finding is one with and
without an explanation. -/
theorem Impartial.ofFinding {check : Bool → Finding} (aspect : Option Aspect)
    (h : ∀ explain, (check explain).accepted = (check false).accepted) :
    Impartial fun d => (check (Diagnostics.explains d)).attempt aspect d where
  accepted d := h (Diagnostics.explains d)
  quiet d := ⟨{ d with detailed := false }, congrArg some (Diagnostics.note_quiet rfl ..), rfl⟩

/-! ## Findings on bodies -/

namespace BodyRule

theorem checkJson_accepted (pattern : String) (m : JsonMatchType) (explain : Bool) (body : String) :
    (checkJson pattern m explain body).accepted = (checkJson pattern m false body).accepted := by
  by_cases hbody : body = pattern
  · simp only [checkJson, hbody, if_true]
  · simp only [checkJson, hbody, if_false]
    cases Json.parse pattern with
    | error f => rfl
    | ok expected =>
      cases Json.parse body with
      | error f => rfl
      | ok actual =>
        have hiff := (Json.compareAt_eq_nil_iff (m := m) (!explain) [] expected actual).trans
          (Json.compareAt_eq_nil_iff (!false) [] expected actual).symm
        dsimp only
        generalize Json.compareAt ⟨m, !explain⟩ [] expected actual = found at hiff ⊢
        generalize Json.compareAt ⟨m, !false⟩ [] expected actual = all at hiff ⊢
        -- either both rows are empty or both are not
        cases found <;> cases all <;> simp_all [Finding.accept, Finding.reject]

theorem checkPresent_accepted (r : BodyRule) (explain : Bool) (body : String) :
    (checkPresent explain r body).accepted = (checkPresent false r body).accepted := by
  cases r with
  | json p m => exact checkJson_accepted p m explain body
  | _ => rfl

theorem checkOptional_accepted (r : BodyRule) (explain : Bool) (body : Option String) :
    (checkOptional explain r body).accepted = (checkOptional false r body).accepted := by
  cases body with
  | none => cases r <;> rfl
  | some s =>
    have hpresent : (if r.isBlank then .accept else if Text.isBlank s then missing
        else checkPresent explain r s).accepted =
        (if r.isBlank then .accept else if Text.isBlank s then missing
          else checkPresent false r s).accepted := by
      split
      · rfl
      · split
        · rfl
        · exact checkPresent_accepted r explain s
    cases r with
    | binary b => rfl
    | _ => exact hpresent

end BodyRule

namespace BodyMatcher

theorem applyNegation_accepted (m : BodyMatcher) (f : Finding) :
    (m.applyNegation f).accepted = (m.negated ^^ f.accepted) := by
  obtain ⟨rule, negated⟩ := m
  obtain ⟨accepted, difference⟩ := f
  cases negated <;> cases accepted <;> rfl

theorem check_accepted (m : BodyMatcher) (explain : Bool) (body : Option String) :
    (m.check explain body).accepted = (m.check false body).accepted := by
  rw [check, check, applyNegation_accepted, applyNegation_accepted,
    BodyRule.checkOptional_accepted m.rule explain]

theorem checkBytes_accepted (m : BodyMatcher) (explain : Bool) (body : Option Bytes) :
    (m.checkBytes explain body).accepted = (m.checkBytes false body).accepted := by
  have hcheck := m.check_accepted explain (body.map Utf8.decodeLossy)
  obtain ⟨rule, negated⟩ := m
  cases rule with
  | binary b => rfl
  | _ => exact hcheck

/-! ## Attempts on bodies -/

theorem attempt_impartial (m : BodyMatcher) (body : Option String) : Impartial (m.attempt body) :=
  .ofFinding (some .body) fun explain => m.check_accepted explain body

theorem attemptBytes_impartial (m : BodyMatcher) (body : Option Bytes) :
    Impartial (m.attemptBytes body) :=
  .ofFinding (some .body) fun explain => m.checkBytes_accepted explain body

end BodyMatcher
end RequestMatching
