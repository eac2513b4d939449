import RequestMatching.Pattern.MultiMap
import RequestMatching.Proofs.Pattern.Containment
import RequestMatching.Proofs.Pattern.Lookup

/-!
# Nothing to match

Patterns ask nothing of a candidate if each of them forbids a key that is not there or is optional.
Where the candidate has other entries, the comparison goes pattern by pattern and accepts any mixture
of the two. An empty candidate is accepted by what holds of all keys at once, so that a mixture is
refused.
-/

namespace RequestMatching

/-- A key that is only negated stands beside one that is only optional. -/
def MultiMap.IsMixed (m : MultiMap) : Prop :=
  (∃ e ∈ m, e.key.negated = true ∧ e.key.optional = false) ∧
    ∃ e ∈ m, e.key.optional = true ∧ e.key.negated = false

/-! ## Beside other entries -/

namespace Subset

variable {c : Comparator} {candidates : List Entry} {p : Entry}

/-- A pattern whose key is not among those of the candidates and that can do without it: the key is
optional, or it is forbidden and nothing is asked of a value. -/
structure IsIdle (c : Comparator) (candidates : List Entry) (p : Entry) : Prop where
  unrelated : ∀ e ∈ candidates, e.key.negated = false ∧ e.value.negated = false ∧
    c.acceptsText p.key.value e.key.value = false
  dispensable : (p.key.optional = true ∧ p.key.negated = false) ∨
    (p.key.negated = true ∧ p.value.negated = false ∧ p.value.isBlank = true)

theorem IsIdle.not_forbiddenPresent (h : IsIdle c candidates p) :
    ¬ ForbiddenPresent c candidates p := by
  rintro ⟨-, e, he, hplain, haccepts⟩
  obtain ⟨-, -, htext⟩ := h.unrelated e he
  simp [Comparator.accepts, Flagged.withoutNegation, hplain, htext] at haccepts

theorem IsIdle.optionalAbsent (h : IsIdle c candidates p) (hoptional : p.key.optional = true)
    (hplain : p.key.negated = false) : OptionalAbsent c candidates p := by
  refine ⟨hoptional, fun e he => ?_⟩
  obtain ⟨hkey, -, htext⟩ := h.unrelated e he
  simp [Comparator.accepts, hplain, hkey, htext]

theorem IsIdle.serves (h : IsIdle c candidates p) (hnegated : p.key.negated = true)
    (hvalue : p.value.negated = false) (hblank : p.value.isBlank = true) {e : Entry}
    (he : e ∈ candidates) : Serves c p e := by
  obtain ⟨hkey, hplain, htext⟩ := h.unrelated e he
  rw [Flagged.isBlank] at hblank
  refine ⟨?_, ?_⟩
  · simp [Comparator.accepts, hnegated, hkey, htext]
  · simp [Comparator.accepts, Comparator.acceptsText, hvalue, hplain, hblank]

theorem IsIdle.not_claims (h : IsIdle c candidates p) : ¬ Claims c candidates p := by
  rcases h.dispensable with ⟨hoptional, hplain⟩ | ⟨hnegated, hvalue, -⟩
  · exact fun hclaims => hclaims.2 (h.optionalAbsent hoptional hplain)
  · exact fun hclaims => hclaims.1 ⟨hnegated, hvalue⟩

/-- Patterns that are all idle are contained, whichever of them forbid their keys and whichever are
optional. -/
theorem contains_of_isIdle {patterns : List Entry} (hcandidates : candidates ≠ [])
    (h : ∀ p ∈ patterns, IsIdle c candidates p) : Contains c patterns candidates where
  no_forbidden p hp := (h p hp).not_forbiddenPresent
  served p hp := by
    rcases (h p hp).dispensable with ⟨hoptional, hplain⟩ | ⟨hnegated, hvalue, hblank⟩
    · exact .inr ((h p hp).optionalAbsent hoptional hplain)
    · obtain ⟨e, he⟩ := List.exists_mem_of_ne_nil candidates hcandidates
      exact .inl ⟨e, he, (h p hp).serves hnegated hvalue hblank he⟩
  distinct := by
    have hnone : patterns.filter (Claims c candidates) = [] := by
      rw [List.filter_eq_nil_iff]
      exact fun p hp => by simpa using (h p hp).not_claims
    exact ⟨[], List.nodup_nil, by rw [hnone]; exact .nil⟩

end Subset

namespace MultiMapPattern

theorem check_accepted_of_isIdle (c : Comparator) {m candidate : MultiMap} (hcandidate : candidate ≠ [])
    (h : ∀ p ∈ m, Subset.IsIdle c candidate p) :
    ((MultiMapPattern.mk m false).check c candidate).accepted = true := by
  have hempty : candidate.isEmpty = false := by simpa using hcandidate
  unfold check MultiMap.contains
  cases hm : m.isEmpty with
  | true => rfl
  | false =>
    simp only [hempty, Bool.false_eq_true, if_false]
    exact (Subset.check_accepted_iff_contains c m candidate).mpr
      (Subset.contains_of_isIdle hcandidate h)

/-! ## An empty candidate -/

theorem all_or_all_iff (m : MultiMap) : (m.allNegated || m.allOptional) = true ↔
    (∀ e ∈ m, e.key.negated = true ∨ e.key.optional = true) ∧ ¬ m.IsMixed := by
  simp only [MultiMap.allNegated, MultiMap.allOptional, Bool.or_eq_true, List.all_eq_true]
  constructor
  · rintro (hall | hall)
    · refine ⟨fun e he => .inl (hall e he), ?_⟩
      rintro ⟨-, e, he, -, hplain⟩
      rw [hall e he] at hplain
      cases hplain
    · refine ⟨fun e he => .inr (hall e he), ?_⟩
      rintro ⟨⟨e, he, -, hplain⟩, -⟩
      rw [hall e he] at hplain
      cases hplain
  · rintro ⟨hall, hmixed⟩
    by_cases hnegated : ∀ e ∈ m, e.key.negated = true
    · exact .inl hnegated
    · -- some key is only optional, so no key is only negated
      push Not at hnegated
      obtain ⟨e, he, hplain⟩ := hnegated
      have hoptional : e.key.optional = true := (hall e he).resolve_left hplain
      have hno : ¬ ∃ e ∈ m, e.key.negated = true ∧ e.key.optional = false := fun h =>
        hmixed ⟨h, e, he, hoptional, Bool.eq_false_iff.mpr hplain⟩
      refine .inr fun e' he' => ?_
      by_contra hrequired
      have hnegated' : e'.key.negated = true := (hall e' he').resolve_right hrequired
      exact hno ⟨e', he', hnegated', Bool.eq_false_iff.mpr hrequired⟩

/-- The verdict on an empty candidate comes from the flags of the keys alone. -/
theorem check_nil_accepted (c : Comparator) {p : MultiMapPattern} (hp : p.entries ≠ []) :
    (p.check c []).accepted = (p.entries.allNegated || p.entries.allOptional) := by
  have hentries : p.entries.isEmpty = false := by simpa using hp
  simp only [check, hentries, List.isEmpty_nil, if_true, Bool.false_eq_true, if_false,
    Finding.ofBool_accepted]

@[simp]
theorem lowercasePatternKeys_allNegated (m : MultiMap) :
    m.lowercasePatternKeys.allNegated = m.allNegated := by
  simp [MultiMap.allNegated, MultiMap.lowercasePatternKeys, Flagged.lowercasePattern,
    Function.comp_def]

@[simp]
theorem lowercasePatternKeys_allOptional (m : MultiMap) :
    m.lowercasePatternKeys.allOptional = m.allOptional := by
  simp [MultiMap.allOptional, MultiMap.lowercasePatternKeys, Flagged.lowercasePattern,
    Function.comp_def]

/-- An empty candidate is accepted if every key is negated or optional and the two are not mixed, with
regard to case or without. -/
theorem check_nil_accepted_iff (c : Comparator) {m : MultiMap} (hm : m ≠ []) :
    (((MultiMapPattern.mk m false).check c []).accepted = true ↔
      (∀ e ∈ m, e.key.negated = true ∨ e.key.optional = true) ∧ ¬ m.IsMixed) ∧
    (((ignoringCase m).check c []).accepted = true ↔
      (∀ e ∈ m, e.key.negated = true ∨ e.key.optional = true) ∧ ¬ m.IsMixed) := by
  have hlowered : m.lowercasePatternKeys ≠ [] := by simpa [MultiMap.lowercasePatternKeys] using hm
  refine ⟨?_, ?_⟩
  · rw [check_nil_accepted c (p := ⟨m, false⟩) hm, all_or_all_iff]
  · rw [check_nil_accepted c (p := ignoringCase m) hlowered, ignoringCase,
      lowercasePatternKeys_allNegated, lowercasePatternKeys_allOptional, all_or_all_iff]

theorem check_nil_accepted_iff_of_forbidden :
    ((MultiMapPattern.mk [.parse "!a" "", .parse "?!b" "1"] false).check (.fresh .dataPlane) []).accepted
        = true ↔
      (∀ e ∈ [Entry.parse "!a" "", .parse "?!b" "1"], e.key.negated = true ∨ e.key.optional = true) ∧
        ¬ MultiMap.IsMixed [.parse "!a" "", .parse "?!b" "1"] :=
  (check_nil_accepted_iff (.fresh .dataPlane) (by simp)).1

/-- A forbidden key and an optional one, each of which accepts an empty candidate alone. -/
theorem not_check_nil_accepted_of_flagged :
    ¬ ∀ (c : Comparator) (m : MultiMap), m ≠ [] →
      (((MultiMapPattern.mk m false).check c []).accepted = true ↔
        ∀ e ∈ m, e.key.negated = true ∨ e.key.optional = true) := by
  intro h
  have hflagged : ∀ e ∈ [Entry.parse "!a" "", .parse "?b" "1"],
      e.key.negated = true ∨ e.key.optional = true := by decide
  have haccepted := (h (.fresh .dataPlane) [.parse "!a" "", .parse "?b" "1"] (by simp)).mpr hflagged
  exact absurd haccepted (by decide)

end MultiMapPattern
end RequestMatching
