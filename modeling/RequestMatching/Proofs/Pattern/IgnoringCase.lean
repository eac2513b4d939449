import RequestMatching.Proofs.Pattern.Containment
import RequestMatching.Proofs.Pattern.Lookup
import RequestMatching.Proofs.Regex.PlainSources
import RequestMatching.Pattern.MultiMap

/-!
# Keys without regard to case

To compare keys without regard to case, the keys of the patterns are lower-cased as sources and those of
the candidate as texts. Where lower case does not narrow what a pattern key says, what is accepted with
regard to case is accepted without.
-/

namespace RequestMatching

/-! ## Keys -/

/-- However a pattern key matches the key of a candidate with regard to case, lower case keeps that way of
matching. Nothing is asked of keys that do not match. -/
structure LowersAlike (mode : MatchMode) (pattern candidate : String) : Prop where
  /-- Where the pattern matches as an expression, it is not narrowed, and the key of the candidate is
  lower-cased character by character. -/
  forth : (Regex.compileWhole pattern).any (·.isMatch candidate) = true →
    Regex.LowersSoundly pattern ∧ Text.LowersEvenly candidate
  /-- If the two are the same text, they still are. -/
  same : pattern = candidate → Regex.lowerPattern pattern = Text.lowercase candidate
  /-- Where the key of the candidate is read as an expression, that one is not narrowed, and both keys are
  lower-cased behind backslashes too. -/
  back : mode = .controlPlane → (Regex.compileWhole candidate).any (·.isMatch pattern) = true →
    Regex.LowersSoundly candidate ∧ Regex.lowerPattern candidate = Text.lowercase candidate ∧
      (Regex.lowerPattern pattern).toList = pattern.toList.map lowered

theorem isBlank_lowerPattern {source : String} (h : Text.isBlank source = true) :
    Text.isBlank (Regex.lowerPattern source) = true := by
  have hspaces : ∀ cs : List Char, cs.all isSpace = true → Flagged.lowerPatternFrom false cs = cs := by
    intro cs
    induction cs with
    | nil => exact fun _ => rfl
    | cons c cs ih =>
      intro hall
      obtain ⟨hspace, hrest⟩ := Bool.and_eq_true_iff.mp (List.all_cons ▸ hall)
      have hdot : c ≠ '\u0130' := by rintro rfl; cases hspace
      have hslash : (c == '\\') = false := by
        rw [beq_eq_false_iff_ne]
        rintro rfl
        cases hspace
      simp [Flagged.lowerPatternFrom, lowerChar_eq hdot, (isCaseless_of_isSpace hspace).lowered,
        hslash, ih hrest]
  rw [Text.isBlank] at h ⊢
  rw [Regex.lowerPattern, String.toList_ofList, hspaces _ h, h]

theorem LowersAlike.acceptsText {mode : MatchMode} {pattern candidate : String}
    (h : LowersAlike mode pattern candidate)
    (haccepts : (Comparator.direct mode).acceptsText pattern candidate = true) :
    (Comparator.direct mode).acceptsText (Regex.lowerPattern pattern) (Text.lowercase candidate) =
      true := by
  simp only [Comparator.acceptsText, Bool.or_eq_true, Bool.and_eq_true, beq_iff_eq] at haccepts ⊢
  rcases haccepts with ((hblank | hsame) | hforth) | ⟨hmode, hback⟩
  · exact .inl (.inl (.inl (isBlank_lowerPattern hblank)))
  · exact .inl (.inl (.inr (h.same hsame)))
  · obtain ⟨hsound, heven⟩ := h.forth hforth
    exact .inl (.inr (hsound.matches heven hforth))
  · obtain ⟨hsound, hcandidate, hpattern⟩ := h.back hmode hback
    have hmatch := hsound.matches hpattern hback
    rw [hcandidate] at hmatch
    exact .inr ⟨hmode, hmatch⟩

/-! ## Containment -/

/-- A pattern that can neither forbid its key nor do without it. -/
def Entry.IsRequired (p : Entry) : Prop :=
  p.key.negated = false ∧ p.key.optional = false

namespace Subset

variable {c : Comparator} {patterns candidates : List Entry}

theorem filter_claims_of_isRequired (h : ∀ p ∈ patterns, p.IsRequired) :
    patterns.filter (Claims c candidates) = patterns := by
  refine List.filter_eq_self.mpr fun p hp => ?_
  obtain ⟨hkey, hrequired⟩ := h p hp
  simp [Claims, OptionalAbsent, hkey, hrequired]

/-- Required patterns stay contained when patterns and candidates change so that none of the candidates
is lost for its pattern. -/
theorem Contains.map {f g : Entry → Entry} (hpatterns : ∀ p ∈ patterns, p.IsRequired)
    (hchanged : ∀ p ∈ patterns, (f p).IsRequired)
    (hserves : ∀ p ∈ patterns, ∀ e ∈ candidates, Serves c p e → Serves c (f p) (g e))
    (h : Contains c patterns candidates) : Contains c (patterns.map f) (candidates.map g) where
  no_forbidden := by
    rintro p' hp' ⟨hnegated, -⟩
    obtain ⟨p, hp, rfl⟩ := List.mem_map.mp hp'
    rw [(hchanged p hp).1] at hnegated
    cases hnegated
  served := by
    intro p' hp'
    obtain ⟨p, hp, rfl⟩ := List.mem_map.mp hp'
    rcases h.served p hp with ⟨e, he, hs⟩ | ⟨hoptional, -⟩
    · exact .inl ⟨g e, List.mem_map_of_mem he, hserves p hp e he hs⟩
    · rw [(hpatterns p hp).2] at hoptional
      cases hoptional
  distinct := by
    have hmapped : ∀ p ∈ patterns.map f, p.IsRequired := by
      simpa using hchanged
    obtain ⟨places, hnodup, hplaces⟩ := h.distinct
    refine ⟨places, hnodup, ?_⟩
    rw [filter_claims_of_isRequired hpatterns] at hplaces
    rw [filter_claims_of_isRequired hmapped, List.forall₂_map_left_iff]
    rw [List.forall₂_iff_get] at hplaces ⊢
    refine ⟨hplaces.1, fun i hi hi' => ?_⟩
    obtain ⟨e, he, hs⟩ := hplaces.2 i hi hi'
    refine ⟨g e, by rw [List.getElem?_map, he]; rfl, ?_⟩
    exact hserves _ (List.get_mem ..) e (List.mem_of_getElem? he) hs

end Subset

/-! ## Multimaps -/

namespace MultiMapPattern

/-- Where lower case keeps the keys that match, a candidate that is accepted with regard to case is accepted
without, whatever the caches hold. -/
theorem check_ignoringCase {mode : MatchMode} {m candidate : MultiMap}
    (hrequired : ∀ p ∈ m, p.IsRequired) (hpositive : ∀ e ∈ candidate, e.key.negated = false)
    (hkeys : ∀ p ∈ m, ∀ e ∈ candidate, LowersAlike mode p.key.value e.key.value)
    (cache cache' : Regex.Cache)
    (h : ((MultiMapPattern.mk m false).check (.ofCache mode cache) candidate).accepted = true) :
    ((ignoringCase m).check (.ofCache mode cache') candidate).accepted = true := by
  rw [Comparator.ofCache_eq_direct] at h ⊢
  rcases m with - | ⟨p, m⟩
  · rfl
  rcases candidate with - | ⟨e, candidate⟩
  · -- with required keys only, an empty candidate is refused
    obtain ⟨hnegated, hoptional⟩ := hrequired p (List.mem_cons_self ..)
    simp [check, MultiMap.allNegated, MultiMap.allOptional, hnegated, hoptional, Finding.ofBool,
      Finding.reject] at h
  have hcontains := (Subset.check_accepted_iff_contains _ _ _).mp h
  refine (Subset.check_accepted_iff_contains _ _ _).mpr
    (hcontains.map hrequired (fun p hp => hrequired p hp) fun p hp e he hs => ?_)
  obtain ⟨hkey, hvalue⟩ := hs
  have hnegated := (hrequired p hp).1
  have hplain := hpositive e he
  refine ⟨?_, hvalue⟩
  simp only [Comparator.accepts, Flagged.lowercasePattern, Flagged.lowercase, hnegated, hplain,
    Bool.and_self, Bool.or_self, Bool.false_bne, Bool.false_eq_true, if_false] at hkey ⊢
  exact (hkeys p hp e he).acceptsText hkey

theorem check_ignoringCase_of_groups :
    ((ignoringCase [.plain "X-(?:Trace|Span)\\.Id+" "1"]).check (.fresh .controlPlane)
      [.plain "X-Span.Idd" "1"]).accepted = true := by
  have hpattern : Regex.LowersSoundly "X-(?:Trace|Span)\\.Id+" := by
    refine .of_isPlain (by decide) (by decide) fun hroom => ?_
    have hok : (Regex.parseWhole (Regex.lowerPattern "X-(?:Trace|Span)\\.Id+")).isOk = true := by
      decide +kernel
    rw [hroom] at hok
    cases hok
  have hkey : LowersAlike .controlPlane "X-(?:Trace|Span)\\.Id+" "X-Span.Idd" := by
    refine ⟨fun _ => ⟨hpattern, Text.lowersEvenly_of_notMem (by decide) (by decide)⟩,
      fun h => absurd h (by decide), fun _ hback => ?_⟩
    exact absurd hback (by decide +kernel)
  have hrequired : ∀ p ∈ [Entry.plain "X-(?:Trace|Span)\\.Id+" "1"], p.IsRequired := by
    simp [Entry.IsRequired, Entry.plain, Flagged.plain]
  have hpositive : ∀ e ∈ [Entry.plain "X-Span.Idd" "1"], e.key.negated = false := by
    simp [Entry.plain, Flagged.plain]
  have hkeys : ∀ p ∈ [Entry.plain "X-(?:Trace|Span)\\.Id+" "1"],
      ∀ e ∈ [Entry.plain "X-Span.Idd" "1"], LowersAlike .controlPlane p.key.value e.key.value := by
    simpa [Entry.plain, Flagged.plain] using hkey
  exact check_ignoringCase hrequired hpositive hkeys (.ofSize 1000) (.ofSize 1000) (by decide +kernel)

/-- A class that leaves out a letter leaves out both its cases when case is ignored. -/
theorem not_check_ignoringCase : ¬ ∀ (mode : MatchMode) (m candidate : MultiMap),
    (∀ p ∈ m, p.IsRequired) →
    ((MultiMapPattern.mk m false).check (.fresh mode) candidate).accepted = true →
    ((ignoringCase m).check (.fresh mode) candidate).accepted = true := by
  intro h
  have hrequired : ∀ p ∈ [Entry.plain "[^A]" "1"], p.IsRequired := by
    simp [Entry.IsRequired, Entry.plain, Flagged.plain]
  have haccepted := h .dataPlane [.plain "[^A]" "1"] [.plain "a" "1"] hrequired (by decide +kernel)
  exact absurd haccepted (by decide +kernel)

end MultiMapPattern
end RequestMatching
