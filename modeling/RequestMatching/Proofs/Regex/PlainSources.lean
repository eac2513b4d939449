import RequestMatching.Proofs.Regex.LowerRuns

/-!
# Sources that keep their meaning in lower case

Characters, steady escapes, groups, alternatives and repetitions with a mark say the same in lower case.
A source that is made of them can be told by its text.
-/

namespace RequestMatching

namespace Regex

/-! ## Constructs -/

theorem keepsAt_of_notMem (f : Flags) (names : List String) {c : Char} (h : c ∉ ['(', '[', '\\'])
    (cs : List Char) : KeepsAt f names c cs := by
  unfold KeepsAt
  split <;> first | contradiction | trivial

theorem keepsAt_escape {f : Flags} (names : List String) {cs : List Char}
    (h : isSteadyEscape f cs = true) : KeepsAt f names '\\' cs := by
  intro hunsteady
  rw [h] at hunsteady
  cases hunsteady

theorem opening_of_ne {f : Flags} {cs : List Char} (h : ∀ rest, f.skip cs ≠ '?' :: rest)
    (names : List String) : opening f names cs = .ok (⟨some true, f, names⟩, f.skip cs) := by
  simp only [opening, State.group]
  rfl

theorem keepsAt_group {f : Flags} (names : List String) {cs : List Char}
    (h : ∀ rest, f.skip cs ≠ '?' :: rest) : KeepsAt f names '(' cs := by
  intro o rest ho
  have hlowered : ∀ rest, f.skip (lowerSource false cs) ≠ '?' :: rest := by
    intro rest
    rw [f.skip_lowerSource]
    cases hskip : f.skip cs with
    | nil => nofun
    | cons c after =>
      have hc : c ≠ '?' := fun hc => h after (by rw [hskip, hc])
      exact fun heq => hc ((lowered_eq_mark_iff (by decide)).mp (List.cons.inj heq).1)
  rw [opening_of_ne h] at ho
  cases ho
  rw [opening_of_ne hlowered, f.skip_lowerSource]
  rfl

theorem opening_bare {f : Flags} (hf : f.verbose = false) (names : List String) (cs : List Char) :
    opening f names ('?' :: ':' :: cs) = .ok (⟨some false, f, names⟩, cs) := by
  simp only [opening, State.group, Flags.skip, hf, Bool.false_eq_true, if_false]
  rfl

theorem keepsAt_bareGroup {f : Flags} (hf : f.verbose = false) (names : List String)
    (cs : List Char) : KeepsAt f names '(' ('?' :: ':' :: cs) := by
  intro o rest ho
  rw [opening_bare hf] at ho
  cases ho
  rw [lowerSource_mark (by decide) (by decide), lowerSource_mark (by decide) (by decide),
    opening_bare hf]
  rfl

/-! ## Sources -/

/-- Whether a source is made of characters, steady escapes, groups without flags and names, alternatives
and repetitions with a mark. -/
def isPlain : List Char → Bool
  | '\\' :: c :: cs => isSteadyEscape {} (c :: cs) && isPlain cs
  | '(' :: '?' :: ':' :: cs => isPlain cs
  | '(' :: '?' :: _ => false
  | c :: cs => c != '\\' && c != '[' && c != '\x7b' && isPlain cs
  | [] => true

inductive PlainStep : Char → List Char → Prop
  | escape {c : Char} {cs : List Char} (hc : isSteadyEscape {} (c :: cs) = true)
      (h : isPlain cs = true) : PlainStep '\\' (c :: cs)
  | bareGroup {cs : List Char} (h : isPlain cs = true) : PlainStep '(' ('?' :: ':' :: cs)
  | group {cs : List Char} (hmark : ∀ rest, cs ≠ '?' :: rest) (h : isPlain cs = true) :
      PlainStep '(' cs
  | other {c : Char} {cs : List Char} (hc : c ∉ ['\\', '(', '[', '\x7b']) (h : isPlain cs = true) :
      PlainStep c cs

theorem plainStep {c : Char} {cs : List Char} (h : isPlain (c :: cs) = true) : PlainStep c cs := by
  rw [isPlain.eq_def] at h
  split at h
  · rename_i heq
    cases heq
    obtain ⟨hc, hrest⟩ := Bool.and_eq_true_iff.mp h
    exact .escape hc hrest
  · rename_i heq
    cases heq
    exact .bareGroup h
  · cases h
  · rename_i hescape hbare hmark heq
    cases heq
    simp only [Bool.and_eq_true, bne_iff_ne, ne_eq] at h
    obtain ⟨⟨⟨hslash, hbracket⟩, hbrace⟩, hrest⟩ := h
    by_cases hgroup : c = '('
    · subst hgroup
      exact .group (fun rest => hmark rest rfl) hrest
    · exact .other (by simp [hslash, hgroup, hbracket, hbrace]) hrest
  · rename_i heq
    cases heq

/-- The parser has read no flags so far. -/
structure IsUnmarked (s : State) : Prop where
  flags : s.flags = {}
  groups : ∀ g ∈ s.groups, g.flags = {}

theorem IsUnmarked.enter {s : State} (h : IsUnmarked s) (captures : Bool) (names : List String) :
    IsUnmarked (s.enter ⟨some captures, {}, names⟩) :=
  ⟨rfl, List.forall_mem_cons.mpr ⟨h.flags, h.groups⟩⟩

theorem isPlain_dropLazy {cs : List Char} (h : isPlain cs = true) : isPlain (dropLazy cs) = true := by
  cases cs with
  | nil => rfl
  | cons c cs =>
    by_cases hc : c = '?'
    · subst hc
      cases plainStep h with
      | other hc hrest => exact hrest
    · simpa [dropLazy, hc] using h

theorem IsUnmarked.repeated {s s' : State} (h : IsUnmarked s) {min : Nat} {max : Option Nat}
    {cs rest : List Char} (hcs : isPlain cs = true)
    (hrep : (s.repeatLast min max).map (·, dropLazy cs) = .ok (s', rest)) :
    IsUnmarked s' ∧ isPlain rest = true := by
  obtain ⟨s₁, hlast, heq⟩ := ok_of_map hrep
  cases heq
  unfold State.repeatLast at hlast
  split at hlast
  · cases hlast
    exact ⟨⟨h.flags, h.groups⟩, isPlain_dropLazy hcs⟩
  · cases hlast

theorem IsUnmarked.closeGroup {s s' : State} (h : IsUnmarked s) (hclose : s.closeGroup = .ok s') :
    IsUnmarked s' := by
  have hgroups := h.groups
  unfold State.closeGroup at hclose
  split at hclose
  · cases hclose
  · rename_i g groups hs
    cases hclose
    rw [hs, List.forall_mem_cons] at hgroups
    exact ⟨hgroups.1, hgroups.2⟩

/-- Reading a construct of a plain source sets no flags and leaves a plain source. -/
theorem IsUnmarked.step {s s' : State} (h : IsUnmarked s) {c : Char} {cs rest : List Char}
    (hplain : PlainStep c cs) (hstep : s.step c cs = .ok (s', rest)) :
    IsUnmarked s' ∧ isPlain rest = true := by
  have hpush : ∀ p, IsUnmarked (s.push p) := fun p => ⟨h.flags, h.groups⟩
  cases hplain with
  | escape hc hrest =>
    have hescaped : s.escaped _ = .ok (s', rest) := hstep
    obtain ⟨p, -, hread⟩ := escapedPiece_of_isSteadyEscape hc
    rw [State.escaped_eq, h.flags, hread _ hc] at hescaped
    cases hescaped
    exact ⟨hpush _, hrest⟩
  | bareGroup hrest =>
    have hgroup : s.group _ = .ok (s', rest) := hstep
    rw [State.group_eq, h.flags, opening_bare rfl] at hgroup
    cases hgroup
    exact ⟨h.enter _ _, hrest⟩
  | group hmark hrest =>
    have hgroup : s.group _ = .ok (s', rest) := hstep
    rw [State.group_eq, h.flags, opening_of_ne (f := {}) hmark] at hgroup
    cases hgroup
    exact ⟨h.enter _ _, hrest⟩
  | other hc hrest =>
    unfold State.step at hstep
    split at hstep
    · exact absurd hc (by decide)
    · obtain ⟨s₁, hclose, heq⟩ := ok_of_map hstep
      cases heq
      exact ⟨h.closeGroup hclose, hrest⟩
    · cases hstep
      exact ⟨⟨h.flags, h.groups⟩, hrest⟩
    · exact absurd hc (by decide)
    · exact h.repeated hrest hstep
    · exact h.repeated hrest hstep
    · exact h.repeated hrest hstep
    · exact absurd hc (by decide)
    · exact absurd hc (by decide)
    · split at hstep <;> cases hstep
      exact ⟨hpush _, hrest⟩
    · cases hstep
      exact ⟨hpush _, hrest⟩
    · cases hstep
      exact ⟨hpush _, hrest⟩
    · cases hstep
      exact ⟨hpush _, hrest⟩

theorem ComesTo.isPlain {source cs : List Char} {s : State} (h : ComesTo source s cs)
    (hsource : isPlain source = true) : IsUnmarked s ∧ Regex.isPlain cs = true := by
  induction h with
  | start => exact ⟨⟨rfl, nofun⟩, hsource⟩
  | step _ hskip hstep ih =>
    obtain ⟨hunmarked, hcs⟩ := ih
    rw [hunmarked.flags] at hskip
    cases hskip
    exact hunmarked.step (plainStep hcs) hstep

/-- Lower case narrows nothing in a plain source. -/
theorem keeps_of_isPlain {source : List Char} (h : isPlain source = true) : Keeps source := by
  intro s cs c after hcomes hskip
  obtain ⟨hunmarked, hcs⟩ := hcomes.isPlain h
  rw [hunmarked.flags] at hskip ⊢
  cases hskip
  cases plainStep hcs with
  | escape hc hrest => exact keepsAt_escape _ hc
  | bareGroup hrest => exact keepsAt_bareGroup rfl _ _
  | group hmark hrest => exact keepsAt_group _ hmark
  | other hc hrest =>
    refine keepsAt_of_notMem _ _ (fun hmem => hc ?_) _
    simp only [List.mem_cons, List.not_mem_nil, or_false] at hmem ⊢
    tauto

example : isPlain "X-\\D+".toList = true := by decide

theorem PlainStep.isPlain {c : Char} {cs : List Char} (h : PlainStep c cs) :
    Regex.isPlain (c :: cs) = true := by
  cases h with
  | escape hc hrest => simp [Regex.isPlain, hc, hrest]
  | bareGroup hrest => exact hrest
  | group hmark hrest =>
    rw [isPlain.eq_def]
    split
    · rename_i heq; cases heq
    · rename_i heq; cases heq; exact absurd rfl (hmark _)
    · rename_i heq; cases heq; exact absurd rfl (hmark _)
    · rename_i heq
      cases heq
      rw [hrest]
      rfl
    · rename_i heq; cases heq
  | other hc hrest =>
    simp only [List.mem_cons, List.not_mem_nil, or_false, not_or] at hc
    obtain ⟨hslash, hgroup, hbracket, hbrace⟩ := hc
    rw [isPlain.eq_def]
    split
    · rename_i heq; cases heq; exact absurd rfl hslash
    · rename_i heq; cases heq; exact absurd rfl hgroup
    · rename_i heq; cases heq; exact absurd rfl hgroup
    · rename_i heq
      cases heq
      simp [hslash, hbracket, hbrace, hrest]
    · rename_i heq; cases heq

theorem head_ne_of_isPlain {cs : List Char} (h : isPlain cs = true) : cs.head? ≠ some '\x7b' := by
  cases cs with
  | nil => nofun
  | cons c cs =>
    intro hc
    cases hc
    cases plainStep h with
    | other hc hrest => exact hc (by decide)

theorem isPlain_append {t : List Char} (ht : isPlain t = true) (hmark : ∀ rest, t ≠ '?' :: rest)
    {cs : List Char} (h : isPlain cs = true) : isPlain (cs ++ t) = true := by
  induction hn : cs.length using Nat.strongRecOn generalizing cs with
  | _ n ih =>
  subst hn
  cases cs with
  | nil => exact ht
  | cons c cs =>
    have hshort : ∀ rest : List Char, rest.length ≤ cs.length → isPlain rest = true →
        isPlain (rest ++ t) = true :=
      fun rest hle hrest => ih rest.length (Nat.lt_succ_of_le hle) hrest rfl
    refine PlainStep.isPlain ?_
    cases plainStep h with
    | escape hc hrest =>
      have happended := hshort _ (by simp) hrest
      exact .escape (isSteadyEscape_of_head hc (head_ne_of_isPlain happended)) happended
    | bareGroup hrest => exact .bareGroup (hshort _ (by simp; omega) hrest)
    | group hopen hrest =>
      refine .group (fun rest heq => ?_) (hshort _ (Nat.le_refl _) hrest)
      cases cs with
      | nil => exact hmark rest heq
      | cons d cs => exact hopen cs (by rw [(List.cons.inj heq).1])
    | other hc hrest => exact .other hc (hshort _ (Nat.le_refl _) hrest)

theorem isPlain_anchored {source : String} (h : isPlain source.toList = true) :
    isPlain (anchored source) = true := by
  have htext : anchored source = '^' :: '(' :: '?' :: ':' :: (source.toList ++ [')', '$']) := by
    simp [anchored]
  have hclosed : isPlain (source.toList ++ [')', '$']) = true :=
    isPlain_append rfl (fun rest heq => by cases heq) h
  rw [htext]
  simp [isPlain, hclosed]

theorem LowersSoundly.of_isPlain {source : String} (hdot : '\u0130' ∉ source.toList)
    (hplain : isPlain source.toList = true)
    (hroom : parseWhole (lowerPattern source) ≠ .error .tooLarge) : LowersSoundly source :=
  ⟨hdot, keeps_of_isPlain (isPlain_anchored hplain), hroom⟩

end Regex
end RequestMatching
