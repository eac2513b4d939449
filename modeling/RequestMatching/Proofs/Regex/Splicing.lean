import RequestMatching.Proofs.Regex.Reading

/-!
# A source between further groups

Groups that are open around a text are not looked at while it is read, unless it closes a group that
it has not opened. So what is read in front of a closing is what is read alone, as long as no comment
is open where the text ends.
-/

namespace RequestMatching

namespace Regex

namespace State

def under (s : State) (gs : List Group) : State :=
  { s with groups := s.groups ++ gs }

section
variable (s : State) (gs : List Group)

@[simp]
theorem under_flags : (s.under gs).flags = s.flags := rfl

@[simp]
theorem under_items : (s.under gs).items = s.items := rfl

@[simp]
theorem under_names : (s.under gs).names = s.names := rfl

@[simp]
theorem under_groups : (s.under gs).groups = s.groups ++ gs := rfl

@[simp]
theorem under_nil : s.under [] = s := by
  simp [under]

@[simp]
theorem under_piece : (s.under gs).piece = s.piece := rfl

theorem closeGroup_under (h : s.groups ≠ []) :
    (s.under gs).closeGroup = s.closeGroup.map (·.under gs) := by
  obtain ⟨items, branches, flags, groups, names⟩ := s
  cases groups with
  | nil => exact absurd rfl h
  | cons g groups => rfl

theorem repeatLast_under (min : Nat) (max : Option Nat) :
    (s.under gs).repeatLast min max = (s.repeatLast min max).map (·.under gs) := by
  obtain ⟨items, branches, flags, groups, names⟩ := s
  rcases items with - | ⟨- | p, items⟩ <;> rfl

end

def underResult (gs : List Group) (x : Except Fault (State × List Char)) :
    Except Fault (State × List Char) :=
  x.map fun (s, rest) => (s.under gs, rest)

section
variable (s : State) (gs : List Group) (cs : List Char)

theorem bracket_under : (s.under gs).bracket cs = underResult gs (s.bracket cs) := by
  simp only [bracket, under_flags]
  cases classBody s.flags _ (openClass s.flags cs).1 [] (openClass s.flags cs).2 <;> rfl

theorem counted_under : (s.under gs).counted cs = underResult gs (s.counted cs) := by
  simp only [counted, under_flags, under_items]
  split
  · cases repeatBounds s.flags cs with
    | error e => rfl
    | ok q =>
      simp only [bind, Except.bind, repeatLast_under]
      cases s.repeatLast q.1.1 q.1.2 <;> rfl
  · rfl

theorem escaped_under : (s.under gs).escaped cs = underResult gs (s.escaped cs) := by
  simp only [escaped, under_flags]
  cases escape s.flags cs with
  | error e => rfl
  | ok q =>
    simp only [bind, Except.bind]
    cases atomPiece s.flags q.1 <;> rfl

theorem openNamed_under : (s.under gs).openNamed cs = underResult gs (s.openNamed cs) := by
  unfold openNamed
  cases groupName true cs with
  | error e => rfl
  | ok q =>
    simp only [bind, Except.bind]
    change (if s.names.contains (String.ofList q.1) then _ else _) = _
    cases s.names.contains (String.ofList q.1) <;> rfl

theorem flagGroup_under : (s.under gs).flagGroup cs = underResult gs (s.flagGroup cs) := by
  simp only [flagGroup, under_flags]
  cases readFlags s.flags [] cs with
  | error e => rfl
  | ok q =>
    obtain ⟨⟨flags, close, bare⟩, rest⟩ := q
    by_cases hclose : close = ':'
    · simp only [bind, Except.bind, if_pos hclose]; rfl
    · simp only [bind, Except.bind, if_neg hclose]
      cases bare <;> rfl

theorem angleGroup_under : (s.under gs).angleGroup cs = underResult gs (s.angleGroup cs) := by
  unfold angleGroup
  split
  · rfl
  · rfl
  · exact openNamed_under s gs cs

theorem markedGroup_under : (s.under gs).markedGroup cs = underResult gs (s.markedGroup cs) := by
  unfold markedGroup
  split
  · rfl
  · rfl
  · exact angleGroup_under s gs _
  · exact openNamed_under s gs _
  · exact flagGroup_under s gs _

theorem group_under : (s.under gs).group cs = underResult gs (s.group cs) := by
  simp only [group, under_flags]
  split
  · exact markedGroup_under s gs _
  · rfl

/-- The groups around a state matter for a parenthesis that closes one of them, and for nothing else. -/
theorem step_under {c : Char} (h : c = ')' → s.groups ≠ []) :
    (s.under gs).step c cs = underResult gs (s.step c cs) := by
  unfold step
  split
  · exact group_under s gs cs
  · rw [closeGroup_under s gs (h rfl)]
    cases s.closeGroup <;> rfl
  · rfl
  · exact bracket_under s gs cs
  · rw [repeatLast_under]
    cases s.repeatLast 0 (some 1) <;> rfl
  · rw [repeatLast_under]
    cases s.repeatLast 0 none <;> rfl
  · rw [repeatLast_under]
    cases s.repeatLast 1 none <;> rfl
  · exact counted_under s gs cs
  · exact escaped_under s gs cs
  · change (if s.flags.unicode then _ else _) = _
    cases s.flags.unicode <;> rfl
  · rfl
  · rfl
  · rfl

end

/-! ## Reading to the end -/

theorem run_eq {n m : Nat} {s : State} {cs : List Char} (hn : cs.length < n) (hm : cs.length < m) :
    s.run n cs = s.run m cs := by
  induction n generalizing m s cs with
  | zero => omega
  | succ n ih =>
    obtain ⟨m, rfl⟩ : ∃ k, m = k + 1 := ⟨m - 1, by omega⟩
    have hskip := s.flags.skip_length_le cs
    rw [run, run]
    rcases hrest : s.flags.skip cs with - | ⟨c, rest⟩
    · rfl
    · rw [hrest, List.length_cons] at hskip
      simp only
      cases hstep : s.step c rest with
      | error e => rfl
      | ok q =>
        have hle := ((isLocal_step s c).suffix hstep).length_le
        exact ih (by omega) (by omega)

def readAll (s : State) (cs : List Char) : Except Fault State :=
  s.run (cs.length + 1) cs

theorem readAll_eq (s : State) (cs : List Char) : s.readAll cs =
    match s.flags.skip cs with
    | [] => .ok s
    | c :: cs => s.step c cs >>= fun (s, rest) => s.readAll rest := by
  have hskip := s.flags.skip_length_le cs
  rw [readAll, run]
  rcases hrest : s.flags.skip cs with - | ⟨c, rest⟩
  · rfl
  · rw [hrest, List.length_cons] at hskip
    simp only
    cases hstep : s.step c rest with
    | error e => rfl
    | ok q =>
      have hle := ((isLocal_step s c).suffix hstep).length_le
      exact run_eq (by omega) (by omega)

@[simp]
theorem readAll_nil (s : State) : s.readAll [] = .ok s := by
  rw [readAll_eq]
  cases h : s.flags.skip [] with
  | nil => rfl
  | cons c cs => exact absurd (s.flags.skip_length_le []) (by simp [h])

theorem skip_cons {f : Flags} {c : Char} {cs : List Char} (hspace : isSpace c = false)
    (hcomment : c ≠ '#') : f.skip (c :: cs) = c :: cs := by
  simp [Flags.skip, skipTrivia, hspace, hcomment]

theorem groups_ne_nil_of_stuck {s s' : State} {t rest : List Char} (ht : t ∈ closings)
    (hstuck : Stuck t s rest) (hgroups : s.groups ≠ []) (h : s.readAll rest = .ok s') :
    s'.groups ≠ [] := by
  rcases hstuck with hrest | ⟨inner, rfl, hskip⟩
  · have hcases : rest = [] ∨ rest = ['$'] := by
      obtain ⟨u, rfl, rfl | rfl⟩ := closing_cases ht
      · exact .inl (List.suffix_nil.mp hrest)
      · exact (List.suffix_cons_iff.mp hrest).symm.imp_left List.suffix_nil.mp
    rcases hcases with rfl | rfl
    · rw [readAll_nil] at h
      cases h
      exact hgroups
    · rw [readAll_eq, skip_cons rfl (by decide)] at h
      simp only [step, bind, Except.bind, readAll_nil] at h
      cases h
      exact hgroups
  · -- the brace is no repetition
    rw [readAll_eq, skip_cons rfl (by decide)] at h
    simp only [step, counted, repeatBounds_closing ht hskip] at h
    split at h <;> cases h

/-- What becomes of a text between groups with a closing behind it. -/
inductive Spliced (s : State) (cs : List Char) : Prop
  | closed (s' : State) (halone : s.readAll cs = .ok s')
      (h : ∀ gs, ∀ t ∈ closings, (s.under gs).readAll (cs ++ t) = (s'.under gs).readAll t)
  /-- A comment is open at the end of the text. -/
  | swallowed (s' : State) (halone : s.readAll cs = .ok s')
      (h : ∀ gs, ∀ t ∈ closings, (s.under gs).readAll (cs ++ t) = .ok (s'.under gs))
  | unopened (halone : s.readAll cs = .error .groupUnopened)
  | fails (e : Fault) (halone : s.readAll cs = .error e)
      (h : ∀ gs, gs ≠ [] → ∀ t ∈ closings, ∀ s', (s.under gs).readAll (cs ++ t) = .ok s' →
        s'.groups ≠ [])

theorem spliced (s : State) (cs : List Char) : Spliced s cs := by
  induction hn : cs.length using Nat.strongRecOn generalizing s cs with
  | _ n ih =>
  subst hn
  have hlength := s.flags.skip_length_le cs
  rcases s.flags.skip_append cs with hskip | ⟨hnil, hskip⟩
  · rcases hrest : s.flags.skip cs with - | ⟨c, rest⟩
    · refine .closed s (by rw [readAll_eq, hrest]) fun gs t ht => ?_
      have happ := hskip t ht
      rw [hrest, List.nil_append] at happ
      obtain ⟨u, rfl, -⟩ := closing_cases ht
      rw [readAll_eq, readAll_eq (s.under gs) (')' :: u), under_flags, happ,
        skip_cons rfl (by decide)]
    · rw [hrest, List.length_cons] at hlength
      have halone : s.readAll cs = s.step c rest >>= fun (s, rest) => s.readAll rest := by
        rw [readAll_eq, hrest]
      by_cases hunopened : c = ')' ∧ s.groups = []
      · obtain ⟨rfl, hgroups⟩ := hunopened
        refine .unopened ?_
        rw [halone]
        simp [step, closeGroup, hgroups, Except.map, bind, Except.bind]
      · have hread : ∀ gs, ∀ t ∈ closings, (s.under gs).readAll (cs ++ t) =
            underResult gs (s.step c (rest ++ t)) >>= fun (s, rest) => s.readAll rest := by
          intro gs t ht
          have hframe := step_under s gs (rest ++ t) fun hc hg => hunopened ⟨hc, hg⟩
          rw [readAll_eq, under_flags, hskip t ht, hrest, ← hframe]; rfl
        cases (isLocal_step s c).appended rest with
        | goes s₁ rest₁ hx hy =>
          have hle := ((isLocal_step s c).suffix hx).length_le
          have hread₁ : ∀ gs, ∀ t ∈ closings,
              (s.under gs).readAll (cs ++ t) = (s₁.under gs).readAll (rest₁ ++ t) := by
            intro gs t ht
            rw [hread gs t ht, hy t ht]; rfl
          rw [hx] at halone
          cases ih rest₁.length (by omega) s₁ rest₁ rfl with
          | closed s' h₁ h₂ =>
            exact .closed s' (halone.trans h₁) fun gs t ht => by rw [hread₁ gs t ht, h₂ gs t ht]
          | swallowed s' h₁ h₂ =>
            exact .swallowed s' (halone.trans h₁) fun gs t ht => by rw [hread₁ gs t ht, h₂ gs t ht]
          | unopened h₁ => exact .unopened (halone.trans h₁)
          | fails e h₁ h₂ =>
            exact .fails e (halone.trans h₁) fun gs hgs t ht s' h =>
              h₂ gs hgs t ht s' (hread₁ gs t ht ▸ h)
        | ends s₁ hx hy =>
          refine .swallowed s₁ ?_ fun gs t ht => ?_
          · rw [halone, hx]; exact readAll_nil s₁
          · rw [hread gs t ht, hy t ht]; exact readAll_nil (s₁.under gs)
        | fails e hx hy =>
          refine .fails e (by rw [halone, hx]; rfl) fun gs hgs t ht s' h => ?_
          rw [hread gs t ht] at h
          cases hstep : s.step c (rest ++ t) with
          | error e' => rw [hstep] at h; cases h
          | ok q =>
            have hrest₁ : (q.1.under gs).readAll q.2 = .ok s' := by rw [hstep] at h; exact h
            have hstuck : Stuck t (q.1.under gs) q.2 := hy t ht q.1 q.2 hstep
            exact groups_ne_nil_of_stuck ht hstuck (by simp [hgs]) hrest₁
  · exact .swallowed s (by rw [readAll_eq, hnil]) fun gs t ht => by
      rw [readAll_eq, under_flags, hskip t ht]

end State
end Regex
end RequestMatching
