import RequestMatching.Proofs.Regex.Classes

/-!
# The readers of expressions

Repetitions and groups are read without a look at what follows them. So is each construct, but for an
escape at the end: a brace behind `\b` may open the name of a word boundary.
-/

namespace RequestMatching

namespace Regex

/-! ## Repetitions -/

theorem isLocal_decimal?_bounded (f : Flags) : ∀ n a, IsLocal Beyond fun cs => .ok (decimal? f n a cs)
  | 0, a => isLocal_pure a
  | n + 1, a => by
    have heq : (fun cs => .ok (decimal? f (n + 1) a cs)) =
        onHead (·.isDigit) (fun c cs =>
          .ok (decimal? f n (some (a.getD 0 * 10 + (c.toNat - 48))) (f.skip cs)))
          fun cs => .ok (a, cs) := by
      funext cs
      cases cs with
      | nil => rfl
      | cons c rest => by_cases hc : c.isDigit <;> simp [decimal?, onHead, hc]
    rw [heq]
    exact isLocal_onHead (by decide) (fun c => (isLocal_decimal?_bounded f n _).afterSkip beyond_self f)
      (isLocal_pure a)

theorem decimal?_eq (f : Flags) : ∀ {n m : Nat} {a : Option Nat} {cs : List Char},
    cs.length < n → cs.length < m → decimal? f n a cs = decimal? f m a cs
  | n + 1, m + 1, a, [], _, _ => rfl
  | n + 1, m + 1, a, c :: cs, hn, hm => by
    have hle := f.skip_length_le cs
    simp only [List.length_cons] at hn hm
    rw [decimal?, decimal?, decimal?_eq f (n := n) (m := m) (by omega) (by omega)]

theorem isLocal_dropSpaces {α : Type} {P : List Char → α → List Char → Prop} (a : α) :
    IsLocal P fun cs => .ok (a, cs.dropWhile isSpace) where
  suffix h := by cases h; exact List.dropWhile_suffix _
  appended cs := by
    refine .goes a (cs.dropWhile isSpace) rfl fun t ht => ?_
    obtain ⟨u, rfl, -⟩ := closing_cases ht
    rw [List.dropWhile_append]
    cases cs.dropWhile isSpace <;> simp [isSpace]

theorem isLocal_repeatCount (f : Flags) : IsLocal Beyond (repeatCount f) := by
  have heq : repeatCount f = fun cs => .ok ((), cs.dropWhile isSpace) >>= fun p =>
      .ok (decimal? f (p.2.length + 1) none p.2) >>= fun q =>
        q.1.elim (.error .repetition) fun n =>
          if n < twoTo 32 then .ok (n, q.2.dropWhile isSpace) else .error .repetition := by
    funext cs
    simp only [repeatCount, bind, Except.bind]
    rcases decimal? f _ none (cs.dropWhile isSpace) with ⟨- | n, rest⟩ <;> rfl
  rw [heq]
  refine (isLocal_dropSpaces ()).thenBeyond fun _ => IsLocal.thenBeyond ?_ fun found => ?_
  · exact isLocal_bounded (fun n => isLocal_decimal?_bounded f n none)
      fun hn hm => congrArg Except.ok (decimal?_eq f hn hm)
  · cases found with
    | none => exact isLocal_error _
    | some n => exact isLocal_ite (isLocal_dropSpaces n) (isLocal_error _)

theorem isLocal_repeatEnd (min max : Nat) : IsLocal Beyond (repeatEnd min max) := by
  have heq : repeatEnd min max = onHead (· = '}')
      (fun _ rest => if min ≤ max then .ok ((min, some max), rest) else .error .repetition)
      fun _ => .error .repetition := by
    funext cs
    cases cs with
    | nil => rfl
    | cons c rest => by_cases hc : c = '}' <;> simp [repeatEnd, onHead, hc]
  rw [heq]
  exact isLocal_onHead rfl (fun _ => isLocal_ite (isLocal_pure _) (isLocal_error _))
    (isLocal_error _)

theorem isLocal_repeatMax (f : Flags) (min : Nat) : IsLocal Beyond (repeatMax f min) := by
  have heq : repeatMax f min = fun cs => onHead (· = '}') (fun _ rest => .ok ((min, none), rest))
      (fun cs => repeatCount f cs >>= fun p => repeatEnd min p.1 p.2) (f.skip cs) := by
    funext cs
    unfold repeatMax
    cases f.skip cs with
    | nil => rfl
    | cons c rest => by_cases hc : c = '}' <;> simp [onHead, hc]
  rw [heq]
  exact (isLocal_onHead rfl (fun _ => isLocal_pure _)
    ((isLocal_repeatCount f).thenBeyond fun max => isLocal_repeatEnd min max)).afterSkip
      beyond_self f

theorem isLocal_repeatRest (f : Flags) (min : Nat) : IsLocal Beyond (repeatRest f min) := by
  have heq : repeatRest f min = onHead (· = '}') (fun _ rest => .ok ((min, some min), rest))
      (onHead (· = ',') (fun _ rest => repeatMax f min rest) fun _ => .error .repetition) := by
    funext cs
    cases cs with
    | nil => rfl
    | cons c rest =>
      by_cases hclose : c = '}'
      · simp [repeatRest, onHead, hclose]
      · by_cases hcomma : c = ',' <;> simp [repeatRest, onHead, hclose, hcomma]
  rw [heq]
  exact isLocal_onHead rfl (fun _ => isLocal_pure _)
    (isLocal_onHead rfl (fun _ => isLocal_repeatMax f min) (isLocal_error _))

theorem isLocal_repeatBounds (f : Flags) : IsLocal Beyond (repeatBounds f) :=
  ((isLocal_repeatCount f).afterSkip beyond_self f).thenBeyond fun min => isLocal_repeatRest f min

theorem repeatBounds_closing {f : Flags} {cs t : List Char} (ht : t ∈ closings)
    (hskip : f.skip cs = t) : repeatBounds f cs = .error .repetition := by
  obtain ⟨u, rfl, hu⟩ := closing_cases ht
  simp [repeatBounds, repeatCount, hskip, isSpace, decimal?, bind, Except.bind]

theorem isLocal_dropLazy {α : Type} {P : List Char → α → List Char → Prop} (a : α) :
    IsLocal P fun cs => .ok (a, dropLazy cs) := by
  have heq : (fun cs => .ok (a, dropLazy cs)) =
      onHead (· = '?') (fun _ cs => .ok (a, cs)) fun cs => (.ok (a, cs) : Except Fault _) := by
    funext cs
    cases cs with
    | nil => rfl
    | cons c rest => by_cases hc : c = '?' <;> simp [dropLazy, onHead, hc]
  rw [heq]
  exact isLocal_onHead rfl (fun _ => isLocal_pure a) (isLocal_pure a)

theorem isLocal_counted (s : State) : IsLocal Beyond s.counted := by
  unfold State.counted
  split
  · refine (isLocal_repeatBounds s.flags).thenBeyond fun bounds => isLocal_check fun s' => ?_
    exact (isLocal_dropLazy s').afterSkip beyond_self s.flags
  · exact isLocal_error _

/-! ## Groups and flags -/

theorem readFlags_suffix {cs rest : List Char} {f : Flags} {seen : List Char}
    {q : Flags × Char × Bool} (h : readFlags f seen cs = .ok (q, rest)) : rest <:+ cs := by
  induction cs generalizing f seen with
  | nil => cases h
  | cons c cs ih =>
    rw [readFlags] at h
    have hcons := List.suffix_cons c cs
    split at h
    · split at h
      · cases h
      · cases h; exact hcons
    · split at h
      · cases h
      · split at h
        · exact (ih h).trans hcons
        · split at h
          · exact (ih h).trans hcons
          · cases h

theorem readFlags_appended : ∀ (cs : List Char) (f : Flags) (seen : List Char),
    Appended Beyond (readFlags f seen cs) fun t => readFlags f seen (cs ++ t)
  | [], f, seen => by
    refine .fails .flag rfl fun t ht q rest h => ?_
    obtain ⟨u, rfl, -⟩ := closing_cases ht
    rw [List.nil_append, readFlags, if_pos (by decide)] at h
    split at h
    · cases h
    · cases h; exact List.suffix_refl _
  | c :: cs, f, seen => by
    simp only [List.cons_append, readFlags]
    split
    · split
      · exact (isLocal_error _).appended cs
      · exact (isLocal_pure _).appended cs
    · split
      · exact (isLocal_error _).appended cs
      · split
        · exact readFlags_appended cs f (c :: seen)
        · split
          · exact readFlags_appended cs _ (c :: seen)
          · exact (isLocal_error _).appended cs

theorem isLocal_readFlags (f : Flags) (seen : List Char) : IsLocal Beyond (readFlags f seen) where
  suffix := readFlags_suffix
  appended cs := readFlags_appended cs f seen

theorem groupName_cons (first : Bool) (c : Char) (cs : List Char) : groupName first (c :: cs) =
    if c = '>' then (if first then .error .groupName else .ok ([], cs))
    else if isNameChar first c then groupName false cs >>= fun (name, rest) => .ok (c :: name, rest)
    else .error .groupName := by
  by_cases hc : c = '>'
  · subst hc; rfl
  · simp only [groupName, if_neg hc]
    cases groupName false cs <;> rfl

theorem groupName_suffix {cs rest name : List Char} {first : Bool}
    (h : groupName first cs = .ok (name, rest)) : rest <:+ cs := by
  induction cs generalizing first name with
  | nil => cases h
  | cons c cs ih =>
    rw [groupName_cons] at h
    have hcons := List.suffix_cons c cs
    split at h
    · split at h
      · cases h
      · cases h; exact hcons
    · split at h
      · obtain ⟨q, hname, h⟩ := ok_of_bind h
        cases h
        exact (ih hname).trans hcons
      · cases h

theorem groupName_appended : ∀ (cs : List Char) (first : Bool),
    Appended Beyond (groupName first cs) fun t => groupName first (cs ++ t)
  | [], first => by
    refine .fails .groupName rfl fun t ht name rest h => ?_
    -- no angle bracket comes after the closing
    obtain ⟨u, rfl, hu⟩ := closing_cases ht
    have hnone : ∀ first, groupName first u = .error .groupName := by
      rcases hu with rfl | rfl
      · exact fun _ => rfl
      · exact fun first => by simp [groupName_cons, groupName, bind, Except.bind]
    simp [groupName_cons, hnone, bind, Except.bind] at h
  | c :: cs, first => by
    simp only [List.cons_append, groupName_cons]
    split
    · split
      · exact (isLocal_error _).appended cs
      · exact (isLocal_pure _).appended cs
    · split
      · exact (groupName_appended cs false).bind (fun name => (isLocal_pure (c :: name)).appended)
          (fun h => by cases h; exact List.suffix_refl _) fun t _ {_ _ _ _} hrest h => by
            cases h; exact hrest
      · exact (isLocal_error _).appended cs

theorem isLocal_groupName (first : Bool) : IsLocal Beyond (groupName first) where
  suffix := groupName_suffix
  appended cs := groupName_appended cs first

theorem isLocal_openNamed (s : State) : IsLocal Beyond s.openNamed :=
  (isLocal_groupName true).thenBeyond fun _ => isLocal_ite (isLocal_error _) (isLocal_pure _)

theorem isLocal_flagGroup (s : State) : IsLocal Beyond s.flagGroup :=
  (isLocal_readFlags s.flags []).thenBeyond fun _ =>
    isLocal_ite (isLocal_pure _) (isLocal_ite (isLocal_error _) (isLocal_pure _))

theorem angleGroup_eq (s : State) : s.angleGroup =
    onHead (fun c => c = '=' || c = '!') (fun _ _ => .error .lookAround) s.openNamed := by
  funext cs
  cases cs with
  | nil => rfl
  | cons c rest =>
    by_cases heq : c = '='
    · simp [State.angleGroup, onHead, heq]
    · by_cases hne : c = '!' <;> simp [State.angleGroup, onHead, heq, hne]

theorem isLocal_angleGroup (s : State) : IsLocal Beyond s.angleGroup := by
  rw [angleGroup_eq]
  exact isLocal_onHead rfl (fun _ => isLocal_error _) (isLocal_openNamed s)

theorem markedGroup_eq (s : State) : s.markedGroup =
    onHead (fun c => c = '=' || c = '!') (fun _ _ => .error .lookAround)
      (onHead (· = '<') (fun _ => s.angleGroup) (onPair 'P' '<' s.openNamed s.flagGroup)) := by
  funext cs
  rcases cs with - | ⟨c, rest⟩
  · rfl
  · by_cases heq : c = '='
    · simp [State.markedGroup, onHead, heq]
    · by_cases hne : c = '!'
      · simp [State.markedGroup, onHead, hne]
      · by_cases hangle : c = '<'
        · simp [State.markedGroup, onHead, hangle]
        · rcases rest with - | ⟨d, rest⟩
          · simp [State.markedGroup, onHead, onPair, heq, hne, hangle]
          · by_cases hc : c = 'P'
            · by_cases hd : d = '<' <;> simp [State.markedGroup, onHead, onPair, hc, hd]
            · simp [State.markedGroup, onHead, onPair, heq, hne, hangle, hc]

theorem isLocal_markedGroup (s : State) : IsLocal Beyond s.markedGroup := by
  rw [markedGroup_eq]
  refine isLocal_onHead rfl (fun _ => isLocal_error _) ?_
  refine isLocal_onHead rfl (fun _ => isLocal_angleGroup s) ?_
  exact isLocal_onPair (by decide) (by decide) (isLocal_openNamed s) (isLocal_flagGroup s)

theorem isLocal_group (s : State) : IsLocal Beyond s.group := by
  have heq : s.group = fun cs => onHead (· = '?') (fun _ => s.markedGroup)
      (fun cs => .ok (s.openGroup s.flags true, cs)) (s.flags.skip cs) := by
    funext cs
    unfold State.group
    cases s.flags.skip cs with
    | nil => rfl
    | cons c rest => by_cases hc : c = '?' <;> simp [onHead, hc]
  rw [heq]
  exact (isLocal_onHead rfl (fun _ => isLocal_markedGroup s) (isLocal_pure _)).afterSkip
    beyond_self s.flags

/-! ## Constructs -/

/-- After an escape, also a brace that has been the beginning of a name may be left. -/
def Stuck (t : List Char) (s : State) (rest : List Char) : Prop :=
  rest <:+ t.tail ∨ ∃ inner, rest = '{' :: (inner ++ t) ∧ s.flags.skip (inner ++ t) = t

theorem isLocal_escaped (s : State) : IsLocal Stuck s.escaped := by
  refine (isLocal_escape s.flags).bind (fun a => isLocal_check fun p => isLocal_pure _) ?_
  intro t ht a rest s' rest' hrest h
  cases hpiece : atomPiece s.flags a with
  | error e => simp only [hpiece] at h; cases h
  | ok p =>
    simp only [hpiece] at h
    cases h
    exact hrest.imp_right fun ⟨_, inner, hbrace, hskip⟩ => ⟨inner, hbrace, hskip⟩

theorem isLocal_repeatLast (s : State) (min : Nat) (max : Option Nat) :
    IsLocal Stuck fun cs => (s.repeatLast min max).map (·, dropLazy cs) := by
  cases s.repeatLast min max with
  | error e => exact isLocal_error e
  | ok s' => exact isLocal_dropLazy s'

theorem isLocal_step (s : State) (c : Char) : IsLocal Stuck (s.step c) := by
  have hstuck : ∀ {R : Reader State}, IsLocal Beyond R → IsLocal Stuck R :=
    fun h => h.mono fun _ _ _ => Or.inl
  unfold State.step
  split
  · exact hstuck (isLocal_group s)
  · cases s.closeGroup with
    | error e => exact isLocal_error e
    | ok s' => exact isLocal_pure s'
  · exact isLocal_pure _
  · exact hstuck (isLocal_bracket s)
  · exact isLocal_repeatLast s 0 (some 1)
  · exact isLocal_repeatLast s 0 none
  · exact isLocal_repeatLast s 1 none
  · exact hstuck (isLocal_counted s)
  · exact isLocal_escaped s
  · exact isLocal_ite (isLocal_pure _) (isLocal_error _)
  · exact isLocal_pure _
  · exact isLocal_pure _
  · exact isLocal_pure _

end Regex
end RequestMatching
