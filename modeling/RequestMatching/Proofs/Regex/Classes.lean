import RequestMatching.Proofs.Regex.Escapes

/-!
# Classes are local

A reader of a bracketed class reads no further than the bracket that closes it, whatever fuel it has
been given beyond what the class needs.
-/

namespace RequestMatching

namespace Regex

theorem classItem_eq (f : Flags) : classItem f =
    onHead (· = '\\') (fun _ => escape f) fun
      | [] => .error .classUnclosed
      | c :: cs => .ok (.literal c false, cs) := by
  funext cs
  cases cs with
  | nil => rfl
  | cons c rest => by_cases hc : c = '\\' <;> simp [classItem, onHead, hc]

theorem isLocal_classItem (f : Flags) : IsLocal (BeyondBrace f) (classItem f) := by
  rw [classItem_eq]
  exact isLocal_onHead rfl (fun _ => isLocal_escape f)
    (isLocal_uncons rfl (fun _ _ => rfl) (fun _ => isLocal_pure _) fun _ _ _ => Or.inl)

theorem rangeSet_look (f : Flags) (first : Atom) (l : Look) :
    ∃ e, rangeSet f first (.look l) = .error e := by
  unfold rangeSet
  cases classLiteral f first with
  | error e => exact ⟨e, rfl⟩
  | ok a => exact ⟨.classRange, rfl⟩

def rangeEnd (f : Flags) (first : Atom) : Reader CharSet := fun cs => do
  let (last, rest) ← classItem f cs
  return (← rangeSet f first last, rest)

theorem isLocal_rangeEnd (f : Flags) (first : Atom) : IsLocal Beyond (rangeEnd f first) := by
  refine (isLocal_classItem f).bind (fun _ => isLocal_check fun s => isLocal_pure s) ?_
  rintro t - last rest s rest' (hrest | ⟨⟨l, rfl⟩, -⟩) h
  · exact ((isLocal_check fun s => isLocal_pure (P := Beyond) s).suffix h).trans hrest
  · obtain ⟨e, he⟩ := rangeSet_look f first l
    simp only [he] at h
    cases h

theorem afterHyphen?_suffix {f : Flags} {cs rest : List Char} (h : afterHyphen? f cs = some rest) :
    rest <:+ cs := by
  unfold afterHyphen? at h
  split at h
  · rename_i after
    split at h
    · cases h
    · cases h
    · cases h; exact (f.skip_suffix after).trans (List.suffix_cons _ _)
  · cases h

theorem afterHyphen?_append (f : Flags) (cs : List Char) :
    (∀ t ∈ closings, afterHyphen? f (cs ++ t) = (afterHyphen? f cs).map (· ++ t)) ∨
      (afterHyphen? f cs = some [] ∧ ∀ t ∈ closings, afterHyphen? f (cs ++ t) = some []) := by
  cases cs with
  | nil =>
    refine .inl fun t ht => ?_
    obtain ⟨u, rfl, -⟩ := closing_cases ht
    rfl
  | cons c after =>
    by_cases hc : c = '-'
    · subst hc
      rcases f.skip_append after with hskip | ⟨hnil, hskip⟩
      · refine .inl fun t ht => ?_
        obtain ⟨u, rfl, -⟩ := closing_cases ht
        simp only [afterHyphen?, List.cons_append, hskip _ ht]
        cases hrest : f.skip after with
        | nil => simp
        | cons d rest =>
          by_cases hd : d = ']'
          · simp [hd]
          · by_cases hd' : d = '-' <;> simp [hd, hd']
      · exact .inr ⟨by simp [afterHyphen?, hnil], fun t ht => by
          simp [afterHyphen?, hskip t ht]⟩
    · exact .inl fun t _ => by simp [afterHyphen?, hc]

theorem rangeAfter_eq (f : Flags) (first : Atom) (rest : List Char) : rangeAfter f first rest =
    match afterHyphen? f rest with
    | some cs => rangeEnd f first cs
    | none => itemSet f first >>= fun s => .ok (s, rest) :=
  rfl

theorem isLocal_rangeAfter (f : Flags) (first : Atom) : IsLocal Beyond (rangeAfter f first) where
  suffix {cs s rest} h := by
    rw [rangeAfter_eq] at h
    cases hafter : afterHyphen? f cs with
    | none =>
      rw [hafter] at h
      exact (isLocal_check fun s => isLocal_pure (P := Beyond) s).suffix h
    | some after =>
      rw [hafter] at h
      exact ((isLocal_rangeEnd f first).suffix h).trans (afterHyphen?_suffix hafter)
  appended cs := by
    simp only [rangeAfter_eq]
    rcases afterHyphen?_append f cs with hafter | ⟨hnil, hafter⟩
    · cases hcs : afterHyphen? f cs with
      | none =>
        refine ((isLocal_check fun s => isLocal_pure s).appended cs).congr fun t ht => ?_
        rw [hafter t ht, hcs]; rfl
      | some after =>
        refine ((isLocal_rangeEnd f first).appended after).congr fun t ht => ?_
        rw [hafter t ht, hcs]; rfl
    · rw [hnil]
      exact .fails .classUnclosed rfl fun t ht s rest h => by simp [hafter t ht, rangeEnd, classItem,
        bind, Except.bind] at h

theorem isLocal_classRange (f : Flags) : IsLocal Beyond (classRange f) := by
  refine (isLocal_classItem f).bind
    (fun first => (isLocal_rangeAfter f first).afterSkip beyond_self f) ?_
  rintro t - first rest s rest' (hrest | ⟨⟨l, rfl⟩, inner, rfl, -⟩) h
  · exact (((isLocal_rangeAfter f first).suffix h).trans (f.skip_suffix rest)).trans hrest
  · -- a condition on a place is no item of a class
    have hbrace : f.skip ('{' :: (inner ++ t)) = '{' :: (inner ++ t) := by
      simp [Flags.skip, skipTrivia, isSpace]
    simp [hbrace, rangeAfter, afterHyphen?, itemSet, bind, Except.bind] at h

theorem namedSet?_suffix {cs rest : List Char} {s : CharSet}
    (h : namedSet? cs = some (s, rest)) : rest <:+ cs := by
  simp only [namedSet?, List.span_eq_takeWhile_dropWhile] at h
  split at h
  · rename_i after hdrop
    cases hname : CharSet.named? (.ofList (cs.takeWhile (· != ':'))) with
    | none => simp [hname] at h
    | some set =>
      simp only [hname, Option.map_some, Option.some.injEq, Prod.mk.injEq] at h
      have hsuffix : ':' :: ']' :: after <:+ cs := hdrop ▸ List.dropWhile_suffix _
      exact h.2 ▸ ((List.suffix_cons _ _).trans (List.suffix_cons _ _)).trans hsuffix
  · cases h

theorem namedSet?_append (cs : List Char) {t : List Char} (ht : t ∈ closings) :
    namedSet? (cs ++ t) = (namedSet? cs).map fun (s, rest) => (s, rest ++ t) := by
  obtain ⟨u, rfl, hu⟩ := closing_cases ht
  simp only [namedSet?, List.span_eq_takeWhile_dropWhile, List.takeWhile_append,
    List.dropWhile_append]
  cases hdrop : cs.dropWhile (· != ':') with
  | nil =>
    -- no colon comes after the closing
    rcases hu with rfl | rfl <;> simp
  | cons c rest =>
    have hlength := congrArg List.length (List.takeWhile_append_dropWhile (p := (· != ':')) (l := cs))
    rw [List.length_append, hdrop, List.length_cons] at hlength
    rw [if_neg (by simp), if_neg (by omega)]
    rcases rest with - | ⟨d, rest⟩
    · by_cases hc : c = ':' <;> simp [hc]
    · by_cases hc : c = ':'
      · by_cases hd : d = ']'
        · simp [hc, hd, Function.comp_def]
        · simp [hd]
      · simp [hc]

def markedSet? (negated : Bool) (cs : List Char) : Option ((Bool × CharSet) × List Char) :=
  (namedSet? cs).map fun (s, rest) => ((negated, s), rest)

theorem namedClass?_cons (c : Char) (cs : List Char) : namedClass? (c :: cs) =
    if c = ':' then
      match cs with
      | '^' :: cs => markedSet? true cs
      | cs => markedSet? false cs
    else none := by
  by_cases hc : c = ':'
  · subst hc
    rcases cs with - | ⟨d, cs⟩
    · rfl
    · by_cases hd : d = '^'
      · subst hd; rfl
      · simp [namedClass?, markedSet?, hd]
  · simp [namedClass?, hc]

theorem markedSet?_suffix {negated : Bool} {cs rest : List Char} {q : Bool × CharSet}
    (h : markedSet? negated cs = some (q, rest)) : rest <:+ cs := by
  obtain ⟨⟨s, rest'⟩, hs, heq⟩ := Option.map_eq_some_iff.mp h
  cases heq
  exact namedSet?_suffix hs

theorem markedSet?_append (negated : Bool) (cs : List Char) {t : List Char} (ht : t ∈ closings) :
    markedSet? negated (cs ++ t) = (markedSet? negated cs).map fun (q, rest) => (q, rest ++ t) := by
  rw [markedSet?, namedSet?_append cs ht, markedSet?, Option.map_map, Option.map_map]
  rfl

theorem namedClass?_suffix {cs rest : List Char} {q : Bool × CharSet}
    (h : namedClass? cs = some (q, rest)) : rest <:+ cs := by
  cases cs with
  | nil => cases h
  | cons c cs =>
    rw [namedClass?_cons] at h
    split at h
    · split at h
      · exact ((markedSet?_suffix h).trans (List.suffix_cons _ _)).trans (List.suffix_cons _ _)
      · exact (markedSet?_suffix h).trans (List.suffix_cons _ _)
    · cases h

theorem namedClass?_append (cs : List Char) {t : List Char} (ht : t ∈ closings) :
    namedClass? (cs ++ t) = (namedClass? cs).map fun (q, rest) => (q, rest ++ t) := by
  rcases cs with - | ⟨c, cs⟩
  · obtain ⟨u, rfl, -⟩ := closing_cases ht
    rfl
  rw [List.cons_append, namedClass?_cons, namedClass?_cons]
  by_cases hc : c = ':'
  · rw [if_pos hc, if_pos hc]
    rcases cs with - | ⟨d, cs⟩
    · obtain ⟨u, rfl, -⟩ := closing_cases ht
      exact markedSet?_append false [] ht
    · by_cases hd : d = '^'
      · subst hd
        exact markedSet?_append true cs ht
      · simpa [hd] using markedSet?_append false (d :: cs) ht
  · rw [if_neg hc, if_neg hc]
    rfl

def onNamed {α : Type} (C : Bool × CharSet → Reader α) (B : Reader α) : Reader α := fun cs =>
  match namedClass? cs with
  | some (q, rest) => C q rest
  | none => B cs

theorem isLocal_onNamed {α : Type} {P : List Char → α → List Char → Prop}
    {C : Bool × CharSet → Reader α} {B : Reader α} (hC : ∀ q, IsLocal P (C q)) (hB : IsLocal P B) :
    IsLocal P (onNamed C B) where
  suffix {cs a rest} h := by
    unfold onNamed at h
    split at h
    · exact ((hC _).suffix h).trans (namedClass?_suffix ‹_›)
    · exact hB.suffix h
  appended cs := by
    unfold onNamed
    cases hcs : namedClass? cs with
    | none =>
      refine (hB.appended cs).congr fun t ht => ?_
      rw [namedClass?_append cs ht, hcs]; rfl
    | some q =>
      refine ((hC q.1).appended q.2).congr fun t ht => ?_
      rw [namedClass?_append cs ht, hcs]; rfl

theorem isLocal_leadingHyphens_bounded (f : Flags) : ∀ n o,
    IsLocal Beyond fun cs => .ok (leadingHyphens f n o cs)
  | 0, o => isLocal_pure o
  | n + 1, o => by
    have heq : (fun cs => .ok (leadingHyphens f (n + 1) o cs)) =
        onHead (· = '-') (fun _ cs => .ok (leadingHyphens f n (o.addSet (.single '-')) (f.skip cs)))
          fun cs => .ok (o, cs) := by
      funext cs
      cases cs with
      | nil => rfl
      | cons c rest => by_cases hc : c = '-' <;> simp [leadingHyphens, onHead, hc]
    rw [heq]
    exact isLocal_onHead rfl (fun _ => (isLocal_leadingHyphens_bounded f n _).afterSkip beyond_self f)
      (isLocal_pure o)

theorem leadingHyphens_eq (f : Flags) : ∀ {n m : Nat} {o : OpenClass} {cs : List Char},
    cs.length < n → cs.length < m → leadingHyphens f n o cs = leadingHyphens f m o cs
  | n + 1, m + 1, o, [], _, _ => rfl
  | n + 1, m + 1, o, c :: cs, hn, hm => by
    have hle := f.skip_length_le cs
    simp only [List.length_cons] at hn hm
    by_cases hc : c = '-'
    · subst hc
      exact leadingHyphens_eq f (n := n) (m := m) (by omega) (by omega)
    · simp [leadingHyphens, hc]

theorem isLocal_openItems (f : Flags) (negated : Bool) :
    IsLocal Beyond fun cs => .ok (openItems f negated cs) := by
  have heq : (fun cs => .ok (openItems f negated cs)) =
      onHead (· = ']') (fun _ cs => .ok (⟨negated, [⟨.single ']', 0⟩], none⟩, f.skip cs))
        fun cs => .ok (leadingHyphens f (cs.length + 1) ⟨negated, [], none⟩ cs) := by
    funext cs
    cases cs with
    | nil => rfl
    | cons c rest => by_cases hc : c = ']' <;> simp [openItems, onHead, hc]
  rw [heq]
  refine isLocal_onHead rfl (fun _ => isLocal_skip f _) ?_
  exact isLocal_bounded (fun n => isLocal_leadingHyphens_bounded f n _)
    fun hn hm => congrArg Except.ok (leadingHyphens_eq f hn hm)

theorem isLocal_openClass (f : Flags) : IsLocal Beyond fun cs => .ok (openClass f cs) := by
  have heq : (fun cs => .ok (openClass f cs)) = fun cs =>
      onHead (· = '^') (fun _ cs => .ok (openItems f true (f.skip cs)))
        (fun cs => .ok (openItems f false cs)) (f.skip cs) := by
    funext cs
    unfold openClass
    cases f.skip cs with
    | nil => rfl
    | cons c rest => by_cases hc : c = '^' <;> simp [onHead, hc]
  rw [heq]
  exact (isLocal_onHead rfl (fun _ => (isLocal_openItems f true).afterSkip beyond_self f)
    (isLocal_openItems f false)).afterSkip beyond_self f

theorem openClass_suffix {f : Flags} {cs rest : List Char} {o : OpenClass}
    (h : openClass f cs = (o, rest)) : rest <:+ cs :=
  (isLocal_openClass f).suffix (congrArg Except.ok h)

/-- One item, operation or bracket of a class; `K` reads on. -/
def classStep (f : Flags) (K : OpenClass → List OpenClass → Reader ClassPart) (inner : OpenClass)
    (outer : List OpenClass) : Reader ClassPart :=
  onHead (· = '[') (fun _ => onNamed (fun (negated, s) cs =>
      f.finish negated s >>= fun set => K (inner.addSet set) outer cs) fun cs =>
    .ok (openClass f cs) >>= fun (o, rest) => K o (inner :: outer) rest) <|
  onHead (· = ']') (fun _ cs => inner.close f >>= fun part =>
    match outer with
    | [] => .ok (part, cs)
    | parent :: outer => K (parent.add part) outer cs) <|
  onPair '&' '&' (K (inner.operate f .inter) outer) <|
  onPair '-' '-' (K (inner.operate f .diff) outer) <|
  onPair '~' '~' (K (inner.operate f .symmDiff) outer) fun cs =>
    classRange f cs >>= fun (s, rest) => K (inner.addSet s) outer rest

theorem classBody_succ (f : Flags) (n : Nat) (inner : OpenClass) (outer : List OpenClass)
    (cs : List Char) : classBody f (n + 1) inner outer cs =
      classStep f (classBody f n) inner outer (f.skip cs) := by
  rw [classBody, classStep]
  rcases f.skip cs with - | ⟨c, rest⟩
  · rfl
  · by_cases hopen : c = '['
    · subst hopen
      simp only [onHead, onNamed, decide_true, if_true]
      cases namedClass? rest <;> rfl
    · by_cases hclose : c = ']'
      · subst hclose
        rfl
      · rcases rest with - | ⟨d, rest⟩
        · simp [onHead, onPair, hopen, hclose]
        · by_cases hinter : c = '&' ∧ d = '&'
          · obtain ⟨rfl, rfl⟩ := hinter
            rfl
          · by_cases hdiff : c = '-' ∧ d = '-'
            · obtain ⟨rfl, rfl⟩ := hdiff
              rfl
            · by_cases hsymm : c = '~' ∧ d = '~'
              · obtain ⟨rfl, rfl⟩ := hsymm
                rfl
              · simp only [onHead, onPair, decide_eq_true_eq, if_neg hopen, if_neg hclose,
                  if_neg hinter, if_neg hdiff, if_neg hsymm]
                split <;> simp_all

theorem isLocal_classStep (f : Flags) {K : OpenClass → List OpenClass → Reader ClassPart}
    (hK : ∀ inner outer, IsLocal Beyond (K inner outer)) (inner : OpenClass)
    (outer : List OpenClass) : IsLocal Beyond (classStep f K inner outer) := by
  refine isLocal_onHead rfl (fun _ => isLocal_onNamed (fun q => isLocal_check fun set => hK _ _)
    ((isLocal_openClass f).thenBeyond fun o => hK _ _)) ?_
  refine isLocal_onHead rfl (fun _ => isLocal_check fun part => ?_) ?_
  · cases outer with
    | nil => exact isLocal_pure _
    | cons parent outer => exact hK _ _
  · refine isLocal_onPair (by decide) (by decide) (hK _ _) ?_
    refine isLocal_onPair (by decide) (by decide) (hK _ _) ?_
    refine isLocal_onPair (by decide) (by decide) (hK _ _) ?_
    exact (isLocal_classRange f).thenBeyond fun s => hK _ _

theorem isLocal_classBody_bounded (f : Flags) : ∀ n inner outer,
    IsLocal Beyond (classBody f n inner outer)
  | 0, _, _ => isLocal_error _
  | n + 1, inner, outer => by
    have heq : classBody f (n + 1) inner outer = fun cs =>
        classStep f (classBody f n) inner outer (f.skip cs) :=
      funext (classBody_succ f n inner outer)
    rw [heq]
    exact (isLocal_classStep f (isLocal_classBody_bounded f n) inner outer).afterSkip beyond_self f

theorem classItem_length_lt {f : Flags} {cs rest : List Char} {a : Atom}
    (h : classItem f cs = .ok (a, rest)) : rest.length < cs.length := by
  cases cs with
  | nil => cases h
  | cons c cs =>
    by_cases hc : c = '\\'
    · subst hc
      exact Nat.lt_succ_of_le ((isLocal_escape f).suffix h).length_le
    · simp only [classItem_eq, onHead, decide_eq_true_eq, if_neg hc] at h
      cases h
      exact Nat.lt_succ_self _

theorem classRange_length_lt {f : Flags} {cs rest : List Char} {s : CharSet}
    (h : classRange f cs = .ok (s, rest)) : rest.length < cs.length := by
  cases hitem : classItem f cs with
  | error e => simp [classRange, hitem, bind, Except.bind] at h
  | ok q =>
    obtain ⟨first, rest'⟩ := q
    simp only [classRange, hitem, bind, Except.bind] at h
    have hafter := ((isLocal_rangeAfter f first).suffix h).length_le
    have hskip := f.skip_length_le rest'
    have hfirst := classItem_length_lt hitem
    omega

theorem classStep_congr (f : Flags) {K K' : OpenClass → List OpenClass → Reader ClassPart}
    {cs : List Char} (hK : ∀ inner outer rest, rest.length < cs.length →
      K inner outer rest = K' inner outer rest) (inner : OpenClass) (outer : List OpenClass) :
    classStep f K inner outer cs = classStep f K' inner outer cs := by
  have hitem : ∀ (cs' : List Char), cs'.length ≤ cs.length →
      (classRange f cs' >>= fun (s, rest) => K (inner.addSet s) outer rest) =
        classRange f cs' >>= fun (s, rest) => K' (inner.addSet s) outer rest := by
    intro cs' hle
    cases hrange : classRange f cs' with
    | error e => rfl
    | ok q => exact hK _ _ _ (Nat.lt_of_lt_of_le (classRange_length_lt hrange) hle)
  rcases cs with - | ⟨c, cs⟩
  · rfl
  · simp only [classStep, onHead]
    split
    · simp only [onNamed]
      split
      · rename_i q rest hnamed
        cases f.finish q.1 q.2 with
        | error e => rfl
        | ok set => exact hK _ _ _ (Nat.lt_succ_of_le (namedClass?_suffix hnamed).length_le)
      · exact hK _ _ _ (Nat.lt_succ_of_le (openClass_suffix rfl).length_le)
    · split
      · cases inner.close f with
        | error e => rfl
        | ok part =>
          cases outer with
          | nil => rfl
          | cons parent outer => exact hK _ _ _ (Nat.lt_succ_self _)
      · rcases cs with - | ⟨d, cs⟩
        · exact hitem [c] (Nat.le_refl _)
        · have hlt : cs.length < (c :: d :: cs).length := by simp only [List.length_cons]; omega
          simp only [onPair, hK _ _ cs hlt, hitem (c :: d :: cs) (Nat.le_refl _)]

theorem classBody_eq (f : Flags) : ∀ {n m : Nat} {inner : OpenClass} {outer : List OpenClass}
    {cs : List Char}, cs.length < n → cs.length < m →
    classBody f n inner outer cs = classBody f m inner outer cs
  | n + 1, m + 1, inner, outer, cs, hn, hm => by
    rw [classBody_succ, classBody_succ]
    refine classStep_congr f (fun inner outer rest hlt => ?_) inner outer
    have hle := f.skip_length_le cs
    exact classBody_eq f (n := n) (m := m) (by omega) (by omega)

theorem isLocal_bracket (s : State) : IsLocal Beyond s.bracket := by
  have heq : s.bracket = fun cs => .ok (openClass s.flags cs) >>= fun p =>
      classBody s.flags (p.2.length + 1) p.1 [] p.2 >>= fun q =>
        .ok (s.push (setPiece q.1.set q.1.depth), q.2) := by
    funext cs
    simp only [State.bracket]
    rw [classBody_eq s.flags (m := (openClass s.flags cs).2.length + 1) (by omega) (by omega)]
    rfl
  rw [heq]
  refine (isLocal_openClass s.flags).thenBeyond fun o => IsLocal.thenBeyond ?_ fun part =>
    isLocal_pure (s.push (setPiece part.set part.depth))
  exact isLocal_bounded (fun n => isLocal_classBody_bounded s.flags n o []) (classBody_eq s.flags)

end Regex
end RequestMatching
