import RequestMatching.Regex.Parser
import RequestMatching.Proofs.Outcome

/-!
# Readers and what follows their text

Most readers of expressions stop where their construct ends and do not look further. If a closing
parenthesis follows a text, such a reader gives the same result and leaves the parenthesis, unless a
comment has swallowed it; a reader that fails at the end of the text leaves no more than what comes
after the parenthesis.
-/

namespace RequestMatching

namespace Regex

/-- What may follow a source: the end of the group around it, with or without the anchor. -/
def closings : List (List Char) :=
  [[')'], [')', '$']]

theorem closing_cases {t : List Char} (h : t ∈ closings) :
    ∃ u, t = ')' :: u ∧ (u = [] ∨ u = ['$']) := by
  simp only [closings, List.mem_cons, List.not_mem_nil, or_false] at h
  rcases h with rfl | rfl
  · exact ⟨[], rfl, .inl rfl⟩
  · exact ⟨['$'], rfl, .inr rfl⟩

abbrev Reader (α : Type) := List Char → Except Fault (α × List Char)

/-- What may be left of a closing when a reader fails on the text before it. -/
def Beyond {α : Type} (t : List Char) (_ : α) (rest : List Char) : Prop :=
  rest <:+ t.tail

/-- How the result `y t` with a closing behind the text is related to the result `x` without it. -/
inductive Appended {α : Type} (P : List Char → α → List Char → Prop)
    (x : Except Fault (α × List Char)) (y : List Char → Except Fault (α × List Char)) : Prop
  | goes (a : α) (rest : List Char) (hx : x = .ok (a, rest))
      (hy : ∀ t ∈ closings, y t = .ok (a, rest ++ t))
  /-- A comment is open at the end of the text. -/
  | ends (a : α) (hx : x = .ok (a, [])) (hy : ∀ t ∈ closings, y t = .ok (a, []))
  | fails (e : Fault) (hx : x = .error e)
      (hy : ∀ t ∈ closings, ∀ a rest, y t = .ok (a, rest) → P t a rest)

/-- A reader that does not look beyond its construct; where it fails on a text, `P` says what it may
do when a closing follows. -/
structure IsLocal {α : Type} (P : List Char → α → List Char → Prop) (R : Reader α) : Prop where
  suffix : ∀ {cs a rest}, R cs = .ok (a, rest) → rest <:+ cs
  appended : ∀ cs, Appended P (R cs) fun t => R (cs ++ t)

section
variable {α β γ : Type} {P : List Char → β → List Char → Prop} {R : Reader α}

theorem Appended.congr {P : List Char → α → List Char → Prop} {x : Except Fault (α × List Char)}
    {y z : List Char → Except Fault (α × List Char)} (h : Appended P x y)
    (hz : ∀ t ∈ closings, z t = y t) : Appended P x z := by
  cases h with
  | goes a rest hx hy => exact .goes a rest hx fun t ht => (hz t ht).trans (hy t ht)
  | ends a hx hy => exact .ends a hx fun t ht => (hz t ht).trans (hy t ht)
  | fails e hx hy => exact .fails e hx fun t ht a rest h => hy t ht a rest ((hz t ht).symm.trans h)

theorem Appended.bind {Q : List Char → α → List Char → Prop} {x : Except Fault (α × List Char)}
    {y : List Char → Except Fault (α × List Char)} {F : α × List Char → Except Fault (β × List Char)}
    (h : Appended Q x y) (hF : ∀ a rest, Appended P (F (a, rest)) fun t => F (a, rest ++ t))
    (hsuffix : ∀ {a rest b rest'}, F (a, rest) = .ok (b, rest') → rest' <:+ rest)
    (hP : ∀ t ∈ closings, ∀ {a rest b rest'}, Q t a rest → F (a, rest) = .ok (b, rest') →
      P t b rest') : Appended P (x >>= F) fun t => y t >>= F := by
  cases h with
  | goes a rest hx hy =>
    rw [hx]
    exact (hF a rest).congr fun t ht => by rw [hy t ht]; rfl
  | ends a hx hy =>
    -- nothing is left for the second reader, with the closing or without it
    rw [hx]
    cases hb : F (a, []) with
    | error e =>
      refine .fails e hb fun t ht b rest hyt => ?_
      rw [hy t ht] at hyt
      exact absurd (hb.symm.trans hyt) (by simp)
    | ok b =>
      obtain ⟨b, rest⟩ := b
      have hnil : rest = [] := List.suffix_nil.mp (hsuffix hb)
      subst hnil
      exact .ends b hb fun t ht => by rw [hy t ht]; exact hb
  | fails e hx hy =>
    rw [hx]
    refine .fails e rfl fun t ht b rest hyt => ?_
    obtain ⟨a, ha, hyt⟩ := ok_of_bind hyt
    exact hP t ht (hy t ht a.1 a.2 ha) hyt

theorem IsLocal.bind {Q : List Char → α → List Char → Prop}
    {F : α × List Char → Except Fault (β × List Char)} (hR : IsLocal Q R)
    (hF : ∀ a, IsLocal P fun rest => F (a, rest))
    (hP : ∀ t ∈ closings, ∀ {a rest b rest'}, Q t a rest → F (a, rest) = .ok (b, rest') →
      P t b rest') : IsLocal P fun cs => R cs >>= F where
  suffix {cs b rest} h := by
    obtain ⟨a, ha, h⟩ := ok_of_bind h
    exact ((hF a.1).suffix h).trans (hR.suffix ha)
  appended cs := (hR.appended cs).bind (fun a => (hF a).appended) (fun h => (hF _).suffix h) hP

theorem IsLocal.thenBeyond {F : α × List Char → Except Fault (β × List Char)} (hR : IsLocal Beyond R)
    (hF : ∀ a, IsLocal Beyond fun rest => F (a, rest)) : IsLocal Beyond fun cs => R cs >>= F :=
  hR.bind hF fun _ _ {_ _ _ _} hrest h => ((hF _).suffix h).trans hrest

theorem IsLocal.mono {P' : List Char → α → List Char → Prop} {P : List Char → α → List Char → Prop}
    (hR : IsLocal P R) (hP : ∀ t a rest, P t a rest → P' t a rest) : IsLocal P' R where
  suffix := hR.suffix
  appended cs := by
    cases hR.appended cs with
    | goes a rest hx hy => exact .goes a rest hx hy
    | ends a hx hy => exact .ends a hx hy
    | fails e hx hy => exact .fails e hx fun t ht a rest h => hP t a rest (hy t ht a rest h)

theorem isLocal_pure (a : β) : IsLocal P fun cs => .ok (a, cs) where
  suffix h := by cases h; exact List.suffix_refl _
  appended cs := .goes a cs rfl fun _ _ => rfl

theorem isLocal_error (e : Fault) : IsLocal P fun _ => .error e where
  suffix h := by cases h
  appended cs := .fails e rfl fun _ _ _ _ h => by cases h

theorem isLocal_check {x : Except Fault γ} {F : γ → Reader β} (hF : ∀ c, IsLocal P (F c)) :
    IsLocal P fun cs => x >>= fun c => F c cs := by
  cases x with
  | error e => exact isLocal_error e
  | ok c => exact hF c

theorem isLocal_ite {p : Prop} [Decidable p] {A B : Reader β} (hA : IsLocal P A) (hB : IsLocal P B) :
    IsLocal P fun cs => if p then A cs else B cs := by
  by_cases hp : p
  · simpa only [if_pos hp] using hA
  · simpa only [if_neg hp] using hB

theorem isLocal_uncons {A : Reader β} {D : Char → Reader β} {e : Fault} (hnil : A [] = .error e)
    (hcons : ∀ c cs, A (c :: cs) = D c cs) (hD : ∀ c, IsLocal P (D c))
    (hP : ∀ t b rest, rest <:+ t.tail → P t b rest) : IsLocal P A where
  suffix {cs b rest} h := by
    cases cs with
    | nil => rw [hnil] at h; cases h
    | cons c cs =>
      rw [hcons] at h
      exact ((hD c).suffix h).trans (List.suffix_cons c cs)
  appended cs := by
    cases cs with
    | nil =>
      refine .fails e hnil fun t ht b rest h => hP t b rest ?_
      obtain ⟨u, rfl, -⟩ := closing_cases ht
      rw [List.nil_append, hcons] at h
      exact (hD ')').suffix h
    | cons c cs =>
      rw [hcons]
      exact ((hD c).appended cs).congr fun t _ => hcons c (cs ++ t)

def onHead (p : Char → Bool) (C : Char → Reader β) (B : Reader β) : Reader β
  | [] => B []
  | c :: cs => if p c then C c cs else B (c :: cs)

def onPair (c d : Char) (C B : Reader β) : Reader β
  | c' :: d' :: cs => if c' = c ∧ d' = d then C cs else B (c' :: d' :: cs)
  | cs => B cs

theorem isLocal_onHead {B : Reader β} {C : Char → Reader β} {p : Char → Bool} (hp : p ')' = false)
    (hC : ∀ c, IsLocal P (C c)) (hB : IsLocal P B) : IsLocal P (onHead p C B) where
  suffix {cs b rest} h := by
    cases cs with
    | nil => exact hB.suffix h
    | cons c cs =>
      rw [onHead] at h
      split at h
      · exact ((hC c).suffix h).trans (List.suffix_cons c cs)
      · exact hB.suffix h
  appended cs := by
    cases cs with
    | nil =>
      refine (hB.appended []).congr fun t ht => ?_
      obtain ⟨u, rfl, -⟩ := closing_cases ht
      simp [onHead, hp]
    | cons c cs =>
      by_cases hc : p c
      · simpa only [onHead, List.cons_append, if_pos hc] using (hC c).appended cs
      · simpa only [onHead, List.cons_append, if_neg hc] using hB.appended (c :: cs)

theorem isLocal_onPair {B C : Reader β} {c d : Char} (hc : c ≠ ')') (hd : d ≠ ')')
    (hC : IsLocal P C) (hB : IsLocal P B) : IsLocal P (onPair c d C B) where
  suffix {cs b rest} h := by
    rcases cs with - | ⟨c', - | ⟨d', cs⟩⟩
    · exact hB.suffix h
    · exact hB.suffix h
    · rw [onPair] at h
      split at h
      · exact (hC.suffix h).trans ((List.suffix_cons d' cs).trans (List.suffix_cons c' (d' :: cs)))
      · exact hB.suffix h
  appended cs := by
    -- the parenthesis is neither of the two characters
    rcases cs with - | ⟨c', - | ⟨d', cs⟩⟩
    · refine (hB.appended []).congr fun t ht => ?_
      obtain ⟨u, rfl, rfl | rfl⟩ := closing_cases ht <;> simp [onPair, hc.symm]
    · refine (hB.appended [c']).congr fun t ht => ?_
      obtain ⟨u, rfl, rfl | rfl⟩ := closing_cases ht <;> simp [onPair, hd.symm]
    · by_cases hcd : c' = c ∧ d' = d
      · simpa only [onPair, List.cons_append, if_pos hcd] using hC.appended cs
      · simpa only [onPair, List.cons_append, if_neg hcd] using hB.appended (c' :: d' :: cs)

end

/-- A reader with a bound that does not matter if it is greater than the length of the text. -/
theorem isLocal_bounded {α : Type} {P : List Char → α → List Char → Prop} {F : Nat → Reader α}
    (hF : ∀ n, IsLocal P (F n))
    (heq : ∀ {n m cs}, cs.length < n → cs.length < m → F n cs = F m cs) :
    IsLocal P fun cs => F (cs.length + 1) cs where
  suffix := (hF _).suffix
  appended cs := by
    have hself : F (cs.length + 1) cs = F (cs.length + 3) cs := heq (by omega) (by omega)
    rw [hself]
    refine ((hF (cs.length + 3)).appended cs).congr fun t ht => heq (by omega) ?_
    obtain ⟨u, rfl, rfl | rfl⟩ := closing_cases ht <;> simp

/-! ## White space and comments -/

theorem skipTrivia_suffix : ∀ (b : Bool) (cs : List Char), skipTrivia b cs <:+ cs
  | true, [] => List.suffix_refl _
  | false, [] => List.suffix_refl _
  | true, c :: cs => (skipTrivia_suffix _ cs).trans (List.suffix_cons c cs)
  | false, c :: cs => by
    rw [skipTrivia]
    split
    · exact (skipTrivia_suffix false cs).trans (List.suffix_cons c cs)
    · split
      · exact (skipTrivia_suffix true cs).trans (List.suffix_cons c cs)
      · exact List.suffix_refl _

/-- A closing is left where it stands, or it is a part of the comment that is open. -/
theorem skipTrivia_append : ∀ (b : Bool) (cs : List Char),
    (∀ t ∈ closings, skipTrivia b (cs ++ t) = skipTrivia b cs ++ t) ∨
      (skipTrivia b cs = [] ∧ ∀ t ∈ closings, skipTrivia b (cs ++ t) = [])
  | true, [] => .inr (by decide)
  | false, [] => .inl (by decide)
  | true, c :: cs => skipTrivia_append (c != '\n') cs
  | false, c :: cs => by
    simp only [List.cons_append, skipTrivia]
    by_cases hspace : isSpace c
    · simpa only [if_pos hspace] using skipTrivia_append false cs
    · by_cases hcomment : c = '#'
      · simpa only [if_neg hspace, if_pos hcomment] using skipTrivia_append true cs
      · exact .inl fun t _ => by simp [hspace, hcomment]

theorem Flags.skip_suffix (f : Flags) (cs : List Char) : f.skip cs <:+ cs := by
  rw [skip]
  split
  · exact skipTrivia_suffix false cs
  · exact List.suffix_refl cs

theorem Flags.skip_append (f : Flags) (cs : List Char) :
    (∀ t ∈ closings, f.skip (cs ++ t) = f.skip cs ++ t) ∨
      (f.skip cs = [] ∧ ∀ t ∈ closings, f.skip (cs ++ t) = []) := by
  by_cases hf : f.verbose
  · simpa only [skip, if_pos hf] using skipTrivia_append false cs
  · exact .inl fun t _ => by simp [skip, hf]

theorem isLocal_skip {α : Type} {P : List Char → α → List Char → Prop} (f : Flags) (a : α) :
    IsLocal P fun cs => .ok (a, f.skip cs) where
  suffix h := by cases h; exact f.skip_suffix _
  appended cs := by
    rcases f.skip_append cs with h | ⟨hnil, h⟩
    · exact .goes a (f.skip cs) rfl fun t ht => by rw [h t ht]
    · exact .ends a (by rw [hnil]) fun t ht => by rw [h t ht]

/-- A reader that passes over white space and comments first. -/
theorem IsLocal.afterSkip {α : Type} {P : List Char → α → List Char → Prop} {R : Reader α}
    (hR : IsLocal P R) (hP : ∀ t a rest, rest <:+ t.tail → P t a rest) (f : Flags) :
    IsLocal P fun cs => R (f.skip cs) :=
  (isLocal_skip (P := Beyond) f ()).bind (F := fun q => R q.2) (fun _ => hR)
    fun t _ {_ _ a rest'} hrest h => hP t a rest' ((hR.suffix h).trans hrest)

end Regex
end RequestMatching
