import Mathlib.Data.List.TakeDrop
import RequestMatching.Proofs.Regex.Appending

/-!
# Escapes are local

A reader of an escape reads no further than the escape. Only a word boundary looks beyond itself for a
name in braces.
-/

namespace RequestMatching

namespace Regex

theorem beyond_self {α : Type} : ∀ (t : List Char) (a : α) (rest : List Char),
    rest <:+ t.tail → Beyond t a rest :=
  fun _ _ _ h => h

theorem Flags.skip_length_le (f : Flags) (cs : List Char) : (f.skip cs).length ≤ cs.length :=
  (f.skip_suffix cs).length_le

theorem isLocal_hexDigits (f : Flags) : ∀ k n, IsLocal Beyond (hexDigits f k n)
  | 0, n => isLocal_pure n
  | k + 1, n => by
    have hcons : ∀ c cs, hexDigits f (k + 1) n (c :: cs) =
        (hexDigits.hexValue c).elim (.error .escape) fun d => hexDigits f k (n * 16 + d) (f.skip cs) := by
      intro c cs
      rw [hexDigits]
      cases hexDigits.hexValue c <;> rfl
    refine isLocal_uncons rfl hcons (fun c => ?_) beyond_self
    cases hexDigits.hexValue c with
    | none => exact isLocal_error _
    | some d => exact (isLocal_hexDigits f k _).afterSkip beyond_self f

theorem untilBrace_eq (f : Flags) : ∀ {n m : Nat} {cs : List Char}, cs.length < n → cs.length < m →
    untilBrace f n cs = untilBrace f m cs
  | n + 1, m + 1, [], _, _ => rfl
  | n + 1, m + 1, c :: cs, hn, hm => by
    have hle := f.skip_length_le cs
    simp only [List.length_cons] at hn hm
    rw [untilBrace, untilBrace, untilBrace_eq f (n := n) (m := m) (by omega) (by omega)]

theorem isLocal_untilBrace_bounded (f : Flags) : ∀ n, IsLocal Beyond (untilBrace f n)
  | 0 => isLocal_error _
  | n + 1 => by
    refine isLocal_uncons (D := fun c cs => if c = '}' then .ok ([], cs)
      else untilBrace f n (f.skip cs) >>= fun q => .ok (c :: q.1, q.2)) rfl (fun _ _ => rfl)
      (fun c => ?_) beyond_self
    refine isLocal_ite (isLocal_pure _) (IsLocal.thenBeyond ?_ fun a => isLocal_pure (c :: a))
    exact (isLocal_untilBrace_bounded f n).afterSkip beyond_self f

theorem isLocal_untilBrace (f : Flags) :
    IsLocal Beyond fun cs => untilBrace f (cs.length + 1) (f.skip cs) := by
  have hbounded := isLocal_bounded (isLocal_untilBrace_bounded f) (untilBrace_eq f)
  have heq : ∀ cs, untilBrace f (cs.length + 1) (f.skip cs) =
      untilBrace f ((f.skip cs).length + 1) (f.skip cs) := fun cs =>
    untilBrace_eq f (Nat.lt_succ_of_le (f.skip_length_le cs)) (Nat.lt_succ_self _)
  simpa only [heq] using hbounded.afterSkip beyond_self f

theorem isLocal_bracedHex (f : Flags) : IsLocal Beyond (bracedHex f) := by
  refine (isLocal_untilBrace f).thenBeyond fun inner => ?_
  refine isLocal_ite (isLocal_error _) (isLocal_check fun ⟨n, _⟩ => ?_)
  simp only
  cases charOf? n with
  | none => exact isLocal_error _
  | some c => exact isLocal_skip f _

theorem isLocal_plainHex (f : Flags) (width : Nat) : IsLocal Beyond (plainHex f width) := by
  refine (isLocal_hexDigits f width 0).thenBeyond fun n => ?_
  simp only
  cases charOf? n with
  | none => exact isLocal_error _
  | some c => exact isLocal_pure _

theorem hexEscape_eq (f : Flags) (width : Nat) : hexEscape f width =
    fun cs => onHead (· = '{') (fun _ => bracedHex f) (plainHex f width) (f.skip cs) := by
  funext cs
  unfold hexEscape
  cases f.skip cs with
  | nil => rfl
  | cons c rest => by_cases hc : c = '{' <;> simp [onHead, hc]

theorem isLocal_hexEscape (f : Flags) (width : Nat) : IsLocal Beyond (hexEscape f width) := by
  rw [hexEscape_eq]
  exact (isLocal_onHead rfl (fun _ => isLocal_bracedHex f) (isLocal_plainHex f width)).afterSkip
    beyond_self f

theorem isLocal_bracedProperty (f : Flags) (negated : Bool) :
    IsLocal Beyond (bracedProperty f negated) :=
  (isLocal_untilBrace f).thenBeyond fun _ => isLocal_check fun a => isLocal_pure a

theorem isLocal_letterProperty (f : Flags) (negated : Bool) :
    IsLocal Beyond (letterProperty f negated) :=
  isLocal_uncons rfl (fun _ _ => rfl)
    (fun _ => isLocal_ite (isLocal_error _) (isLocal_check fun a => isLocal_skip f a)) beyond_self

theorem propertyEscape_eq (f : Flags) (negated : Bool) : propertyEscape f negated =
    fun cs => onHead (· = '{') (fun _ => bracedProperty f negated) (letterProperty f negated)
      (f.skip cs) := by
  funext cs
  unfold propertyEscape
  cases f.skip cs with
  | nil => rfl
  | cons c rest => by_cases hc : c = '{' <;> simp [onHead, hc]

theorem isLocal_propertyEscape (f : Flags) (negated : Bool) :
    IsLocal Beyond (propertyEscape f negated) := by
  rw [propertyEscape_eq]
  exact (isLocal_onHead rfl (fun _ => isLocal_bracedProperty f negated)
    (isLocal_letterProperty f negated)).afterSkip beyond_self f

theorem isLocal_perlClass (f : Flags) (c : Char) : IsLocal Beyond (perlClass f c) :=
  isLocal_ite (isLocal_pure _) (isLocal_error _)

def boundaryName (f : Flags) : Reader Atom := fun inner => do
  let (name, rest) ← untilBrace f (inner.length + 1) (f.skip inner)
  return (← boundaryNamed (!f.unicode) name, rest)

theorem isLocal_boundaryName (f : Flags) : IsLocal Beyond (boundaryName f) :=
  (isLocal_untilBrace f).thenBeyond fun _ => isLocal_check fun a => isLocal_pure a

/-- With a closing behind the text, a word boundary may leave a brace that has been the beginning of a
name before. -/
def BeyondBrace (f : Flags) (t : List Char) (a : Atom) (rest : List Char) : Prop :=
  rest <:+ t.tail ∨
    (∃ l, a = .look l) ∧ ∃ inner, rest = '{' :: (inner ++ t) ∧ f.skip (inner ++ t) = t

theorem IsLocal.beyondBrace {R : Reader Atom} (hR : IsLocal Beyond R) (f : Flags) :
    IsLocal (BeyondBrace f) R :=
  hR.mono fun _ _ _ => Or.inl

theorem isLocal_wordBoundary (f : Flags) : IsLocal (BeyondBrace f) (wordBoundary f) where
  suffix {cs a rest} h := by
    unfold wordBoundary at h
    split at h
    · split at h
      · cases h
      · split at h
        · exact ((isLocal_boundaryName f).suffix h).trans (List.suffix_cons _ _)
        · cases h; exact List.suffix_refl _
    · cases h; exact List.suffix_refl _
  appended cs := by
    cases cs with
    | nil =>
      refine .goes _ [] rfl fun t ht => ?_
      obtain ⟨u, rfl, -⟩ := closing_cases ht
      rfl
    | cons c inner =>
      by_cases hc : c = '{'
      · subst hc
        rcases f.skip_append inner with hskip | ⟨hnil, hskip⟩
        · cases hrest : f.skip inner with
          | nil =>
            -- the text ends where a name may begin, and a parenthesis begins none
            refine .fails .escape (by simp [wordBoundary, hrest]) fun t ht a rest h => .inr ?_
            have hinner := hskip t ht
            rw [hrest, List.nil_append] at hinner
            obtain ⟨u, rfl, -⟩ := closing_cases ht
            simp only [wordBoundary, List.cons_append, hinner] at h
            rw [if_neg (by decide)] at h
            cases h
            exact ⟨⟨_, rfl⟩, inner, rfl, hinner⟩
          | cons d rest =>
            by_cases hd : d.isAlpha || d = '-'
            · have hx : wordBoundary f ('{' :: inner) = boundaryName f inner := by
                simp only [wordBoundary, boundaryName, hrest, if_pos hd]
              rw [hx]
              refine (((isLocal_boundaryName f).beyondBrace f).appended inner).congr fun t ht => ?_
              simp only [wordBoundary, boundaryName, List.cons_append, hskip t ht, hrest, if_pos hd]
            · refine .goes _ ('{' :: inner) (by simp only [wordBoundary, hrest, if_neg hd]; rfl)
                fun t ht => ?_
              simp only [wordBoundary, List.cons_append, hskip t ht, hrest, if_neg hd]
        · refine .fails .escape (by simp [wordBoundary, hnil]) fun t ht a rest h => ?_
          simp [wordBoundary, hskip t ht] at h
      · exact .goes (.look (.word (!f.unicode) fun a b => a != b)) (c :: inner)
          (by simp [wordBoundary, hc]) fun t _ => by simp [wordBoundary, hc]

theorem isLocal_letterEscape (f : Flags) (c : Char) : IsLocal (BeyondBrace f) (letterEscape f c) := by
  unfold letterEscape
  split
  all_goals first
    | exact isLocal_pure _
    | exact isLocal_error _
    | exact isLocal_wordBoundary f
    | exact (isLocal_hexEscape f _).beyondBrace f
    | exact (isLocal_propertyEscape f _).beyondBrace f
    | exact (isLocal_perlClass f _).beyondBrace f

theorem isLocal_escape (f : Flags) : IsLocal (BeyondBrace f) (escape f) :=
  isLocal_uncons rfl (fun _ _ => rfl) (fun c => isLocal_ite (isLocal_error _)
    (isLocal_ite (isLocal_pure _) (isLocal_letterEscape f c))) fun _ _ _ => Or.inl

end Regex
end RequestMatching
