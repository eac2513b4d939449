import RequestMatching.Proofs.Regex.LowerReading
import RequestMatching.Proofs.Text.Tables

/-!
# Escapes that say the same in lower case

A character behind a backslash is not lower-cased. Punctuation stands for itself there, and has no case.
Digits and white space have none either, and the lower-case form of a character of words is one, so their
classes and the boundaries between words hold of a lowered text where they held before.
-/

namespace RequestMatching

namespace Regex

/-! ## Sets -/

/-- The set does not tell a character from its lower-case form. -/
def CharSet.IgnoresCase (s : CharSet) : Prop :=
  ∀ c : Char, s.contains (lowered c).toNat = s.contains c.toNat

theorem CharSet.ignoresCase_of_isCaseless {s : CharSet}
    (hs : ∀ c : Char, s.contains c.toNat = true → IsCaseless c) : s.IgnoresCase :=
  @apply_lowered (fun c => s.contains c.toNat) hs

theorem CharSet.ignoresCase_digit : digit.IgnoresCase := by
  refine ignoresCase_of_isCaseless fun c hc => Category.isCaseless_of_decimal ?_
  simpa [digit, contains] using hc

theorem CharSet.ignoresCase_space : space.IgnoresCase := by
  refine ignoresCase_of_isCaseless fun c hc => isCaseless_of_isSpace ?_
  simp only [space, ofRanges, List.foldl, empty, contains, Bool.or_eq_true, Bool.and_eq_true,
    decide_eq_true_eq] at hc
  simp only [isSpace, Bool.or_eq_true, Bool.and_eq_true, decide_eq_true_eq, beq_iff_eq]
  omega

theorem CharSet.ignoresCase_word : word.IgnoresCase := by
  intro c
  rw [lowered_toNat]
  rcases CaseRun.shifted_cases CaseRun.lowercase c.toNat with ⟨r, hr, hcovers, hshift⟩ | ⟨-, hstays⟩
  · obtain ⟨hupper, hlower⟩ := alphabetic_of_covers hr hcovers
    rw [hshift]
    simp only [word, contains, hupper, hlower, Bool.true_or, Bool.or_true]
  · rw [hstays]

theorem CharSet.IgnoresCase.any_map {s : CharSet} (h : s.IgnoresCase) (c : Option Char) :
    (c.map lowered).any (fun c => s.contains c.toNat) = c.any fun c => s.contains c.toNat := by
  cases c with
  | none => rfl
  | some c => exact h c

theorem CharSet.IgnoresCase.covers_complIf {s : CharSet} (h : s.IgnoresCase) (negated : Bool) :
    (complIf negated s).Covers (complIf negated s) := by
  intro c hc
  cases negated with
  | false => exact (h c).trans hc
  | true =>
    simp only [complIf, contains, if_true, h c] at hc ⊢
    exact hc

end Regex

theorem Look.covers_word (holds : Bool → Bool → Bool) :
    Covers (.word false holds) (.word false holds) := by
  intro before after h
  simp only [holdsBetween, Bool.false_eq_true, if_false] at h ⊢
  rwa [Regex.CharSet.ignoresCase_word.any_map, Regex.CharSet.ignoresCase_word.any_map]

namespace Regex

/-! ## Atoms -/

/-- The atom holds of a text in lower case where it held of the text. -/
def Atom.IsSteady : Atom → Prop
  | .literal c byte => IsCaseless c ∧ byte = false
  | .set s => s.Covers s
  | .look l => l.Covers l

theorem Atom.IsSteady.atomPiece {a : Atom} (h : a.IsSteady) (f : Flags) :
    ∃ p, atomPiece f a = .ok p ∧ p.Widens p := by
  cases a with
  | literal c byte =>
    obtain ⟨hcase, rfl⟩ := h
    have hwidens := literalPiece_widens f c
    rw [hcase.lowered] at hwidens
    exact ⟨literalPiece f c, by simp [Regex.atomPiece], hwidens⟩
  | set s => exact ⟨setPiece s 0, rfl, .char h, Nat.le_refl _⟩
  | look l => exact ⟨lookPiece l, rfl, .look h, Nat.le_refl _⟩

/-! ## Escapes -/

theorem isCaseless_of_isEscapable {c : Char} (h : isEscapable c = true) : IsCaseless c := by
  have hmetas : ("\\.+*?()|[]\x7b\x7d^$#&-~".toList.all fun x => CaseRun.isCaseless x.toNat) =
      true := by decide +kernel
  have hascii : ∀ n < 128, (Char.ofNat n).isAlphanum = false → CaseRun.isCaseless n = true := by
    decide +kernel
  simp only [isEscapable, isMeta, Bool.or_eq_true, List.contains_iff_mem, Bool.and_eq_true,
    decide_eq_true_eq, Bool.not_eq_true'] at h
  rcases h with hmeta | ⟨⟨⟨hlast, hplain⟩, -⟩, -⟩
  · exact List.all_eq_true.mp hmetas c hmeta
  · refine hascii c.toNat hlast ?_
    rwa [Char.ofNat_toNat]

/-- The piece of an escape, behind its backslash. -/
def escapedPiece (f : Flags) (cs : List Char) : Except Fault (Piece × List Char) := do
  let (atom, rest) ← escape f cs
  return (← atomPiece f atom, rest)

def steadyLetters : List Char :=
  ['d', 's', 'w', 'D', 'S', 'W', 'a', 'f', 't', 'n', 'r', 'v', 'A', 'z', 'B', '<', '>']

/-- Whether an escape, behind its backslash, says the same in lower case: it is punctuation, a class of
one letter, a control character, an end of the text or a boundary of words without a name. -/
def isSteadyEscape (f : Flags) : List Char → Bool
  | [] => false
  | c :: cs => isEscapable c ||
      f.unicode && (steadyLetters.contains c || c == 'b' && cs.head? != some '\x7b')

theorem isSteadyEscape_of_head {f : Flags} {c : Char} {cs cs' : List Char}
    (h : isSteadyEscape f (c :: cs) = true) (hhead : cs'.head? ≠ some '\x7b') :
    isSteadyEscape f (c :: cs') = true := by
  simp only [isSteadyEscape, Bool.or_eq_true, Bool.and_eq_true, bne_iff_ne] at h ⊢
  exact h.imp_right fun ⟨hunicode, h⟩ => ⟨hunicode, h.imp_right fun ⟨hc, _⟩ => ⟨hc, hhead⟩⟩

theorem escape_of_isEscapable (f : Flags) {c : Char} (h : isEscapable c = true) (cs : List Char) :
    escape f (c :: cs) = .ok (.literal c false, cs) := by
  have hdigit : c.isDigit = false := by
    refine Bool.eq_false_iff.mpr fun hc => ?_
    have hdigits : ∀ n < 58, 48 ≤ n → isEscapable (Char.ofNat n) = false := by decide +kernel
    simp only [Char.isDigit, Bool.and_eq_true, decide_eq_true_eq, UInt32.le_iff_toNat_le] at hc
    have hnone := hdigits c.toNat (Nat.lt_succ_of_le hc.2) hc.1
    rw [Char.ofNat_toNat, h] at hnone
    cases hnone
  simp [escape, hdigit, h]

theorem perlClass_of_unicode {f : Flags} (hf : f.unicode = true) (c : Char) :
    ∃ s : CharSet, s.Covers s ∧ ∀ rest, perlClass f c rest = .ok (.set s, rest) := by
  refine ⟨_, ?_, fun rest => by simp only [perlClass, hf, Bool.true_or, if_true]; rfl⟩
  refine CharSet.IgnoresCase.covers_complIf ?_ _
  split
  · exact CharSet.ignoresCase_digit
  · exact CharSet.ignoresCase_space
  · exact CharSet.ignoresCase_word

/-- Whatever follows, the letter stands for one steady atom. -/
def StandsFast (f : Flags) (c : Char) : Prop :=
  ∃ a : Atom, a.IsSteady ∧ ∀ cs, letterEscape f c cs = .ok (a, cs)

theorem standsFast_of_mem {f : Flags} (hf : f.unicode = true) {c : Char} (hc : c ∈ steadyLetters) :
    StandsFast f c := by
  have hclass : ∀ c, (∀ cs, letterEscape f c cs = perlClass f c cs) → StandsFast f c := by
    intro c hc
    obtain ⟨s, hs, hread⟩ := perlClass_of_unicode hf c
    exact ⟨.set s, hs, fun cs => (hc cs).trans (hread cs)⟩
  have hcontrol : ∀ c x, x.toNat < 0x41 →
      (∀ cs, letterEscape f c cs = .ok (.literal x false, cs)) → StandsFast f c :=
    fun c x hx hread => ⟨.literal x false, ⟨isCaseless_below _ hx, rfl⟩, hread⟩
  have hlook : ∀ c l, Look.Covers l l → (∀ cs, letterEscape f c cs = .ok (.look l, cs)) →
      StandsFast f c :=
    fun c l hl hread => ⟨.look l, hl, hread⟩
  have hword : ∀ c holds, (∀ cs, letterEscape f c cs = .ok (.look (.word (!f.unicode) holds), cs)) →
      StandsFast f c := by
    intro c holds hread
    rw [hf] at hread
    exact hlook c _ (Look.covers_word holds) hread
  simp only [steadyLetters, List.mem_cons, List.not_mem_nil, or_false] at hc
  rcases hc with rfl | rfl | rfl | rfl | rfl | rfl | rfl | rfl | rfl | rfl | rfl | rfl | rfl | rfl |
    rfl | rfl | rfl
  any_goals exact hclass _ fun _ => rfl
  any_goals exact hcontrol _ _ (by decide) fun _ => rfl
  · exact hlook 'A' _ Look.covers_textStart fun _ => rfl
  · exact hlook 'z' _ Look.covers_textEnd fun _ => rfl
  all_goals exact hword _ _ fun _ => rfl

theorem wordBoundary_of_head {f : Flags} {cs : List Char} (h : cs.head? ≠ some '\x7b') :
    wordBoundary f cs = .ok (.look (.word (!f.unicode) fun a b => a != b), cs) := by
  unfold wordBoundary
  split
  · exact absurd rfl h
  · rfl

theorem escape_of_isSteadyEscape {f : Flags} {c : Char} {cs : List Char}
    (h : isSteadyEscape f (c :: cs) = true) : ∃ a : Atom, a.IsSteady ∧
      ∀ cs, isSteadyEscape f (c :: cs) = true → escape f (c :: cs) = .ok (a, cs) := by
  cases hescapable : isEscapable c with
  | true =>
    exact ⟨.literal c false, ⟨isCaseless_of_isEscapable hescapable, rfl⟩,
      fun cs _ => escape_of_isEscapable f hescapable cs⟩
  | false =>
    simp only [isSteadyEscape, hescapable, Bool.false_or, Bool.and_eq_true, Bool.or_eq_true,
      List.contains_iff_mem, beq_iff_eq, bne_iff_ne] at h ⊢
    obtain ⟨hunicode, hletter⟩ := h
    have hdigit : c.isDigit = false := by
      have hnone : (('b' :: steadyLetters).all fun c => !c.isDigit) = true := by decide
      have hmem : c ∈ 'b' :: steadyLetters := by rcases hletter with hmem | ⟨rfl, -⟩ <;> simp [*]
      simpa using List.all_eq_true.mp hnone c hmem
    have hletterEscape : ∀ cs, escape f (c :: cs) = letterEscape f c cs := by
      intro cs
      simp [escape, hdigit, hescapable]
    rcases hletter with hmem | ⟨rfl, -⟩
    · obtain ⟨a, ha, hread⟩ := standsFast_of_mem hunicode hmem
      exact ⟨a, ha, fun cs _ => (hletterEscape cs).trans (hread cs)⟩
    · refine ⟨.look (.word false fun a b => a != b), Look.covers_word _, fun cs hcs => ?_⟩
      have hhead : cs.head? ≠ some '\x7b' := by
        rcases hcs.2 with hmem | ⟨-, hhead⟩
        · exact absurd hmem (by decide)
        · exact hhead
      rw [hletterEscape, letterEscape, wordBoundary_of_head hhead, hunicode]
      rfl

/-- The piece of a steady escape does not depend on what follows, and covers itself. -/
theorem escapedPiece_of_isSteadyEscape {f : Flags} {c : Char} {cs : List Char}
    (h : isSteadyEscape f (c :: cs) = true) : ∃ p : Piece, p.Widens p ∧
      ∀ cs, isSteadyEscape f (c :: cs) = true → escapedPiece f (c :: cs) = .ok (p, cs) := by
  obtain ⟨a, ha, hread⟩ := escape_of_isSteadyEscape h
  obtain ⟨p, hp, hwidens⟩ := ha.atomPiece f
  refine ⟨p, hwidens, fun cs hcs => ?_⟩
  simp only [escapedPiece, hread cs hcs, bind, Except.bind, hp]
  rfl

theorem isSteadyEscape_lowerSource {f : Flags} {c : Char} {cs : List Char}
    (h : isSteadyEscape f (c :: cs) = true) : isSteadyEscape f (c :: lowerSource false cs) = true := by
  simp only [isSteadyEscape, Bool.or_eq_true, Bool.and_eq_true, bne_iff_ne] at h ⊢
  refine h.imp_right fun ⟨hunicode, h⟩ => ⟨hunicode, h.imp_right fun ⟨hc, hhead⟩ => ⟨hc, ?_⟩⟩
  cases cs with
  | nil => exact hhead
  | cons d cs =>
    intro hd
    refine hhead (congrArg some ?_)
    exact (lowered_eq_mark_iff (by decide)).mp (Option.some.inj hd)

end Regex
end RequestMatching
