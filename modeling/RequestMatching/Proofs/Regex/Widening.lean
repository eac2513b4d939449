import RequestMatching.Proofs.Regex.Places
import RequestMatching.Proofs.Text.Lowering

/-!
# Expressions for lowered texts

Two expressions of the same shape are compared part by part: each set of the second holds the
lower-case forms of the members of the first, and each condition on a place still holds when the
characters around it are lower-cased. Then the second matches the lower-case form of every text that
the first matches.
-/

namespace RequestMatching

namespace Regex

/-- The second set holds the lower-case form of every member of the first. -/
def CharSet.Covers (s s' : CharSet) : Prop :=
  ∀ c : Char, s.contains c.toNat = true → s'.contains (lowered c).toNat = true

end Regex

/-- Where the first condition holds between two characters, the second does between their lower-case
forms. -/
def Look.Covers (l l' : Look) : Prop :=
  ∀ before after, l.holdsBetween before after = true →
    l'.holdsBetween (before.map lowered) (after.map lowered) = true

namespace Regex

/-- Part by part, the second expression covers the first one in lower case. -/
inductive Widens : Regex → Regex → Prop
  | empty : Widens .empty .empty
  | char {s s' : CharSet} (h : s.Covers s') : Widens (.char s) (.char s')
  | look {l l' : Look} (h : l.Covers l') : Widens (.look l) (.look l')
  | cat {first second first' second' : Regex} (hfirst : Widens first first')
      (hsecond : Widens second second') : Widens (.cat first second) (.cat first' second')
  | alt {left right left' right' : Regex} (hleft : Widens left left')
      (hright : Widens right right') : Widens (.alt left right) (.alt left' right')
  | rep {body body' : Regex} (hbody : Widens body body') (min : Nat) (max : Option Nat) :
      Widens (.rep body min max) (.rep body' min max)

theorem charBefore_map (f : Char → Char) (text : List Char) (i : Nat) :
    charBefore (text.map f) i = (charBefore text i).map f := by
  cases i <;> simp [charBefore]

theorem Rounds.imp {R R' : Nat → Nat → Prop} (h : ∀ {i j}, R i j → R' i j) {n i j : Nat}
    (hn : Rounds R n i j) : Rounds R' n i j := by
  induction n generalizing i with
  | zero => exact hn
  | succ n ih =>
    obtain ⟨k, hik, hkj⟩ := hn
    exact ⟨k, h hik, ih hkj⟩

theorem Widens.spans {r r' : Regex} (h : Widens r r') {text : List Char} {i j : Nat}
    (hspan : Spans text r i j) : Spans (text.map lowered) r' i j := by
  induction h generalizing i j with
  | empty => exact hspan
  | char hset =>
    obtain ⟨⟨c, hc, hmem⟩, rfl⟩ := hspan
    exact ⟨⟨lowered c, by simp [hc], hset c hmem⟩, rfl⟩
  | look hlook =>
    obtain ⟨hi, hholds, rfl⟩ := hspan
    refine ⟨by simpa using hi, ?_, rfl⟩
    rw [charBefore_map, List.getElem?_map]
    exact hlook _ _ hholds
  | cat _ _ ihfirst ihsecond =>
    obtain ⟨k, hfirst, hsecond⟩ := hspan
    exact ⟨k, ihfirst hfirst, ihsecond hsecond⟩
  | alt _ _ ihleft ihright => exact hspan.imp ihleft ihright
  | rep _ min max ih =>
    obtain ⟨n, hmin, hmax, hrounds⟩ := hspan
    exact ⟨n, hmin, hmax, hrounds.imp ih⟩

theorem Widens.isMatch {r r' : Regex} (h : Widens r r') {text text' : String}
    (htext : text'.toList = text.toList.map lowered) (hmatch : r.isMatch text = true) :
    r'.isMatch text' = true := by
  obtain ⟨i, j, hi, hspan⟩ := (isMatch_iff r text).mp hmatch
  refine (isMatch_iff r' text').mpr ⟨i, j, ?_, ?_⟩
  · rwa [htext, List.length_map]
  · rw [htext]
    exact h.spans hspan

/-! ## Sets and conditions that need not change -/

theorem CharSet.single_contains {c d : Char} :
    (CharSet.single c).contains d.toNat = true ↔ d = c := by
  simp only [CharSet.single, CharSet.contains, Bool.and_eq_true, decide_eq_true_eq, ← Char.toNat_inj]
  omega

theorem CharSet.covers_single (c : Char) : (single c).Covers (single (lowered c)) := by
  intro d hd
  rw [single_contains] at hd ⊢
  rw [hd]

theorem CharSet.folded_single_contains {c d : Char} :
    (CharSet.folded (single c)).contains d.toNat = true ↔ c.toNat ∈ caseOrbit d.toNat := by
  simp only [contains, List.any_eq_true, single, Bool.and_eq_true, decide_eq_true_eq]
  constructor
  · rintro ⟨m, hm, hle⟩
    rwa [show c.toNat = m by omega]
  · exact fun h => ⟨c.toNat, h, Nat.le_refl _, Nat.le_refl _⟩

theorem CharSet.asciiFolded_single_contains {c d : Char} :
    (CharSet.asciiFolded (single c)).contains d.toNat = true ↔ c.toNat ∈ asciiOrbit d.toNat := by
  simp only [contains, List.any_eq_true, single, Bool.and_eq_true, decide_eq_true_eq]
  constructor
  · rintro ⟨m, hm, hle⟩
    rwa [show c.toNat = m by omega]
  · exact fun h => ⟨c.toNat, h, Nat.le_refl _, Nat.le_refl _⟩

theorem CharSet.covers_folded_single (c : Char) :
    (folded (single c)).Covers (folded (single (lowered c))) := by
  intro d hd
  rw [folded_single_contains] at hd ⊢
  exact mem_caseOrbit_lowered hd

theorem self_mem_asciiOrbit (n : Nat) : n ∈ asciiOrbit n := by
  unfold asciiOrbit
  split
  · exact List.mem_cons_self ..
  · split <;> exact List.mem_cons_self ..

theorem CharSet.covers_compl {s : CharSet} (hs : ∀ c : Char, s.contains c.toNat = true → IsCaseless c) :
    (compl s).Covers (compl s) := by
  intro c hc
  have hlowered := @apply_lowered (fun c => s.contains c.toNat) hs c
  simp only [contains, hlowered]
  exact hc

end Regex

theorem Look.covers_textStart : Covers .textStart .textStart := by
  intro before after h
  simpa [holdsBetween] using h

theorem Look.covers_textEnd : Covers .textEnd .textEnd := by
  intro before after h
  simpa [holdsBetween] using h

theorem isCaseless_lineBreak : IsCaseless '\n' ∧ IsCaseless '\r' := by
  decide +kernel

theorem Look.covers_lineStart (crlf : Bool) : Covers (.lineStart crlf) (.lineStart crlf) := by
  intro before after h
  obtain ⟨hfeed, hreturn⟩ := isCaseless_lineBreak
  cases before with
  | none => cases crlf <;> rfl
  | some c =>
    cases crlf <;> cases after <;>
      simpa [holdsBetween, lowered_eq_iff hfeed, lowered_eq_iff hreturn] using h

theorem Look.covers_lineEnd (crlf : Bool) : Covers (.lineEnd crlf) (.lineEnd crlf) := by
  intro before after h
  obtain ⟨hfeed, hreturn⟩ := isCaseless_lineBreak
  cases after with
  | none => cases crlf <;> rfl
  | some c =>
    cases crlf <;> cases before <;>
      simpa [holdsBetween, lowered_eq_iff hfeed, lowered_eq_iff hreturn] using h

end RequestMatching
