import Mathlib.Data.List.Forall2
import RequestMatching.Pattern.Flagged
import RequestMatching.Proofs.Regex.Widening
import RequestMatching.Regex.Parser

/-!
# Reading a source in lower case

A source is lower-cased as text, but for the characters behind backslashes. White space, comments,
digits and the characters with a meaning of their own are where they were, so a repetition is read
with the same bounds; and where the pieces that have been read cover those of the source, so does
what is made of them.
-/

namespace RequestMatching

namespace Regex

/-- The characters of a source in lower case, but for each one after a backslash; `escaped` tells
whether one stands before. -/
def lowerSource (escaped : Bool) : List Char → List Char
  | [] => []
  | c :: cs =>
    if escaped then c :: lowerSource false cs else lowered c :: lowerSource (c == '\\') cs

/-- A pattern is lower-cased like that unless it holds the capital I with a dot. -/
theorem lowerPatternFrom_eq {cs : List Char} (h : '\u0130' ∉ cs) (escaped : Bool) :
    Flagged.lowerPatternFrom escaped cs = lowerSource escaped cs := by
  induction cs generalizing escaped with
  | nil => rfl
  | cons c cs ih =>
    simp only [List.mem_cons, not_or] at h
    cases escaped with
    | true => simp [Flagged.lowerPatternFrom, lowerSource, ih h.2]
    | false => simp [Flagged.lowerPatternFrom, lowerSource, ih h.2, lowerChar_eq (Ne.symm h.1)]

@[simp]
theorem lowerSource_nil (escaped : Bool) : lowerSource escaped [] = [] := rfl

theorem lowerSource_cons (c : Char) (cs : List Char) :
    lowerSource false (c :: cs) = lowered c :: lowerSource (c == '\\') cs := rfl

theorem lowerSource_cons_of_ne {c : Char} (h : c ≠ '\\') (cs : List Char) :
    lowerSource false (c :: cs) = lowered c :: lowerSource false cs := by
  rw [lowerSource_cons, beq_eq_false_iff_ne.mpr h]

theorem lowerSource_escaped (c : Char) (cs : List Char) :
    lowerSource true (c :: cs) = c :: lowerSource false cs := rfl

@[simp]
theorem length_lowerSource (escaped : Bool) (cs : List Char) :
    (lowerSource escaped cs).length = cs.length := by
  induction cs generalizing escaped with
  | nil => rfl
  | cons c cs ih => cases escaped <;> simp [lowerSource, ih]

/-- The characters that the readers look for, apart from letters, digits and white space. -/
def marks : List Char :=
  ['(', ')', '|', '[', '?', '*', '+', '{', '\\', '.', '^', '$', '}', ',', '#', ':', '\n']

theorem isCaseless_of_mem_marks : ∀ c ∈ marks, IsCaseless c := by
  have hmarks : (marks.all fun c => CaseRun.isCaseless c.toNat) = true := by decide +kernel
  exact List.all_eq_true.mp hmarks

theorem lowered_eq_mark_iff {x : Char} (hx : x ∈ marks) {c : Char} : lowered c = x ↔ c = x :=
  lowered_eq_iff (isCaseless_of_mem_marks x hx)

theorem lowered_mark {x : Char} (hx : x ∈ marks) : lowered x = x :=
  (isCaseless_of_mem_marks x hx).lowered

theorem lowerSource_mark {x : Char} (hx : x ∈ marks) (hne : x ≠ '\\') (cs : List Char) :
    lowerSource false (x :: cs) = x :: lowerSource false cs := by
  rw [lowerSource_cons_of_ne hne, lowered_mark hx]

/-! ## White space and comments -/

/-- In a comment, the character behind a backslash may be one that has not been lower-cased; the line
feed at its end is not. -/
theorem skipTrivia_lowerSource : ∀ (comment : Bool) (cs : List Char) (escaped : Bool),
    comment = true ∨ escaped = false →
      skipTrivia comment (lowerSource escaped cs) = lowerSource false (skipTrivia comment cs)
  | true, [], _, _ | false, [], _, _ => rfl
  | true, c :: cs, true, _ => skipTrivia_lowerSource (c != '\n') cs false (.inr rfl)
  | true, c :: cs, false, _ => by
    have hfeed : (lowered c != '\n') = (c != '\n') := by
      rw [Bool.eq_iff_iff, bne_iff_ne, bne_iff_ne, ne_eq, ne_eq,
        lowered_eq_mark_iff (by decide)]
    rw [lowerSource_cons, skipTrivia, skipTrivia, hfeed]
    refine skipTrivia_lowerSource (c != '\n') cs (c == '\\') ?_
    by_cases hc : c = '\n'
    · exact .inr (by rw [hc]; rfl)
    · exact .inl (bne_iff_ne.mpr hc)
  | false, c :: cs, false, _ => by
    rw [lowerSource_cons, skipTrivia, skipTrivia, isSpace_lowered]
    by_cases hspace : isSpace c = true
    · have hne : c ≠ '\\' := by rintro rfl; cases hspace
      rw [if_pos hspace, if_pos hspace, beq_eq_false_iff_ne.mpr hne]
      exact skipTrivia_lowerSource false cs false (.inr rfl)
    · rw [if_neg hspace, if_neg hspace]
      by_cases hcomment : c = '#'
      · rw [if_pos hcomment, if_pos ((lowered_eq_mark_iff (by decide)).mpr hcomment)]
        exact skipTrivia_lowerSource true cs _ (.inl rfl)
      · rw [if_neg hcomment, if_neg (mt (lowered_eq_mark_iff (by decide)).mp hcomment)]
        rfl

theorem Flags.skip_lowerSource (f : Flags) (cs : List Char) :
    f.skip (lowerSource false cs) = lowerSource false (f.skip cs) := by
  unfold skip
  split
  · exact skipTrivia_lowerSource false cs false (.inr rfl)
  · rfl

theorem dropWhile_isSpace_lowerSource (cs : List Char) :
    (lowerSource false cs).dropWhile isSpace = lowerSource false (cs.dropWhile isSpace) := by
  induction cs with
  | nil => rfl
  | cons c cs ih =>
    by_cases hspace : isSpace c = true
    · have hne : c ≠ '\\' := by rintro rfl; cases hspace
      simp [lowerSource_cons_of_ne hne, hspace, ih]
    · simp [lowerSource_cons, hspace]

theorem dropLazy_lowerSource (cs : List Char) :
    dropLazy (lowerSource false cs) = lowerSource false (dropLazy cs) := by
  cases cs with
  | nil => rfl
  | cons c cs =>
    by_cases hc : c = '?'
    · subst hc
      rw [lowerSource_mark (by decide) (by decide)]
      rfl
    · have hlowered : lowered c ≠ '?' := mt (lowered_eq_mark_iff (by decide)).mp hc
      simp [lowerSource_cons, dropLazy, hc, hlowered]

/-! ## Repetitions -/

/-- The same result, in front of the lowered rest. -/
def lowerRest {α : Type} (x : Except Fault (α × List Char)) : Except Fault (α × List Char) :=
  x.map fun (a, rest) => (a, lowerSource false rest)

theorem decimal?_lowerSource (f : Flags) : ∀ (n : Nat) (a : Option Nat) (cs : List Char),
    decimal? f n a (lowerSource false cs) =
      ((decimal? f n a cs).1, lowerSource false (decimal? f n a cs).2)
  | 0, _, _ | _ + 1, _, [] => rfl
  | n + 1, a, c :: cs => by
    by_cases hdigit : c.isDigit = true
    · have hne : c ≠ '\\' := by rintro rfl; cases hdigit
      rw [lowerSource_cons_of_ne hne, (isCaseless_of_isDigit hdigit).lowered]
      simp only [decimal?, if_pos hdigit, f.skip_lowerSource]
      exact decimal?_lowerSource f n _ (f.skip cs)
    · have hlowered : (lowered c).isDigit ≠ true := by rwa [isDigit_lowered]
      simp [lowerSource_cons, decimal?, hdigit, hlowered]

theorem repeatCount_lowerSource (f : Flags) (cs : List Char) :
    repeatCount f (lowerSource false cs) = lowerRest (repeatCount f cs) := by
  simp only [repeatCount, dropWhile_isSpace_lowerSource, length_lowerSource, decimal?_lowerSource]
  rcases decimal? f _ none (cs.dropWhile isSpace) with ⟨- | n, rest⟩
  · rfl
  · by_cases hn : n < twoTo 32
    · simp [hn, lowerRest, Except.map, dropWhile_isSpace_lowerSource]
    · simp [hn, lowerRest, Except.map]

theorem closingBrace_cases (cs : List Char) : (∃ rest, cs = '}' :: rest ∧
      lowerSource false cs = '}' :: lowerSource false rest) ∨
    (∀ rest, cs ≠ '}' :: rest) ∧ ∀ rest, lowerSource false cs ≠ '}' :: rest := by
  cases cs with
  | nil => exact .inr ⟨nofun, nofun⟩
  | cons c cs =>
    by_cases hc : c = '}'
    · subst hc
      exact .inl ⟨cs, rfl, lowerSource_mark (by decide) (by decide) cs⟩
    · have hlowered : lowered c ≠ '}' := mt (lowered_eq_mark_iff (by decide)).mp hc
      refine .inr ⟨fun rest h => hc (List.cons.inj h).1, fun rest h => ?_⟩
      exact hlowered (List.cons.inj h).1

theorem repeatEnd_lowerSource (min max : Nat) (cs : List Char) :
    repeatEnd min max (lowerSource false cs) = lowerRest (repeatEnd min max cs) := by
  rcases closingBrace_cases cs with ⟨rest, rfl, hlowered⟩ | ⟨hcs, hlowered⟩
  · rw [hlowered]
    by_cases hle : min ≤ max <;> simp [repeatEnd, hle, lowerRest, Except.map]
  · have hnone : ∀ {cs : List Char}, (∀ rest, cs ≠ '}' :: rest) →
        repeatEnd min max cs = .error .repetition := by
      intro cs hcs
      unfold repeatEnd
      split
      · exact absurd rfl (hcs _)
      · rfl
    rw [hnone hcs, hnone hlowered]
    rfl

theorem repeatMax_of_ne {f : Flags} {cs : List Char} (h : ∀ rest, f.skip cs ≠ '}' :: rest)
    (min : Nat) :
    repeatMax f min cs = repeatCount f (f.skip cs) >>= fun q => repeatEnd min q.1 q.2 := by
  unfold repeatMax
  split
  · rename_i rest hskip
    exact absurd hskip (h rest)
  · rfl

theorem repeatMax_lowerSource (f : Flags) (min : Nat) (cs : List Char) :
    repeatMax f min (lowerSource false cs) = lowerRest (repeatMax f min cs) := by
  rcases closingBrace_cases (f.skip cs) with ⟨rest, hskip, hlowered⟩ | ⟨hskip, hlowered⟩
  · rw [repeatMax, repeatMax, f.skip_lowerSource, hlowered, hskip]
    rfl
  · rw [repeatMax_of_ne hskip, repeatMax_of_ne (by rwa [f.skip_lowerSource]), f.skip_lowerSource,
      repeatCount_lowerSource]
    cases repeatCount f (f.skip cs) with
    | error e => rfl
    | ok q => exact repeatEnd_lowerSource min q.1 q.2

theorem repeatRest_lowerSource (f : Flags) (min : Nat) (cs : List Char) :
    repeatRest f min (lowerSource false cs) = lowerRest (repeatRest f min cs) := by
  rcases closingBrace_cases cs with ⟨rest, rfl, hlowered⟩ | ⟨hcs, hlowered⟩
  · rw [hlowered]
    rfl
  · cases cs with
    | nil => rfl
    | cons c cs =>
      have hclose : c ≠ '}' := fun h => hcs cs (by rw [h])
      have hclose' : lowered c ≠ '}' := mt (lowered_eq_mark_iff (by decide)).mp hclose
      by_cases hcomma : c = ','
      · subst hcomma
        rw [lowerSource_mark (by decide) (by decide)]
        exact repeatMax_lowerSource f min cs
      · have hcomma' : lowered c ≠ ',' := mt (lowered_eq_mark_iff (by decide)).mp hcomma
        simp [lowerSource_cons, repeatRest, hclose', hcomma, hcomma', lowerRest, Except.map]

theorem repeatBounds_lowerSource (f : Flags) (cs : List Char) :
    repeatBounds f (lowerSource false cs) = lowerRest (repeatBounds f cs) := by
  simp only [repeatBounds, f.skip_lowerSource, repeatCount_lowerSource]
  cases repeatCount f (f.skip cs) with
  | error e => rfl
  | ok q => exact repeatRest_lowerSource f q.1 q.2

/-! ## Pieces -/

/-- The second piece covers the first one in lower case and is nested no deeper. Its size may be
another one, as characters may need more bytes in lower case. -/
structure Piece.Widens (p p' : Piece) : Prop where
  regex : Regex.Widens p.regex p'.regex
  depth : p'.depth ≤ p.depth

theorem literalPiece_widens (f : Flags) (c : Char) :
    (literalPiece f c).Widens (literalPiece f (lowered c)) := by
  unfold literalPiece
  cases hunicode : f.unicode with
  | true =>
    simp only [if_true, caseOrbit_lowered]
    split
    · exact ⟨.char (CharSet.covers_folded_single c), Nat.le_refl _⟩
    · exact ⟨.char (CharSet.covers_single c), Nat.le_refl _⟩
  | false =>
    -- a letter that is no ASCII letter may become one, so the two need not both be folded
    have hlowered : ∀ d : Char, (CharSet.asciiFolded (.single c)).contains d.toNat = true →
        lowered d = lowered c := fun d hd =>
      (lowered_eq_of_mem_asciiOrbit (CharSet.asciiFolded_single_contains.mp hd)).symm
    have hfolded : (CharSet.asciiFolded (.single (lowered c))).contains (lowered c).toNat = true :=
      CharSet.asciiFolded_single_contains.mpr (self_mem_asciiOrbit _)
    have hsingle : (CharSet.single (lowered c)).contains (lowered c).toNat = true :=
      CharSet.single_contains.mpr rfl
    simp only [Bool.false_eq_true, if_false]
    split <;> split
    · exact ⟨.char fun d hd => hlowered d hd ▸ hfolded, Nat.le_refl _⟩
    · exact ⟨.char fun d hd => hlowered d hd ▸ hsingle, Nat.le_refl _⟩
    · exact ⟨.char fun d hd => CharSet.single_contains.mp hd ▸ hfolded, Nat.le_refl _⟩
    · exact ⟨.char (CharSet.covers_single c), Nat.le_refl _⟩

theorem Piece.Widens.rep {p p' : Piece} (h : p.Widens p') (min : Nat) (max : Option Nat) :
    (p.rep min max).Widens (p'.rep min max) where
  regex := .rep h.regex min max
  depth := Nat.succ_le_succ h.depth

theorem Piece.Widens.grouped {p p' : Piece} (h : p.Widens p') (captures : Bool) :
    (p.grouped captures).Widens (p'.grouped captures) :=
  ⟨h.regex, Nat.succ_le_succ h.depth⟩

theorem sequencePiece_widens {items items' : List (Option Piece)}
    (h : List.Forall₂ (Option.Rel Piece.Widens) items items') :
    (sequencePiece items).Widens (sequencePiece items') := by
  have hempty : Piece.Widens ⟨.empty, 1, .states 0⟩ ⟨.empty, 1, .states 0⟩ := ⟨.empty, Nat.le_refl _⟩
  rcases h with - | ⟨hitem, - | ⟨hnext, hrest⟩⟩
  · exact ⟨.empty, Nat.le_refl _⟩
  · cases hitem with
    | none => exact ⟨.empty, Nat.le_refl _⟩
    | some hp => exact hp
  · have hfold := List.Forall₂.cons hitem (.cons hnext hrest)
    cases hitem <;>
    · refine List.rel_foldl (fun after after' hafter item item' hitem => ?_) hempty hfold
      cases hitem with
      | none => exact hafter
      | some hp =>
        exact ⟨.cat hp.regex hafter.regex, max_le_max (Nat.succ_le_succ hp.depth) hafter.depth⟩

theorem choicePiece_widens {last last' : Piece} (hlast : last.Widens last')
    {branches branches' : List Piece} (h : List.Forall₂ Piece.Widens branches branches') :
    (choicePiece last branches).Widens (choicePiece last' branches') := by
  cases h with
  | nil => exact hlast
  | cons hp hrest =>
    refine List.rel_foldl (fun after after' hafter p p' hp => ?_)
      ⟨hlast.regex, Nat.succ_le_succ hlast.depth⟩ (.cons hp hrest)
    exact ⟨.alt hp.regex hafter.regex, max_le_max (Nat.succ_le_succ hp.depth) hafter.depth⟩

end Regex
end RequestMatching
