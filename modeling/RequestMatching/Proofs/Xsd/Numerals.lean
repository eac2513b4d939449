import RequestMatching.Proofs.Number.Placement
import RequestMatching.Proofs.Text.Splitting
import RequestMatching.Proofs.Xsd.Integers

/-!
# Numbers in their written form

A written number has a sign, digits with at most one point among them and an exponent, of which only the
digits are needed; the infinities are words. A text that is read as a floating point number is one of
these or the word for what is no number, and it is read as the double nearest to the number it denotes.
-/

namespace RequestMatching

namespace Xsd

inductive IsFraction : List Char → List Char → Prop
  | absent : IsFraction [] []
  | pointed (fs : List Char) : IsFraction ('.' :: fs) fs

inductive IsExponent : List Char → ℤ → Prop
  | absent : IsExponent [] 0
  | written {c : Char} {cs : List Char} {e : ℤ} (hc : c = 'e' ∨ c = 'E') (h : Spells cs e) :
      IsExponent (c :: cs) e

/-- A text without a sign is the written form of a number: its digits, counted in a power of ten. -/
inductive Numeral : List Char → Nat → ℤ → Prop
  | mk {ds point fs es : List Char} {e : ℤ} (hpoint : IsFraction point fs)
      (hdigits : AreDigits (ds ++ fs)) (he : IsExponent es e) :
      Numeral (ds ++ (point ++ es)) (denoted (ds ++ fs)) (e - fs.length)

/-- The number that a text denotes. -/
inductive Denotes : List Char → ExtendedRat → Prop
  | infinity : Denotes "INF".toList ⊤
  | negInfinity : Denotes "-INF".toList ⊥
  | unsigned {cs : List Char} {n : Nat} {e : ℤ} (h : Numeral cs n e) :
      Denotes cs (.ofRat (n * 10 ^ e))
  | plus {cs : List Char} {n : Nat} {e : ℤ} (h : Numeral cs n e) :
      Denotes ('+' :: cs) (.ofRat (n * 10 ^ e))
  | minus {cs : List Char} {n : Nat} {e : ℤ} (h : Numeral cs n e) :
      Denotes ('-' :: cs) (.ofRat (-(n * 10 ^ e)))

/-! ## Exponents -/

theorem exponent?_eq_some_iff {cs : List Char} {e : ℤ} :
    Binary64.exponent? cs = some e ↔ IsExponent cs e := by
  cases cs with
  | nil =>
    constructor
    · intro h
      cases h
      exact .absent
    · intro h
      cases h
      rfl
  | cons c cs =>
    have hiff : Binary64.exponent? (c :: cs) = some e ↔ (c = 'e' ∨ c = 'E') ∧ Spells cs e := by
      by_cases hc : c = 'e' ∨ c = 'E'
      · have hletter : (decide (c = 'e') || decide (c = 'E')) = true := by simpa using hc
        unfold Binary64.exponent?
        dsimp only
        rw [and_iff_right hc, if_pos hletter]
        split
        · rw [map_natural?_eq_some_iff, spells_plus_iff]; rfl
        · rw [map_natural?_eq_some_iff, spells_minus_iff]; rfl
        · rename_i hplus hminus
          rw [map_natural?_eq_some_iff, spells_iff hplus hminus]; rfl
      · simp [Binary64.exponent?, hc]
    rw [hiff]
    constructor
    · intro h
      exact .written h.1 h.2
    · intro h
      cases h with
      | written hc h => exact ⟨hc, h⟩

/-! ## Letters -/

def HasOnlyExponentLetters (cs : List Char) : Prop :=
  ∀ c ∈ cs, c.isAlpha = true → c = 'e' ∨ c = 'E'

theorem isAlpha_iff (c : Char) :
    c.isAlpha = true ↔ ('A' ≤ c ∧ c ≤ 'Z') ∨ ('a' ≤ c ∧ c ≤ 'z') :=
  Bool.or_eq_true_iff.trans (or_congr decide_eq_true_iff
    (Bool.and_eq_true_iff.trans (and_congr decide_eq_true_iff decide_eq_true_iff)))

theorem AreDigits.not_isAlpha {ds : List Char} (h : AreDigits ds) {c : Char} (hc : c ∈ ds) :
    ¬ c.isAlpha = true := by
  intro halpha
  have hnine : c ≤ '9' := (h.2 c hc).2
  rcases (isAlpha_iff c).mp halpha with hupper | hlower
  · exact absurd (Char.le_trans hupper.1 hnine) (by decide)
  · exact absurd (Char.le_trans hlower.1 hnine) (by decide)

theorem AreDigits.letters {ds : List Char} (h : AreDigits ds) : HasOnlyExponentLetters ds := by
  intro c hc hletter
  exact absurd hletter (h.not_isAlpha hc)

theorem HasOnlyExponentLetters.cons {c : Char} {cs : List Char}
    (hc : c.isAlpha = true → c = 'e' ∨ c = 'E') (h : HasOnlyExponentLetters cs) :
    HasOnlyExponentLetters (c :: cs) :=
  List.forall_mem_cons.mpr ⟨hc, h⟩

theorem Spells.letters {cs : List Char} {i : ℤ} (h : Spells cs i) : HasOnlyExponentLetters cs := by
  cases h with
  | unsigned h => exact h.letters
  | plus h => exact h.letters.cons (by decide)
  | minus h => exact h.letters.cons (by decide)

theorem Numeral.letters {cs : List Char} {n : Nat} {e : ℤ} (h : Numeral cs n e) :
    HasOnlyExponentLetters cs := by
  cases h with
  | mk hpoint hdigits he =>
    have hall := List.forall_mem_append.mp hdigits.letters
    apply List.forall_mem_append.mpr ⟨hall.1, List.forall_mem_append.mpr ⟨?_, ?_⟩⟩
    · cases hpoint with
      | absent => exact hall.2
      | pointed => exact HasOnlyExponentLetters.cons (by decide) hall.2
    · cases he with
      | absent => intro c hc; cases hc
      | written hc h => exact h.letters.cons fun _ => hc

theorem isAlpha_of_toLower {c w : Char} (h : c.toLower = w) (hw : w = 'i' ∨ w = 'n') :
    c.isAlpha = true ∧ ¬ (c = 'e' ∨ c = 'E') := by
  constructor
  · unfold Char.toLower at h
    split at h
    · rename_i hupper
      exact (isAlpha_iff c).mpr (.inl hupper)
    · rcases hw with rfl | rfl
      · subst h; decide
      · subst h; decide
  · rintro (rfl | rfl)
    · rcases hw with rfl | rfl <;> cases h
    · rcases hw with rfl | rfl <;> cases h

theorem any_letter_iff (cs : List Char) :
    (cs.any fun c => c.isAlpha && c ≠ 'e' && c ≠ 'E') = false ↔ HasOnlyExponentLetters cs := by
  simp [HasOnlyExponentLetters, or_iff_not_imp_left]

theorem HasOnlyExponentLetters.map_toLower_ne {cs word : List Char} (h : HasOnlyExponentLetters cs)
    (hword : word.head? = some 'i' ∨ word.head? = some 'n') : cs.map Char.toLower ≠ word := by
  rintro rfl
  cases cs with
  | nil => simp at hword
  | cons c cs =>
    have hc : c.toLower = 'i' ∨ c.toLower = 'n' := by simpa using hword
    obtain ⟨hletter, hne⟩ := isAlpha_of_toLower rfl hc
    exact hne (h c (List.mem_cons_self ..) hletter)

/-! ## Reading -/

def fractionOf : List Char → List Char × List Char
  | '.' :: cs => (cs.takeWhile Char.isDigit, cs.dropWhile Char.isDigit)
  | cs => ([], cs)

theorem unsigned?_eq {cs : List Char} (h : HasOnlyExponentLetters cs) (s : Bool) :
    Binary64.unsigned? s cs =
      let whole := cs.takeWhile Char.isDigit
      let (fraction, rest) := fractionOf (cs.dropWhile Char.isDigit)
      if whole.isEmpty && fraction.isEmpty then none
      else (Binary64.exponent? rest).map fun e =>
        .ofDecimal s (Digits.value (whole ++ fraction)) (e - fraction.length) := by
  have hinf : cs.map Char.toLower ≠ "inf".toList := h.map_toLower_ne (.inl rfl)
  have hinfinity : cs.map Char.toLower ≠ "infinity".toList := h.map_toLower_ne (.inl rfl)
  have hnan : cs.map Char.toLower ≠ "nan".toList := h.map_toLower_ne (.inr rfl)
  unfold Binary64.unsigned?
  dsimp only
  rw [decide_eq_false hinf, decide_eq_false hinfinity, if_neg hnan]
  rfl

theorem fractionOf_cases (cs : List Char) :
    ∃ point, IsFraction point (fractionOf cs).1 ∧ cs = point ++ (fractionOf cs).2 ∧
      ∀ c ∈ (fractionOf cs).1, c.isDigit = true := by
  unfold fractionOf
  split
  · refine ⟨_, .pointed _, ?_, List.all_eq_true.mp List.all_takeWhile⟩
    rw [List.cons_append, List.takeWhile_append_dropWhile]
  · exact ⟨[], .absent, rfl, by simp⟩

theorem exists_numeral {cs : List Char} {s : Bool} {d : Binary64} (hletters : HasOnlyExponentLetters cs)
    (h : Binary64.unsigned? s cs = some d) : ∃ n e, Numeral cs n e := by
  rw [unsigned?_eq hletters] at h
  obtain ⟨point, hpoint, hrest, hfraction⟩ := fractionOf_cases (cs.dropWhile Char.isDigit)
  dsimp only at h
  split at h
  · cases h
  rename_i hempty
  obtain ⟨e, he, -⟩ := Option.map_eq_some_iff.mp h
  have hdigits : AreDigits (cs.takeWhile Char.isDigit ++ (fractionOf (cs.dropWhile Char.isDigit)).1) := by
    apply (areDigits_iff _).mp
    rw [List.all_append, List.all_takeWhile, List.all_eq_true.mpr hfraction]
    simpa using hempty
  have hnumeral := Numeral.mk hpoint hdigits (exponent?_eq_some_iff.mp he)
  rw [← hrest, List.takeWhile_append_dropWhile] at hnumeral
  exact ⟨_, _, hnumeral⟩

theorem IsExponent.spans {es : List Char} {e : ℤ} (h : IsExponent es e) :
    es.takeWhile Char.isDigit = [] ∧ es.dropWhile Char.isDigit = es := by
  cases h with
  | absent => exact ⟨rfl, rfl⟩
  | written hc h => rcases hc with rfl | rfl <;> exact ⟨rfl, rfl⟩

theorem spans_after {point fs es : List Char} {e : ℤ} (hpoint : IsFraction point fs)
    (he : IsExponent es e) : (point ++ es).takeWhile Char.isDigit = [] ∧
      (point ++ es).dropWhile Char.isDigit = point ++ es := by
  cases hpoint with
  | absent => exact he.spans
  | pointed => exact ⟨rfl, rfl⟩

theorem fractionOf_append {point fs es : List Char} {e : ℤ} (hpoint : IsFraction point fs)
    (hfs : ∀ c ∈ fs, c.isDigit = true) (he : IsExponent es e) : fractionOf (point ++ es) = (fs, es) := by
  cases hpoint with
  | absent =>
    cases he with
    | absent => rfl
    | written hc h => rcases hc with rfl | rfl <;> rfl
  | pointed =>
    have htake : (fs ++ es).takeWhile Char.isDigit = fs := by
      rw [List.takeWhile_append_of_pos hfs, he.spans.1, List.append_nil]
    have hdrop : (fs ++ es).dropWhile Char.isDigit = es := by
      rw [List.dropWhile_append_of_pos hfs, he.spans.2]
    rw [List.cons_append, fractionOf, htake, hdrop]

theorem unsigned?_of_numeral {cs : List Char} {n : Nat} {e : ℤ} (h : Numeral cs n e) (s : Bool) :
    Binary64.unsigned? s cs = some (.ofDecimal s n e) := by
  rw [unsigned?_eq h.letters]
  cases h with
  | @mk ds point fs es e hpoint hdigits he =>
    have hall : ∀ c ∈ ds ++ fs, c.isDigit = true := fun c hc => (isDigit_iff c).mpr (hdigits.2 c hc)
    obtain ⟨hds, hfs⟩ := List.forall_mem_append.mp hall
    have hafter := spans_after hpoint he
    have hwhole : (ds ++ (point ++ es)).takeWhile Char.isDigit = ds := by
      rw [List.takeWhile_append_of_pos hds, hafter.1, List.append_nil]
    have hrest : (ds ++ (point ++ es)).dropWhile Char.isDigit = point ++ es := by
      rw [List.dropWhile_append_of_pos hds, hafter.2]
    have hempty : (ds.isEmpty && fs.isEmpty) = false := by
      have := hdigits.1
      cases ds <;> simp_all
    dsimp only
    rw [hwhole, hrest, fractionOf_append hpoint hfs he, exponent?_eq_some_iff.mpr he,
      value_eq_denoted]
    dsimp only
    rw [hempty]
    rfl

theorem Numeral.unsigned {c : Char} {cs : List Char} {n : Nat} {e : ℤ} (h : Numeral (c :: cs) n e) :
    c ≠ '+' ∧ c ≠ '-' := by
  generalize hall : c :: cs = all at h
  cases h with
  | @mk ds point fs es e hpoint hdigits he =>
    cases ds with
    | nil =>
      cases hpoint with
      | absent => exact absurd rfl hdigits.1
      | pointed =>
        cases hall
        decide
    | cons d ds =>
      cases hall
      exact hdigits.head

theorem ofChars?_of_numeral {cs : List Char} {n : Nat} {e : ℤ} (h : Numeral cs n e) :
    Binary64.ofChars? cs = some (.ofDecimal false n e) := by
  rw [← unsigned?_of_numeral h]
  unfold Binary64.ofChars?
  split
  · exact absurd rfl h.unsigned.1
  · exact absurd rfl h.unsigned.2
  · rfl

theorem floatOf?_eq {cs : List Char} (h : HasOnlyExponentLetters cs) :
    floatOf? cs = Binary64.ofChars? cs := by
  have hword {word : List Char} (hletter : ∃ c ∈ word, c.isAlpha = true ∧ ¬ (c = 'e' ∨ c = 'E')) :
      cs ≠ word := by
    rintro rfl
    obtain ⟨c, hc, halpha, hne⟩ := hletter
    exact hne (h c hc halpha)
  have hinf : cs ≠ "INF".toList := hword ⟨'I', by decide, by decide⟩
  have hneg : cs ≠ "-INF".toList := hword ⟨'I', by decide, by decide⟩
  have hnan : cs ≠ "NaN".toList := hword ⟨'N', by decide, by decide⟩
  unfold floatOf?
  rw [if_neg hinf, if_neg hneg, if_neg hnan, (any_letter_iff cs).mpr h]
  rfl

/-- A number is read as the double nearest to it. -/
theorem floatOf?_of_denotes {cs : List Char} {x : ExtendedRat} (h : Denotes cs x) :
    ∃ d, floatOf? cs = some d ∧ d.StandsAt (Binary64.place x) := by
  cases h with
  | infinity => exact ⟨.infinite false, rfl, .infinite false⟩
  | negInfinity => exact ⟨.infinite true, rfl, .infinite true⟩
  | @unsigned cs n e h =>
    refine ⟨_, ?_, Binary64.ofDecimal_standsAt false n e⟩
    rw [floatOf?_eq h.letters]
    exact ofChars?_of_numeral h
  | @plus cs n e h =>
    refine ⟨_, ?_, Binary64.ofDecimal_standsAt false n e⟩
    rw [floatOf?_eq (h.letters.cons (by decide))]
    exact unsigned?_of_numeral h false
  | @minus cs n e h =>
    refine ⟨_, ?_, Binary64.ofDecimal_standsAt true n e⟩
    rw [floatOf?_eq (h.letters.cons (by decide))]
    exact unsigned?_of_numeral h true

theorem exists_denotes {cs : List Char} {d : Binary64} (h : floatOf? cs = some d)
    (hnan : cs ≠ "NaN".toList) : ∃ x, Denotes cs x := by
  unfold floatOf? at h
  split at h
  · rename_i hinf
    exact ⟨⊤, hinf ▸ .infinity⟩
  split at h
  · rename_i hneg
    exact ⟨⊥, hneg ▸ .negInfinity⟩
  split at h
  · cases h
  rename_i hany
  have hletters := (any_letter_iff cs).mp (Bool.eq_false_iff.mpr hany)
  unfold Binary64.ofChars? at h
  split at h
  · obtain ⟨n, e, hnumeral⟩ := exists_numeral (List.forall_mem_cons.mp hletters).2 h
    exact ⟨_, .plus hnumeral⟩
  · obtain ⟨n, e, hnumeral⟩ := exists_numeral (List.forall_mem_cons.mp hletters).2 h
    exact ⟨_, .minus hnumeral⟩
  · obtain ⟨n, e, hnumeral⟩ := exists_numeral hletters h
    exact ⟨_, .unsigned hnumeral⟩

/-! ## Texts of numeric types -/

theorem AreDigits.numeral {ds : List Char} (h : AreDigits ds) : Numeral ds (denoted ds) 0 := by
  have hdigits : AreDigits (ds ++ []) := by rwa [List.append_nil]
  simpa using Numeral.mk .absent hdigits .absent

theorem Spells.denotes {cs : List Char} {i : ℤ} (h : Spells cs i) : Denotes cs (.ofRat i) := by
  cases h with
  | unsigned h => simpa using Denotes.unsigned h.numeral
  | plus h => simpa using Denotes.plus h.numeral
  | minus h => simpa using Denotes.minus h.numeral

theorem areDigits_append {ds fs : List Char} (h : ((!ds.isEmpty || !fs.isEmpty) && ds.all Char.isDigit &&
    fs.all Char.isDigit) = true) : AreDigits (ds ++ fs) := by
  rw [← areDigits_iff, List.all_append, ← Bool.and_assoc]
  cases ds <;> simpa using h

theorem exists_numeral_of_parts {cs : List Char}
    (h : let parts := (Text.cutChars '.' cs).getD (cs, [])
      AreDigits (parts.1 ++ parts.2)) : ∃ n e, Numeral cs n e := by
  cases hparts : Text.cutChars '.' cs with
  | none =>
    rw [hparts] at h
    dsimp only [Option.getD_none] at h
    rw [List.append_nil] at h
    exact ⟨_, _, h.numeral⟩
  | some parts =>
    rw [hparts] at h
    have hdigits : AreDigits (parts.1 ++ parts.2) := h
    have hnumeral := Numeral.mk (.pointed parts.2) hdigits .absent
    rw [List.append_nil, ← Text.eq_of_cutChars hparts] at hnumeral
    exact ⟨_, _, hnumeral⟩

theorem exists_denotes_of_isDecimal {cs : List Char} (h : isDecimal cs = true) :
    ∃ x, Denotes cs x := by
  unfold isDecimal at h
  dsimp only at h
  split at h
  · obtain ⟨n, e, hnumeral⟩ := exists_numeral_of_parts (areDigits_append h)
    exact ⟨_, .plus hnumeral⟩
  · obtain ⟨n, e, hnumeral⟩ := exists_numeral_of_parts (areDigits_append h)
    exact ⟨_, .minus hnumeral⟩
  · obtain ⟨n, e, hnumeral⟩ := exists_numeral_of_parts (areDigits_append h)
    exact ⟨_, .unsigned hnumeral⟩

theorem exists_denotes_of_isInteger {cs : List Char} {inRange : ℤ → Bool} (h : isInteger cs inRange = true)
    (hsigns : ¬ HasPlusBeforeSign cs) : ∃ x, Denotes cs x := by
  obtain ⟨i, hi, -⟩ := (Option.any_eq_true ..).mp h
  exact ⟨_, ((integerOf?_eq_some_iff hsigns).mp hi).1.denotes⟩

/-- What a numeric type accepts denotes a number, apart from what is no number and from signs that
follow a plus sign. -/
theorem exists_denotes_of_check {type : BuiltIn} {cs : List Char} (htype : type.isNumeric = true)
    (h : type.check cs = true) (hnan : cs ≠ "NaN".toList) (hsigns : ¬ HasPlusBeforeSign cs) :
    ∃ x, Denotes cs x := by
  have hfloat (h : (floatOf? cs).isSome = true) : ∃ x, Denotes cs x := by
    obtain ⟨d, hd⟩ := Option.isSome_iff_exists.mp h
    exact exists_denotes hd hnan
  cases type with
  | int | integer | long | short | positiveInteger | nonNegativeInteger =>
    exact exists_denotes_of_isInteger h hsigns
  | decimal => exact exists_denotes_of_isDecimal h
  | double | float => exact hfloat h
  | string | boolean | date | dateTime | anyUri => cases htype

end Xsd
end RequestMatching
