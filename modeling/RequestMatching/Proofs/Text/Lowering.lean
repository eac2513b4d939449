import Mathlib.Tactic.IntervalCases
import RequestMatching.Regex.CharSet
import RequestMatching.Text.Blank
import RequestMatching.Text.Lowercase

/-!
# Lower case, character by character

Nearly every character has one character as its lower-case form. Characters that are nobody's
lower-case form and have none themselves, such as digits, white space and punctuation, are found in
a lowered text where they were before. The lower-case form of a character has the same case folding.
-/

namespace RequestMatching

/-! ## Runs -/

deriving instance DecidableEq for CaseRun

namespace CaseRun

theorem shifted_cases (runs : List CaseRun) (n : Nat) :
    (∃ r ∈ runs, r.covers n = true ∧ shifted runs n = ((n : Int) + r.shift).toNat) ∨
      ((∀ r ∈ runs, r.covers n = false) ∧ shifted runs n = n) := by
  cases hfind : runs.find? (·.covers n) with
  | none =>
    refine .inr ⟨fun r hr => ?_, by simp [shifted, hfind]⟩
    simpa using List.find?_eq_none.mp hfind r hr
  | some r =>
    exact .inl ⟨r, List.mem_of_find?_eq_some hfind, by simpa using List.find?_some hfind,
      by simp [shifted, hfind]⟩

theorem shifted_of_not_covers {runs : List CaseRun} {n : Nat} (h : ∀ r ∈ runs, r.covers n = false) :
    shifted runs n = n := by
  rcases shifted_cases runs n with ⟨r, hr, hcovers, -⟩ | ⟨-, hstays⟩
  · rw [h r hr] at hcovers
    cases hcovers
  · exact hstays

theorem covers_bounds {r : CaseRun} {n : Nat} (h : r.covers n = true) :
    r.first ≤ n ∧ n ≤ r.last ∧ (n - r.first) % r.step = 0 := by
  simpa [covers, and_assoc] using h

/-- No run leads below the first character. -/
def StaysPositive (runs : List CaseRun) : Prop :=
  ∀ r ∈ runs, 0 < r.first ∧ 0 ≤ (r.first : Int) + r.shift

theorem staysPositive_lowercase : StaysPositive lowercase := by
  unfold StaysPositive; decide +kernel

theorem staysPositive_folding : StaysPositive folding := by
  unfold StaysPositive; decide +kernel

theorem mem_sources {runs : List CaseRun} {n m : Nat} : n ∈ sources runs m ↔
    ∃ r ∈ runs, r.covers n = true ∧ n = ((m : Int) - r.shift).toNat := by
  simp only [sources, List.mem_filterMap]
  constructor
  · rintro ⟨r, hr, h⟩
    split at h
    · cases h; exact ⟨r, hr, ‹_›, rfl⟩
    · cases h
  · rintro ⟨r, hr, hcovers, rfl⟩
    exact ⟨r, hr, by rw [if_pos hcovers]⟩

theorem eq_or_mem_sources {runs : List CaseRun} (hruns : StaysPositive runs) {n m : Nat}
    (h : shifted runs n = m) : n = m ∨ n ∈ sources runs m := by
  rcases shifted_cases runs n with ⟨r, hr, hcovers, hshift⟩ | ⟨-, hstays⟩
  · refine .inr (mem_sources.mpr ⟨r, hr, hcovers, ?_⟩)
    have hpositive := (hruns r hr).2
    have hbounds := covers_bounds hcovers
    omega
  · exact .inl (hstays.symm.trans h)

/-! ## Runs without a member in common -/

/-- Whether two runs can be seen to have no member in common: by their ranges, because one of them is a
single character, or because one takes the even places and the other the odd ones. -/
def apart (a b : CaseRun) : Bool :=
  Nat.blt a.last b.first || Nat.blt b.last a.first || (a.first == a.last && !b.covers a.first) ||
    (a.step == 2 && b.step == 2 && (a.first + b.first) % 2 == 1)

theorem not_covers_of_apart {a b : CaseRun} (h : apart a b = true) {n : Nat} (ha : a.covers n = true) :
    b.covers n = false := by
  refine Bool.eq_false_iff.mpr fun hb => ?_
  have hbounds := covers_bounds ha
  have hbounds' := covers_bounds hb
  simp only [apart, Bool.or_eq_true, Nat.blt_eq, Bool.and_eq_true, beq_iff_eq, Bool.not_eq_true'] at h
  rcases h with ((hbefore | hafter) | ⟨hsingle, hnone⟩) | ⟨⟨hstep, hstep'⟩, hodd⟩
  · omega
  · omega
  · obtain rfl : n = a.first := by omega
    rw [hb] at hnone
    cases hnone
  · rw [hstep] at hbounds
    rw [hstep'] at hbounds'
    omega

/-- The run of what the members of a run are shifted to, back to them. -/
def reversed (r : CaseRun) : CaseRun :=
  ⟨((r.first : Int) + r.shift).toNat, ((r.last : Int) + r.shift).toNat, r.step, -r.shift⟩

theorem reversed_covers {r : CaseRun} (hr : 0 ≤ (r.first : Int) + r.shift) {n : Nat}
    (h : r.covers n = true) : r.reversed.covers ((n : Int) + r.shift).toNat = true := by
  obtain ⟨hfirst, hlast, hstep⟩ := covers_bounds h
  have hdistance : ((n : Int) + r.shift).toNat - ((r.first : Int) + r.shift).toNat = n - r.first := by
    omega
  simp [covers, reversed, hdistance, hstep]
  omega

/-! ## Case folding -/

theorem folding_pairwise_apart : folding.Pairwise fun a b => apart a b = true := by
  decide +kernel

theorem folding_reversed_apart : ∀ a ∈ folding, ∀ b ∈ folding, apart a.reversed b = true := by
  have hall : (folding.all fun a => folding.all (apart a.reversed)) = true := by decide +kernel
  simpa only [List.all_eq_true] using hall

/-- The runs of the lower case are runs of the folding, but for letters that are folded the other way
round. -/
theorem lowercase_run_cases : ∀ r ∈ lowercase, r ∈ folding ∨
    (∀ f ∈ folding, apart r f = true) ∧ r.reversed ∈ folding := by
  decide +kernel

theorem covers_unique {runs : List CaseRun} (hruns : runs.Pairwise fun a b => apart a b = true)
    {r s : CaseRun} (hr : r ∈ runs) (hs : s ∈ runs) {n : Nat} (hrn : r.covers n = true)
    (hsn : s.covers n = true) : r = s := by
  induction runs with
  | nil => cases hr
  | cons a runs ih =>
    obtain ⟨ha, hruns⟩ := List.pairwise_cons.mp hruns
    have hother : ∀ b ∈ runs, a.covers n = true → b.covers n = false :=
      fun b hb => not_covers_of_apart (ha b hb)
    rcases List.mem_cons.mp hr with rfl | hr'
    · rcases List.mem_cons.mp hs with rfl | hs'
      · rfl
      · exact absurd hsn (by simp [hother s hs' hrn])
    · rcases List.mem_cons.mp hs with rfl | hs'
      · exact absurd hrn (by simp [hother r hr' hsn])
      · exact ih hruns hr' hs'

theorem folding_eq_of_covers {r : CaseRun} (hr : r ∈ folding) {n : Nat} (h : r.covers n = true) :
    shifted folding n = ((n : Int) + r.shift).toNat := by
  rcases shifted_cases folding n with ⟨s, hs, hcovers, hshift⟩ | ⟨hnone, -⟩
  · rw [hshift, covers_unique folding_pairwise_apart hr hs h hcovers]
  · rw [hnone r hr] at h
    cases h

theorem folding_folding (n : Nat) : shifted folding (shifted folding n) = shifted folding n := by
  rcases shifted_cases folding n with ⟨r, hr, hcovers, hshift⟩ | ⟨-, hstays⟩
  · rw [hshift]
    refine shifted_of_not_covers fun s hs => ?_
    exact not_covers_of_apart (folding_reversed_apart r hr s hs)
      (reversed_covers (staysPositive_folding r hr).2 hcovers)
  · rw [hstays, hstays]

theorem folding_lowercase (n : Nat) : shifted folding (shifted lowercase n) = shifted folding n := by
  rcases shifted_cases lowercase n with ⟨r, hr, hcovers, hshift⟩ | ⟨-, hstays⟩
  · rw [hshift]
    have hpositive := (staysPositive_lowercase r hr).2
    have hbounds := covers_bounds hcovers
    rcases lowercase_run_cases r hr with hfolding | ⟨hapart, hback⟩
    · rw [← folding_eq_of_covers hfolding hcovers, folding_folding]
    · rw [shifted_of_not_covers fun f hf => not_covers_of_apart (hapart f hf) hcovers,
        folding_eq_of_covers hback (reversed_covers hpositive hcovers)]
      simp only [reversed]
      omega
  · rw [hstays]

end CaseRun

/-- The orbit of a character holds the characters that are folded to the same one. -/
theorem Regex.mem_caseOrbit {m n : Nat} : m ∈ caseOrbit n ↔
    CaseRun.shifted CaseRun.folding m = CaseRun.shifted CaseRun.folding n := by
  simp only [caseOrbit, List.mem_cons]
  constructor
  · rintro (rfl | hm)
    · exact CaseRun.folding_folding n
    · obtain ⟨r, hr, hcovers, hback⟩ := CaseRun.mem_sources.mp hm
      have hbounds := CaseRun.covers_bounds hcovers
      have hpositive := (CaseRun.staysPositive_folding r hr).1
      rw [CaseRun.folding_eq_of_covers hr hcovers]
      omega
  · exact fun h => CaseRun.eq_or_mem_sources CaseRun.staysPositive_folding h

/-! ## One character -/

/-- The lower-case form of a character, where it is one character. -/
def lowered (c : Char) : Char :=
  Char.ofNat (CaseRun.shifted CaseRun.lowercase c.toNat)

theorem lowerChar_eq {c : Char} (h : c ≠ '\u0130') : lowerChar c = [lowered c] :=
  if_neg h

theorem lowercase_isValidChar : ∀ r ∈ CaseRun.lowercase, (r.last : Int) + r.shift < 0xD800 ∨
    0xDFFF < (r.first : Int) + r.shift ∧ (r.last : Int) + r.shift < 0x110000 := by
  decide +kernel

theorem lowered_toNat (c : Char) : (lowered c).toNat = CaseRun.shifted CaseRun.lowercase c.toNat := by
  have hvalid : (CaseRun.shifted CaseRun.lowercase c.toNat).isValidChar := by
    rcases CaseRun.shifted_cases CaseRun.lowercase c.toNat with ⟨r, hr, hcovers, hshift⟩ | ⟨-, hstays⟩
    · have hrange := lowercase_isValidChar r hr
      have hpositive := (CaseRun.staysPositive_lowercase r hr).2
      have hbounds := CaseRun.covers_bounds hcovers
      rw [hshift]
      unfold Nat.isValidChar
      omega
    · rw [hstays]
      exact c.valid
  rw [lowered, Char.ofNat, dif_pos hvalid]
  rfl

/-- Neither is the number shifted to lower case nor is another one shifted to it. -/
def CaseRun.isCaseless (n : Nat) : Bool :=
  (lowercase.all fun r => !r.covers n) && (sources lowercase n).isEmpty

/-- A character that stands alone as far as case goes. -/
def IsCaseless (c : Char) : Prop :=
  CaseRun.isCaseless c.toNat = true

instance : DecidablePred IsCaseless :=
  fun _ => inferInstanceAs (Decidable (_ = true))

theorem lowered_eq_iff {x : Char} (hx : IsCaseless x) {c : Char} : lowered c = x ↔ c = x := by
  simp only [IsCaseless, CaseRun.isCaseless, Bool.and_eq_true, List.all_eq_true, Bool.not_eq_true',
    List.isEmpty_iff] at hx
  obtain ⟨hcovers, hsources⟩ := hx
  constructor
  · intro h
    have hshift : CaseRun.shifted CaseRun.lowercase c.toNat = x.toNat := by rw [← lowered_toNat, h]
    rcases CaseRun.eq_or_mem_sources CaseRun.staysPositive_lowercase hshift with heq | hmem
    · exact Char.toNat_inj.mp heq
    · rw [hsources] at hmem
      cases hmem
  · rintro rfl
    refine Char.toNat_inj.mp ?_
    rw [lowered_toNat, CaseRun.shifted_of_not_covers hcovers]

theorem IsCaseless.lowered {c : Char} (h : IsCaseless c) : lowered c = c :=
  (lowered_eq_iff h).mpr rfl

/-- A property of caseless characters only is neither lost nor gained. -/
theorem apply_lowered {p : Char → Bool} (hp : ∀ x, p x = true → IsCaseless x) (c : Char) :
    p (lowered c) = p c := by
  cases hc : p c with
  | true => rw [(hp c hc).lowered, hc]
  | false =>
    refine Bool.eq_false_iff.mpr fun h => ?_
    rw [(lowered_eq_iff (hp _ h)).mp rfl, h] at hc
    cases hc

theorem isCaseless_below : ∀ n < 0x41, CaseRun.isCaseless n = true := by
  decide +kernel

theorem isCaseless_of_isDigit {c : Char} (h : c.isDigit = true) : IsCaseless c := by
  refine isCaseless_below c.toNat ?_
  simp only [Char.isDigit, Bool.and_eq_true, decide_eq_true_eq, UInt32.le_iff_toNat_le] at h
  have hlast : c.toNat ≤ 57 := h.2
  omega

theorem isCaseless_of_isSpace {c : Char} (h : isSpace c = true) : IsCaseless c := by
  have hspaces : ∀ n ∈ [0x9, 0xA, 0xB, 0xC, 0xD, 0x20, 0x85, 0xA0, 0x1680, 0x2000, 0x2001, 0x2002,
      0x2003, 0x2004, 0x2005, 0x2006, 0x2007, 0x2008, 0x2009, 0x200A, 0x2028, 0x2029, 0x202F, 0x205F,
      0x3000], CaseRun.isCaseless n = true := by decide +kernel
  refine hspaces c.toNat ?_
  simp only [isSpace, Bool.or_eq_true, Bool.and_eq_true, decide_eq_true_eq, beq_iff_eq] at h
  simp only [List.mem_cons, List.not_mem_nil, or_false]
  omega

@[simp]
theorem isDigit_lowered (c : Char) : (lowered c).isDigit = c.isDigit :=
  apply_lowered (fun _ => isCaseless_of_isDigit) c

@[simp]
theorem isSpace_lowered (c : Char) : isSpace (lowered c) = isSpace c :=
  apply_lowered (fun _ => isCaseless_of_isSpace) c

/-! ## Orbits -/

theorem mem_caseOrbit_lowered {c d : Char} (h : c.toNat ∈ Regex.caseOrbit d.toNat) :
    (lowered c).toNat ∈ Regex.caseOrbit (lowered d).toNat := by
  rw [Regex.mem_caseOrbit, lowered_toNat, lowered_toNat, CaseRun.folding_lowercase,
    CaseRun.folding_lowercase]
  exact Regex.mem_caseOrbit.mp h

theorem caseOrbit_lowered (c : Char) :
    Regex.caseOrbit (lowered c).toNat = Regex.caseOrbit c.toNat := by
  simp only [Regex.caseOrbit, lowered_toNat, CaseRun.folding_lowercase]

theorem lowered_eq_of_mem_asciiOrbit {c d : Char} (h : c.toNat ∈ Regex.asciiOrbit d.toNat) :
    lowered c = lowered d := by
  have hletters : ∀ k < 26, CaseRun.shifted CaseRun.lowercase (0x41 + k) = 0x61 + k ∧
      CaseRun.shifted CaseRun.lowercase (0x61 + k) = 0x61 + k := by decide +kernel
  refine Char.toNat_inj.mp ?_
  rw [lowered_toNat, lowered_toNat]
  simp only [Regex.asciiOrbit, Bool.and_eq_true, decide_eq_true_eq] at h
  split at h
  · rename_i hupper
    obtain ⟨k, hk⟩ := Nat.exists_eq_add_of_le hupper.1
    have hboth := hletters k (by omega)
    simp only [List.mem_cons, List.not_mem_nil, or_false] at h
    rcases h with hc | hc
    · rw [hc]
    · rw [hc, hk, hboth.1, show 0x41 + k + 32 = 0x61 + k by omega, hboth.2]
  · split at h
    · rename_i hlower
      obtain ⟨k, hk⟩ := Nat.exists_eq_add_of_le hlower.1
      have hboth := hletters k (by omega)
      simp only [List.mem_cons, List.not_mem_nil, or_false] at h
      rcases h with hc | hc
      · rw [hc]
      · rw [hc, hk, hboth.2, show 0x61 + k - 32 = 0x41 + k by omega, hboth.1]
    · rw [List.mem_singleton.mp h]

/-! ## Texts -/

namespace Text

/-- The text is lower-cased character by character. -/
def LowersEvenly (s : String) : Prop :=
  (lowercase s).toList = s.toList.map lowered

theorem lowerFrom_eq {cs : List Char} (hdot : '\u0130' ∉ cs) (hsigma : 'Σ' ∉ cs) (before : List Char) :
    lowerFrom before cs = cs.map lowered := by
  induction cs generalizing before with
  | nil => rfl
  | cons c cs ih =>
    simp only [List.mem_cons, not_or] at hdot hsigma
    rw [lowerFrom, if_neg (Ne.symm hsigma.1), lowerChar_eq (Ne.symm hdot.1), ih hdot.2 hsigma.2]
    rfl

theorem lowersEvenly_of_notMem {s : String} (hdot : '\u0130' ∉ s.toList) (hsigma : 'Σ' ∉ s.toList) :
    LowersEvenly s := by
  rw [LowersEvenly, lowercase, String.toList_ofList, lowerFrom_eq hdot hsigma]

end Text
end RequestMatching
