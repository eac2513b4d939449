import Mathlib.Data.List.Chain
import RequestMatching.Proofs.Text.Lowering

/-!
# Letters with case in the tables of characters

The tables of properties and of categories are read from long texts and looked up by halving. What has
been read is given here as a list that can be gone through entry by entry, and what a look-up finds is
told by the list: every letter with case is alphabetic, and none is a decimal digit.
-/

namespace RequestMatching

namespace Property

def rangesOf : Option Nat → Option Nat → List Char → List (Nat × Nat)
  | low, some n, [] => [(low.getD n, n)]
  | _, none, [] => []
  | low, some n, c :: cs =>
    if c = '-' then rangesOf (some n) none cs
    else if c = ' ' || c = '\n' then (low.getD n, n) :: rangesOf none none cs
    else rangesOf low (some (n * 16 + digit c)) cs
  | low, none, c :: cs =>
    if c = ' ' || c = '\n' then rangesOf low none cs
    else rangesOf low (some (digit c)) cs

theorem toList_readRanges (acc : Array (Nat × Nat)) (low num : Option Nat) (cs : List Char) :
    (readRanges acc low num cs).toList = acc.toList ++ rangesOf low num cs := by
  induction cs generalizing acc low num with
  | nil => cases num <;> simp [readRanges, rangesOf]
  | cons c cs ih =>
    cases num <;> simp only [readRanges, rangesOf] <;> split_ifs <;> simp [ih]

theorem toList_ofText {s : String} {cs : List Char} (h : s.toList = cs) :
    (ofText s).ranges.toList = rangesOf none none cs := by
  simp [ofText, toList_readRanges, h]

def Precedes (p q : Nat × Nat) : Prop :=
  p.1 ≤ p.2 ∧ p.2 < q.1

instance : DecidableRel Precedes :=
  fun _ _ => inferInstanceAs (Decidable (_ ∧ _))

instance : Trans Precedes Precedes Precedes where
  trans := by
    rintro p q r ⟨hp, hpq⟩ ⟨hq, hqr⟩
    exact ⟨hp, by omega⟩

/-- Halving does not lose a range that holds the number. -/
theorem search_of_getElem? {ranges : Array (Nat × Nat)} (hranges : ranges.toList.Pairwise Precedes)
    {n i : Nat} {q : Nat × Nat} (hq : ranges[i]? = some q) (hfirst : q.1 ≤ n) (hlast : n ≤ q.2)
    {fuel lo hi : Nat} (hlo : lo ≤ i) (hhi : i < hi) (hsize : hi ≤ ranges.size)
    (hfuel : hi - lo ≤ fuel) : search ranges n fuel lo hi = true := by
  have hprecedes : ∀ {j k : Nat} {p r : Nat × Nat}, ranges[j]? = some p → ranges[k]? = some r →
      j < k → Precedes p r := by
    intro j k p r hp hr hjk
    rw [← Array.getElem?_toList, List.getElem?_eq_some_iff] at hp hr
    obtain ⟨hj, rfl⟩ := hp
    obtain ⟨hk, rfl⟩ := hr
    exact List.pairwise_iff_getElem.mp hranges j k hj hk hjk
  induction fuel generalizing lo hi with
  | zero => omega
  | succ fuel ih =>
    have hmid : (lo + hi) / 2 < ranges.size := by omega
    obtain ⟨p, hp⟩ : ∃ p, ranges[(lo + hi) / 2]? = some p := ⟨_, Array.getElem?_eq_getElem hmid⟩
    rw [search, if_pos (by omega : lo < hi)]
    simp only [hp]
    rcases Nat.lt_trichotomy i ((lo + hi) / 2) with hleft | heq | hright
    · have hbefore : n < p.1 := Nat.lt_of_le_of_lt hlast (hprecedes hq hp hleft).2
      rw [if_pos hbefore]
      exact ih hlo hleft (by omega) (by omega)
    · rw [← heq, hq] at hp
      cases hp
      rw [if_neg (Nat.not_lt.mpr hfirst), if_neg (Nat.not_lt.mpr hlast)]
    · obtain ⟨hp, hpq⟩ := hprecedes hp hq hright
      rw [if_neg (by omega : ¬ n < p.1), if_pos (by omega : p.2 < n)]
      exact ih hright hhi hsize (by omega)

theorem holds_of_mem {p : Property} (hp : p.ranges.toList.Pairwise Precedes) {q : Nat × Nat}
    (hq : q ∈ p.ranges.toList) {n : Nat} (hfirst : q.1 ≤ n) (hlast : n ≤ q.2) :
    p.holds n = true := by
  obtain ⟨i, hi, heq⟩ := List.mem_iff_getElem.mp hq
  have hget : p.ranges[i]? = some q := by
    rw [← Array.getElem?_toList, List.getElem?_eq_getElem hi, heq]
  exact search_of_getElem? hp hget hfirst hlast (Nat.zero_le i) hi (Nat.le_refl _) (by omega)

end Property

/-! ## Alphabetic characters -/

/-- Whether the ranges hold all members of a run: one of them does, or each member has its own. -/
def CaseRun.liesIn (r : CaseRun) (ranges : List (Nat × Nat)) : Bool :=
  (ranges.any fun q => Nat.ble q.1 r.first && Nat.ble r.last q.2) ||
    (List.range (r.last - r.first + 1)).all fun k => !r.covers (r.first + k) ||
      ranges.any fun q => Nat.ble q.1 (r.first + k) && Nat.ble (r.first + k) q.2

theorem CaseRun.exists_of_liesIn {r : CaseRun} {ranges : List (Nat × Nat)}
    (h : r.liesIn ranges = true) {n : Nat} (hn : r.covers n = true) :
    ∃ q ∈ ranges, q.1 ≤ n ∧ n ≤ q.2 := by
  obtain ⟨hfirst, hlast, -⟩ := covers_bounds hn
  simp only [liesIn, Bool.or_eq_true, List.any_eq_true, Bool.and_eq_true, Nat.ble_eq, List.all_eq_true,
    List.mem_range, Bool.not_eq_true'] at h
  rcases h with ⟨q, hq, hqfirst, hqlast⟩ | hmembers
  · exact ⟨q, hq, by omega, by omega⟩
  · have hmember := hmembers (n - r.first) (by omega)
    rw [Nat.add_sub_cancel' hfirst, hn] at hmember
    simpa using hmember

set_option maxRecDepth 100000 in
/-- The ranges of the alphabetic characters are in order and hold every letter with case. -/
theorem Property.alphabetic_table :
    Property.alphabetic.ranges.toList.IsChain Property.Precedes ∧
      ∀ r ∈ CaseRun.lowercase, r.liesIn Property.alphabetic.ranges.toList = true ∧
        r.reversed.liesIn Property.alphabetic.ranges.toList = true := by
  obtain ⟨cs, hcs, hchain, hruns⟩ : ∃ cs, Property.alphabetic.ranges.toList =
        Property.rangesOf none none cs ∧
      (Property.rangesOf none none cs).IsChain Property.Precedes ∧
      ∀ r ∈ CaseRun.lowercase, r.liesIn (Property.rangesOf none none cs) = true ∧
        r.reversed.liesIn (Property.rangesOf none none cs) = true :=
    -- the text of the table is spelt out as a list, which the kernel goes through
    ⟨_, Property.toList_ofText String.toList_ofList, by decide +kernel, by decide +kernel⟩
  rw [hcs]
  exact ⟨hchain, hruns⟩

/-- A letter that has a lower-case form is alphabetic in both cases. -/
theorem alphabetic_of_covers {r : CaseRun} (hr : r ∈ CaseRun.lowercase) {n : Nat}
    (hn : r.covers n = true) : Property.alphabetic.holds n = true ∧
      Property.alphabetic.holds ((n : Int) + r.shift).toNat = true := by
  obtain ⟨hchain, hruns⟩ := Property.alphabetic_table
  have hsorted := List.isChain_iff_pairwise.mp hchain
  have hheld : ∀ {s : CaseRun} {m : Nat}, s.liesIn Property.alphabetic.ranges.toList = true →
      s.covers m = true → Property.alphabetic.holds m = true := by
    intro s m hs hm
    obtain ⟨q, hq, hfirst, hlast⟩ := CaseRun.exists_of_liesIn hs hm
    exact Property.holds_of_mem hsorted hq hfirst hlast
  have hpositive := (CaseRun.staysPositive_lowercase r hr).2
  exact ⟨hheld (hruns r hr).1 hn, hheld (hruns r hr).2 (CaseRun.reversed_covers hpositive hn)⟩

/-! ## Decimal digits -/

theorem CaseRun.isCaseless_of_not_covers {n : Nat}
    (h : ∀ r ∈ lowercase ++ lowercase.map reversed, r.covers n = false) : isCaseless n = true := by
  rw [isCaseless, Bool.and_eq_true, List.all_eq_true, List.isEmpty_iff,
    List.eq_nil_iff_forall_not_mem]
  refine ⟨fun r hr => ?_, fun m hm => ?_⟩
  · rw [h r (List.mem_append_left _ hr)]
    rfl
  · obtain ⟨r, hr, hcovers, hback⟩ := mem_sources.mp hm
    obtain ⟨hpositive, hshift⟩ := staysPositive_lowercase r hr
    have hbounds := covers_bounds hcovers
    have hshifted := reversed_covers hshift hcovers
    rw [show ((m : Int) + r.shift).toNat = n by omega,
      h _ (List.mem_append_right _ (List.mem_map_of_mem hr))] at hshifted
    cases hshifted

namespace Category

def entriesOf : Nat → Option Char → List Char → List (Nat × Char × Char)
  | _, _, [] => []
  | n, none, c :: cs =>
    if c = ' ' || c = '\n' then entriesOf 0 none cs
    else if c.isDigit || ('A' ≤ c && c ≤ 'F' && !(cs.head?.any Char.isLower)) then
      entriesOf (n * 16 + Property.digit c) none cs
    else entriesOf n (some c) cs
  | n, some major, c :: cs => (n, major, c) :: entriesOf 0 none cs

def entry (e : Nat × Char × Char) : Nat × String :=
  (e.1, .ofList [e.2.1, e.2.2])

theorem toList_readRuns (acc : Array (Nat × String)) (n : Nat) (major : Option Char)
    (cs : List Char) :
    (readRuns acc n major cs).toList = acc.toList ++ (entriesOf n major cs).map entry := by
  induction cs generalizing acc n major with
  | nil => simp [readRuns, entriesOf]
  | cons c cs ih =>
    cases major with
    | none => simp only [readRuns, entriesOf]; split_ifs <;> simp [ih]
    | some major => simp [readRuns, entriesOf, entry, ih]

/-- The entry that a look-up finds is the last one that begins at the number or before it. -/
theorem exists_of_search {rs : Array (Nat × String)} {n fuel lo hi : Nat} {c : String}
    (h : search rs n fuel lo hi = some c) (hlt : lo < hi) (hlo : ∀ e, rs[lo]? = some e → e.1 ≤ n)
    (hhi : ∀ e, rs[hi]? = some e → n < e.1) :
    ∃ i a, rs[i]? = some (a, c) ∧ a ≤ n ∧ ∀ e, rs[i + 1]? = some e → n < e.1 := by
  induction fuel generalizing lo hi with
  | zero => cases h
  | succ fuel ih =>
    rw [search] at h
    split at h
    · cases hmid : rs[(lo + hi) / 2]? with
      | none => simp [hmid] at h
      | some e =>
        simp only [hmid] at h
        split at h
        · rename_i hbefore
          refine ih h (by omega) hlo fun e' he' => ?_
          rw [hmid] at he'
          cases he'
          exact hbefore
        · rename_i hbefore
          refine ih h (by omega) (fun e' he' => ?_) hhi
          rw [hmid] at he'
          cases he'
          exact Nat.le_of_not_lt hbefore
    · obtain ⟨⟨a, c'⟩, ha, rfl⟩ := Option.map_eq_some_iff.mp h
      obtain rfl : hi = lo + 1 := by omega
      exact ⟨lo, a, ha, hlo _ ha, hhi⟩

/-- Whether all decimal digits of a table are outside the runs. -/
def digitsApart (rs : List CaseRun) : List (Nat × Char × Char) → Bool
  | [] => true
  | (first, major, minor) :: es =>
    (major != 'N' || minor != 'd' ||
      es.head?.any fun e => rs.all fun r => Nat.blt r.last first || Nat.ble e.1 r.first) &&
    digitsApart rs es

theorem exists_of_digitsApart {rs : List CaseRun} {es : List (Nat × Char × Char)}
    (h : digitsApart rs es = true) {i first : Nat} (hi : es[i]? = some (first, 'N', 'd')) :
    ∃ e, es[i + 1]? = some e ∧ ∀ r ∈ rs, r.last < first ∨ e.1 ≤ r.first := by
  induction es generalizing i with
  | nil => cases hi
  | cons e es ih =>
    obtain ⟨hfirst, hrest⟩ := Bool.and_eq_true_iff.mp h
    cases i with
    | zero =>
      cases hi
      cases es with
      | nil => cases hfirst
      | cons e es => exact ⟨e, rfl, by simpa using hfirst⟩
    | succ i => exact ih hrest hi

theorem toList_runs {texts : List (List Char)}
    (h : List.Forall₂ (fun s cs => s.toList = cs) table texts) :
    runs.toList = (entriesOf 0 none texts.flatten).map entry := by
  have htexts : table.flatMap String.toList = texts.flatten := by
    generalize table = ss at h
    induction h with
    | nil => rfl
    | cons hs _ ih => rw [List.flatMap_cons, hs, ih, List.flatten_cons]
  rw [runs, toList_readRuns, htexts]
  rfl

set_option maxRecDepth 100000 in
/-- The table begins at the first character, and its digits are apart from the letters with case. -/
theorem digits_table : ∃ es, runs.toList = es.map entry ∧ es.head?.map Prod.fst = some 0 ∧
    digitsApart (CaseRun.lowercase ++ CaseRun.lowercase.map CaseRun.reversed) es = true := by
  obtain ⟨texts, htexts, hstart, hapart⟩ : ∃ texts : List (List Char),
      List.Forall₂ (fun s cs => s.toList = cs) table texts ∧
      (entriesOf 0 none texts.flatten).head?.map Prod.fst = some 0 ∧
      digitsApart (CaseRun.lowercase ++ CaseRun.lowercase.map CaseRun.reversed)
        (entriesOf 0 none texts.flatten) = true :=
    ⟨_, by repeat' first | exact String.toList_ofList | constructor,
      by decide +kernel, by decide +kernel⟩
  exact ⟨_, toList_runs htexts, hstart, hapart⟩

theorem exists_of_getD (rs : Array (Nat × String)) {n : Nat} {c : String} (hc : c ≠ "Cn")
    (h : (search rs n (rs.size + 1) 0 rs.size).getD "Cn" = c)
    (hstart : ∀ e, rs[0]? = some e → e.1 = 0) :
    ∃ i a, rs[i]? = some (a, c) ∧ a ≤ n ∧ ∀ e, rs[i + 1]? = some e → n < e.1 := by
  cases hsearch : search rs n (rs.size + 1) 0 rs.size with
  | none =>
    rw [hsearch] at h
    exact absurd h.symm hc
  | some c' =>
    rw [hsearch] at h
    obtain rfl : c' = c := h
    have hsize : 0 < rs.size := by
      refine Nat.pos_of_ne_zero fun hzero => ?_
      rw [search, hzero, if_neg (by omega), Array.getElem?_eq_none (by omega)] at hsearch
      cases hsearch
    refine exists_of_search hsearch hsize (fun e he => ?_) fun e he => ?_
    · rw [hstart e he]
      exact Nat.zero_le n
    · rw [Array.getElem?_size] at he
      cases he

theorem isCaseless_of_digitsApart {rs : Array (Nat × String)} {es : List (Nat × Char × Char)}
    (hes : rs.toList = es.map entry) (hstart : es.head?.map Prod.fst = some 0)
    (hapart : digitsApart (CaseRun.lowercase ++ CaseRun.lowercase.map CaseRun.reversed) es = true)
    {n : Nat} (h : (search rs n (rs.size + 1) 0 rs.size).getD "Cn" = "Nd") :
    CaseRun.isCaseless n = true := by
  have hget : ∀ i : Nat, rs[i]? = es[i]?.map entry := by
    intro i
    rw [← Array.getElem?_toList, hes, List.getElem?_map]
  have hzero : ∀ e, rs[0]? = some e → e.1 = 0 := by
    intro e he
    rw [hget, ← List.head?_eq_getElem?] at he
    obtain ⟨first, hfirst, rfl⟩ := Option.map_eq_some_iff.mp he
    simpa [hfirst, entry] using hstart
  obtain ⟨i, first, hfirst, hle, hnext⟩ := exists_of_getD rs (by decide) h hzero
  rw [hget] at hfirst
  obtain ⟨⟨first', major, minor⟩, he, heq⟩ := Option.map_eq_some_iff.mp hfirst
  obtain ⟨rfl, hletters⟩ := Prod.mk.inj heq
  have hdigit : [major, minor] = ['N', 'd'] := String.ofList_injective hletters
  cases hdigit
  obtain ⟨next, hget', hruns⟩ := exists_of_digitsApart hapart he
  have hlt : n < next.1 := hnext (entry next) (by rw [hget, hget']; rfl)
  refine CaseRun.isCaseless_of_not_covers fun r hr => Bool.eq_false_iff.mpr fun hcovers => ?_
  have hbounds := CaseRun.covers_bounds hcovers
  have hdisjoint := hruns r hr
  omega

/-- A decimal digit stands alone as far as case goes. -/
theorem isCaseless_of_decimal {n : Nat} (h : of n = "Nd") : CaseRun.isCaseless n = true := by
  obtain ⟨es, hes, hstart, hapart⟩ := digits_table
  exact isCaseless_of_digitsApart hes hstart hapart h

end Category

end RequestMatching
