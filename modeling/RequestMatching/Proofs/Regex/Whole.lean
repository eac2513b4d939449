import RequestMatching.Body.Matcher
import RequestMatching.Proofs.Outcome
import RequestMatching.Proofs.Pattern.Lookup
import RequestMatching.Proofs.Regex.Places
import RequestMatching.Proofs.Regex.Splicing
import RequestMatching.Xsd.Compiler

/-!
# Expressions for whole texts

A source that has to match a whole text is put between anchors as text. That this means what it says
depends on the source: it may not close a group that it has not opened, as the group around it would
be the one that is closed, and no comment may be open where it ends. What is put around it also makes the
expression deeper and larger; that the engine still takes it is a condition of its own.
-/

namespace RequestMatching

namespace Regex

open State

theorem parsePiece_eq (f : Flags) (cs : List Char) :
    parsePiece f cs = (start f).readAll cs >>= complete :=
  rfl

/-! ## The anchors -/

def anchorGroup (f : Flags) (before : List (Option Piece)) : Group :=
  ⟨some (lookPiece .textStart) :: before, [], f, false⟩

def whole (r : Regex) : Regex :=
  .cat (.look .textStart) (.cat r (.cat (.look .textEnd) .empty))

def Piece.whole (p : Piece) : Piece :=
  ⟨p.regex.whole, p.depth + 2, p.size + .states 2⟩

theorem readAll_opening {f : Flags} (hlines : f.multiLine = false) (before : List (Option Piece))
    (cs : List Char) : State.readAll ⟨before, [], f, [], []⟩ ('^' :: '(' :: '?' :: ':' :: cs) =
      ((start f).under [anchorGroup f before]).readAll cs := by
  have hskip : f.skip ('?' :: ':' :: cs) = '?' :: ':' :: cs := skip_cons rfl (by decide)
  rw [readAll_eq, skip_cons rfl (by decide)]
  simp only [step, hlines, bind, Except.bind, push]
  rw [readAll_eq, skip_cons rfl (by decide)]
  simp only [step, State.group, hskip]
  rfl

theorem readAll_dollar (s : State) : s.readAll ['$'] =
    .ok (s.push (lookPiece (if s.flags.multiLine then .lineEnd s.flags.crlf else .textEnd))) := by
  rw [readAll_eq, skip_cons rfl (by decide)]
  exact readAll_nil _

theorem readAll_closing (s : State) {t : List Char} :
    s.readAll (')' :: t) = s.closeGroup >>= fun s => s.readAll t := by
  rw [readAll_eq, skip_cons rfl (by decide)]
  simp only [step]
  cases s.closeGroup <;> rfl

/-- If the group around a source is closed behind it, what is read is the source between anchors. -/
theorem complete_closing {f : Flags} (hlines : f.multiLine = false) {before : List (Option Piece)}
    (hbefore : before = [] ∨ before = [none]) (s : State) :
    ((s.under [anchorGroup f before]).readAll [')', '$'] >>= complete) =
      s.complete.map Piece.whole := by
  obtain ⟨items, branches, flags, groups, names⟩ := s
  rw [readAll_closing]
  rcases groups with - | ⟨g, groups⟩
  · have hsize : ∀ p : Piece, Size.states 1 + (p.size + (.states 1 + .states 0)) =
        p.size + .states 2 := fun p => by
      ext <;> simp [Size.states] <;> omega
    have hwhole : ∀ p : Piece, sequencePiece (some (lookPiece .textEnd) ::
        some (p.grouped false) :: some (lookPiece .textStart) :: before) = p.whole := by
      intro p
      rcases hbefore with rfl | rfl <;>
        simp [sequencePiece, Piece.whole, Regex.whole, Piece.grouped, lookPiece, hsize]
    simp only [under, List.nil_append, anchorGroup, closeGroup, bind, Except.bind, readAll_dollar,
      hlines]
    exact congrArg Except.ok (hwhole _)
  · simp [under, closeGroup, readAll_dollar, push, complete, bind, Except.bind, Except.map]

/-- A parenthesis behind the source is read as one: no comment is open where the source ends. -/
def Closable (f : Flags) (cs : List Char) : Prop :=
  parsePiece f (cs ++ [')']) = .error .groupUnopened

theorem complete_of_groups {s : State} (h : s.groups ≠ []) : s.complete = .error .groupUnclosed := by
  simp [complete, h]

/-- What is read of a source between anchors that closes no group but its own. -/
theorem complete_anchored {f : Flags} (hlines : f.multiLine = false) {before : List (Option Piece)}
    (hbefore : before = [] ∨ before = [none]) {cs : List Char}
    (hcloses : parsePiece f cs ≠ .error .groupUnopened) (q : Piece) :
    (State.readAll ⟨before, [], f, [], []⟩ ('^' :: '(' :: '?' :: ':' :: (cs ++ [')', '$'])) >>=
      complete) = .ok q ↔ ∃ p, parsePiece f cs = .ok p ∧ Closable f cs ∧ q = p.whole := by
  have hshort : [')'] ∈ closings := by decide
  have hlong : [')', '$'] ∈ closings := by decide
  rw [readAll_opening hlines]
  cases spliced (start f) cs with
  | closed s h₁ h₂ =>
    have hpiece : parsePiece f cs = s.complete := by rw [parsePiece_eq, h₁]; rfl
    have hread : (start f).readAll (cs ++ [')']) = s.readAll [')'] := by
      simpa using h₂ [] _ hshort
    rw [h₂ _ _ hlong, complete_closing hlines hbefore, hpiece]
    constructor
    · intro h
      cases hs : s.complete with
      | error e => rw [hs] at h; cases h
      | ok p =>
        rw [hs] at h
        cases h
        refine ⟨p, rfl, ?_, rfl⟩
        have hgroups : s.groups = [] := by
          by_contra hne
          rw [complete_of_groups hne] at hs
          cases hs
        rw [Closable, parsePiece_eq, hread, readAll_closing, closeGroup, hgroups]
        rfl
    · rintro ⟨p, hp, -, rfl⟩
      rw [hp]; rfl
  | swallowed s h₁ h₂ =>
    have hread : (start f).readAll (cs ++ [')']) = .ok s := by simpa using h₂ [] _ hshort
    rw [h₂ _ _ hlong]
    constructor
    · intro h
      have hgroups : (s.under [anchorGroup f before]).groups ≠ [] := by simp
      have hopen := complete_of_groups hgroups
      exact absurd (hopen.symm.trans h) (by simp)
    · rintro ⟨p, hp, hclosable, -⟩
      rw [parsePiece_eq, h₁] at hp
      rw [Closable, parsePiece_eq, hread] at hclosable
      exact absurd (hp.symm.trans hclosable) (by simp)
  | unopened h₁ => exact absurd (by rw [parsePiece_eq, h₁]; rfl) hcloses
  | fails e h₁ h₂ =>
    constructor
    · intro h
      cases hs : ((start f).under [anchorGroup f before]).readAll (cs ++ [')', '$']) with
      | error e' => rw [hs] at h; cases h
      | ok s =>
        rw [hs] at h
        have hopen := complete_of_groups (h₂ _ (by simp) _ hlong s hs)
        exact absurd (hopen.symm.trans h) (by simp)
    · rintro ⟨p, hp, -, -⟩
      rw [parsePiece_eq, h₁] at hp
      cases hp

/-! ## Limits -/

/-- The engine refuses what has been read neither for its nesting nor for its size. -/
def HasRoom (read : Except Fault Regex) : Prop :=
  read ≠ .error .nestedTooDeeply ∧ read ≠ .error .tooLarge

theorem hasRoom_of_isOk {read : Except Fault Regex} (h : read.isOk = true) : HasRoom read := by
  constructor <;> rintro rfl <;> cases h

theorem accept_eq_ok_iff (p : Piece) (r : Regex) : p.accept = .ok r ↔
    p.depth ≤ depthLimit ∧ (p.size + .frame).largest ≤ sizeLimit ∧ r = p.regex := by
  unfold Piece.accept
  by_cases hdepth : p.depth > depthLimit
  · simp [hdepth]
  · by_cases hsize : (p.size + .frame).largest > sizeLimit
    · simp [hdepth, hsize]
    · simp [hdepth, hsize, Nat.le_of_not_gt hdepth, Nat.le_of_not_gt hsize, eq_comm]

theorem accept_ne_nestedTooDeeply {p : Piece} (h : p.depth ≤ depthLimit) :
    p.accept ≠ .error .nestedTooDeeply := by
  unfold Piece.accept
  rw [if_neg (Nat.not_lt.mpr h)]
  split <;> exact nofun

theorem HasRoom.accept {p : Piece} (h : HasRoom p.accept) : p.accept = .ok p.regex := by
  obtain ⟨hdepth, hsize⟩ := h
  unfold Piece.accept at hdepth hsize ⊢
  split
  · exact absurd (if_pos ‹_›) hdepth
  · rw [if_neg ‹_›] at hsize
    split
    · exact absurd (if_pos ‹_›) hsize
    · rfl

theorem accept_of_accept_whole {p : Piece} {r : Regex} (h : p.whole.accept = .ok r) :
    p.accept = .ok p.regex := by
  obtain ⟨hdepth, hsize, -⟩ := (accept_eq_ok_iff _ _).mp h
  simp only [Piece.whole, Size.largest, Size.forward_add, Size.backward_add] at hdepth hsize
  obtain ⟨hforward, hbackward⟩ := Nat.max_le.mp hsize
  refine (accept_eq_ok_iff _ _).mpr ⟨by omega, Nat.max_le.mpr ⟨?_, ?_⟩, rfl⟩
  · rw [Size.forward_add]
    omega
  · rw [Size.backward_add]
    omega

/-! ## Whole texts -/

/-- A source that is a valid expression alone and keeps its meaning between anchors. -/
structure Admits (f : Flags) (source : String) (r : Regex) : Prop where
  valid : parseChars f source.toList = .ok r
  closable : Closable f source.toList

/-- Under the flags, the text that is put around a source admits what the source alone admits, if the
source does not close the group around it and the engine takes what is put together. -/
theorem accept_anchored {f : Flags} (hlines : f.multiLine = false) {before : List (Option Piece)}
    (hbefore : before = [] ∨ before = [none]) {source : String}
    (hcloses : parsePiece f source.toList ≠ .error .groupUnopened) {read : Except Fault Regex}
    (hread : read = State.readAll ⟨before, [], f, [], []⟩
      ('^' :: '(' :: '?' :: ':' :: (source.toList ++ [')', '$'])) >>= complete >>= Piece.accept)
    (hroom : HasRoom read) (r : Regex) :
    read = .ok r ↔ ∃ r', Admits f source r' ∧ r = r'.whole := by
  constructor
  · intro h
    obtain ⟨q, hq, haccept⟩ := ok_of_bind (hread.symm.trans h)
    obtain ⟨p, hpiece, hclosable, rfl⟩ := (complete_anchored hlines hbefore hcloses q).mp hq
    have hvalid : parseChars f source.toList = .ok p.regex :=
      bind_eq_ok_iff.mpr ⟨p, hpiece, accept_of_accept_whole haccept⟩
    exact ⟨p.regex, ⟨hvalid, hclosable⟩, ((accept_eq_ok_iff _ _).mp haccept).2.2⟩
  · rintro ⟨r', ⟨hvalid, hclosable⟩, rfl⟩
    obtain ⟨p, hpiece, haccept⟩ := ok_of_bind hvalid
    obtain ⟨-, -, rfl⟩ := (accept_eq_ok_iff _ _).mp haccept
    have hwhole := (complete_anchored hlines hbefore hcloses p.whole).mpr ⟨p, hpiece, hclosable, rfl⟩
    rw [hwhole] at hread
    rw [hread] at hroom ⊢
    exact HasRoom.accept hroom

theorem parseWhole_eq_ok_iff {source : String}
    (hcloses : parsePiece {} source.toList ≠ .error .groupUnopened)
    (hroom : HasRoom (parseWhole source)) (r : Regex) :
    parseWhole source = .ok r ↔ ∃ r', Admits {} source r' ∧ r = r'.whole := by
  have htext : ("^(?:" ++ source ++ ")$").toList =
      '^' :: '(' :: '?' :: ':' :: (source.toList ++ [')', '$']) := by
    simp
  refine accept_anchored rfl (.inl rfl) hcloses ?_ hroom r
  rw [parseWhole, parse, htext]
  rfl

theorem parseWholeDotAll_eq_ok_iff {source : String}
    (hcloses : parsePiece { dotAll := true } source.toList ≠ .error .groupUnopened)
    (hroom : HasRoom (parseWholeDotAll source)) (r : Regex) : parseWholeDotAll source = .ok r ↔
      ∃ r', Admits { dotAll := true } source r' ∧ r = r'.whole := by
  have htext : ("(?s)^(?:" ++ source ++ ")$").toList = '(' :: '?' :: 's' :: ')' ::
      '^' :: '(' :: '?' :: ':' :: (source.toList ++ [')', '$']) := by
    simp
  have hflag : ∀ cs, (start {}).readAll ('(' :: '?' :: 's' :: ')' :: cs) =
      State.readAll ⟨[none], [], { dotAll := true }, [], []⟩ cs := by
    intro cs
    rw [readAll_eq]
    rfl
  refine accept_anchored rfl (.inr rfl) hcloses ?_ hroom r
  rw [parseWholeDotAll, parse, htext, ← hflag]
  rfl

/-- The expression between anchors matches some part of a text if the source matches all of it. -/
theorem isMatch_whole (r : Regex) (text : String) : r.whole.isMatch text = true ↔
    Spans text.toList r 0 text.toList.length := by
  have hstart : ∀ i, i ≤ text.toList.length →
      (Look.textStart.holdsBetween (charBefore text.toList i) text.toList[i]? = true ↔ i = 0) := by
    intro i hi
    cases i with
    | zero => simp [Look.holdsBetween, charBefore]
    | succ i => simp [Look.holdsBetween, charBefore]; omega
  have hend : ∀ j, j ≤ text.toList.length →
      (Look.textEnd.holdsBetween (charBefore text.toList j) text.toList[j]? = true ↔
        j = text.toList.length) := by
    intro j hj
    simp [Look.holdsBetween]
    omega
  rw [isMatch_iff]
  simp only [whole, Spans]
  constructor
  · rintro ⟨i, k, _, _, ⟨hi, hfirst, rfl⟩, j, hspan, _, ⟨hj, hlast, rfl⟩, rfl⟩
    rw [(hstart i hi).mp hfirst, (hend j hj).mp hlast] at hspan
    exact hspan
  · intro hspan
    exact ⟨0, _, Nat.zero_le _, 0, ⟨Nat.zero_le _, (hstart 0 (Nat.zero_le _)).mpr rfl, rfl⟩, _, hspan,
      _, ⟨Nat.le_refl _, (hend _ (Nat.le_refl _)).mpr rfl, rfl⟩, rfl⟩

/-- The source alone is a valid expression that keeps its meaning between anchors, and it matches the
text from its first to its last character. -/
def MatchesWhole (f : Flags) (source text : String) : Prop :=
  ∃ r, Admits f source r ∧ Spans text.toList r 0 text.toList.length

theorem Admits.unique {f : Flags} {source : String} {r r' : Regex} (h : Admits f source r)
    (h' : Admits f source r') : r' = r :=
  Except.ok.inj (h'.valid.symm.trans h.valid)

theorem Admits.matchesWhole_iff {f : Flags} {source : String} {r : Regex} (h : Admits f source r)
    (text : String) : MatchesWhole f source text ↔ r.whole.isMatch text = true := by
  rw [isMatch_whole]
  constructor
  · rintro ⟨r', hr', hspan⟩
    exact h.unique hr' ▸ hspan
  · exact fun hspan => ⟨r, h, hspan⟩

section
variable {source : String}

theorem compileWhole_eq_some_iff (hcloses : parsePiece {} source.toList ≠ .error .groupUnopened)
    (hroom : HasRoom (parseWhole source)) (r : Regex) :
    compileWhole source = some r ↔ ∃ r', Admits {} source r' ∧ r = r'.whole := by
  rw [← parseWhole_eq_ok_iff hcloses hroom, compileWhole]
  cases parseWhole source <;> simp [Except.toOption]

theorem any_compileWhole (hcloses : parsePiece {} source.toList ≠ .error .groupUnopened)
    (hroom : HasRoom (parseWhole source)) (text : String) :
    (compileWhole source).any (·.isMatch text) = true ↔ MatchesWhole {} source text := by
  simp only [Option.any_eq_true, compileWhole_eq_some_iff hcloses hroom]
  constructor
  · rintro ⟨-, ⟨r, hr, rfl⟩, hmatch⟩
    exact (hr.matchesWhole_iff text).mpr hmatch
  · rintro ⟨r, hr, hspan⟩
    exact ⟨_, ⟨r, hr, rfl⟩, (isMatch_whole r text).mpr hspan⟩

theorem request_isSome (hcloses : parsePiece {} source.toList ≠ .error .groupUnopened)
    (hroom : HasRoom (parseWhole source)) (c : Cache) :
    (c.request source).1.regex.isSome = true ↔ ∃ r, Admits {} source r := by
  have hsound := (c.request source).1.sound
  rw [Cache.request_source] at hsound
  rw [hsound, Option.isSome_iff_exists]
  simp only [compileWhole_eq_some_iff hcloses hroom]
  constructor
  · rintro ⟨-, r, hr, -⟩
    exact ⟨r, hr⟩
  · rintro ⟨r, hr⟩
    exact ⟨_, r, hr, rfl⟩

theorem addFacet_pattern (hcloses : parsePiece {} source.toList ≠ .error .groupUnopened)
    (hroom : HasRoom (parseWhole source)) (base : Xsd.BuiltIn) (facets facets' : Xsd.Facets)
    {e : XmlElement} (hkind : e.tag.name.part = "pattern")
    (hvalue : e.attribute? "value" = some source) :
    Xsd.addFacet base facets e = .ok facets' ↔ ∃ r, Admits {} source r ∧
      facets' = { facets with patterns := facets.patterns ++ [r.whole] } := by
  have hfacet : Xsd.addFacet base facets e =
      (compileWhole source).elim (.error .badPattern)
        fun r => .ok { facets with patterns := facets.patterns ++ [r] } := by
    simp only [Xsd.addFacet, Xsd.required, hvalue, hkind, bind, Except.bind]
    cases compileWhole source <;> rfl
  rw [hfacet]
  cases hcompile : compileWhole source with
  | none =>
    refine ⟨nofun, fun ⟨r, hr, _⟩ => ?_⟩
    rw [(compileWhole_eq_some_iff hcloses hroom _).mpr ⟨r, hr, rfl⟩] at hcompile
    cases hcompile
  | some _ =>
    obtain ⟨r, hr, rfl⟩ := (compileWhole_eq_some_iff hcloses hroom _).mp hcompile
    constructor
    · intro h
      cases h
      exact ⟨r, hr, rfl⟩
    · rintro ⟨r', hr', rfl⟩
      rw [hr.unique hr']
      rfl

theorem checkRegex_accepted (hcloses : parsePiece { dotAll := true } source.toList ≠
    .error .groupUnopened) (hroom : HasRoom (parseWholeDotAll source)) (body : String) :
    (BodyRule.checkRegex source body).accepted = true ↔
      body = source ∨ MatchesWhole { dotAll := true } source body := by
  unfold BodyRule.checkRegex
  by_cases heq : body = source
  · simp [heq, Finding.accept]
  · rw [if_neg heq, or_iff_right heq]
    cases hparse : parseWholeDotAll source with
    | error e =>
      refine ⟨nofun, fun ⟨r, hr, _⟩ => ?_⟩
      rw [(parseWholeDotAll_eq_ok_iff hcloses hroom _).mpr ⟨r, hr, rfl⟩] at hparse
      cases hparse
    | ok _ =>
      obtain ⟨r, hr, rfl⟩ := (parseWholeDotAll_eq_ok_iff hcloses hroom _).mp hparse
      have hfound : ∀ (b : Bool) (d : String), (Finding.ofBool b d).accepted = b := by
        intro b d
        cases b <;> rfl
      simp only [hfound, hr.matchesWhole_iff]

end

/-- The three places that put a source between anchors as text. A source that closes no group but its
own is valid there if it is valid alone and no comment is open where it ends, unless the engine refuses
what is put together for its nesting or its size; then it is texts as a whole that it matches. -/
theorem whole_matching {source : String}
    (hplain : parsePiece {} source.toList ≠ .error .groupUnopened)
    (hdotAll : parsePiece { dotAll := true } source.toList ≠ .error .groupUnopened)
    (hroom : HasRoom (parseWhole source)) (hroomDotAll : HasRoom (parseWholeDotAll source)) :
    (∀ c : Cache, ((c.request source).1.regex.isSome = true ↔ ∃ r, Admits {} source r) ∧
      ∀ text, (c.matchWhole source text).1 = true ↔ MatchesWhole {} source text) ∧
    (∀ base facets facets' e, e.tag.name.part = "pattern" → e.attribute? "value" = some source →
      (Xsd.addFacet base facets e = .ok facets' ↔ ∃ r, Admits {} source r ∧
        facets' = { facets with patterns := facets.patterns ++ [r.whole] }) ∧
      ∀ r text, Admits {} source r → (r.whole.isMatch text = true ↔ MatchesWhole {} source text)) ∧
    ∀ body, (BodyRule.checkRegex source body).accepted = true ↔
      body = source ∨ MatchesWhole { dotAll := true } source body := by
  refine ⟨fun c => ⟨request_isSome hplain hroom c, fun text => ?_⟩,
    fun base facets facets' e hkind hvalue =>
      ⟨addFacet_pattern hplain hroom base facets facets' hkind hvalue,
        fun r text hr => (hr.matchesWhole_iff text).symm⟩,
    checkRegex_accepted hdotAll hroomDotAll⟩
  rw [Cache.matchWhole_answer, any_compileWhole hplain hroom]

theorem whole_matching_of_alternatives :
    (∀ c : Cache, ∀ text, (c.matchWhole "ab|c" text).1 = true ↔ MatchesWhole {} "ab|c" text) ∧
      ∀ body, (BodyRule.checkRegex "ab|c" body).accepted = true ↔
        body = "ab|c" ∨ MatchesWhole { dotAll := true } "ab|c" body := by
  have hplain : parsePiece {} "ab|c".toList ≠ .error .groupUnopened := nofun
  have hdotAll : parsePiece { dotAll := true } "ab|c".toList ≠ .error .groupUnopened := nofun
  have hroom : HasRoom (parseWhole "ab|c") := hasRoom_of_isOk (by decide +kernel)
  have hroomDotAll : HasRoom (parseWholeDotAll "ab|c") := hasRoom_of_isOk (by decide +kernel)
  obtain ⟨hcache, -, hbody⟩ := whole_matching hplain hdotAll hroom hroomDotAll
  exact ⟨fun c => (hcache c).2, hbody⟩

/-- A source that closes the group around it is not valid alone, but it is valid between anchors, where
`a)|(?:b` matches every text that begins with an `a`. -/
theorem not_whole_matching : ¬ ∀ (c : Cache) (source text : String),
    ((c.request source).1.regex.isSome = true ↔ ∃ r, parse source = .ok r) ∧
      ((c.matchWhole source text).1 = true → ∃ r, parse source = .ok r) := by
  intro h
  have hmatch : ((Cache.ofSize 1).matchWhole "a)|(?:b" "axx").1 = true := by decide +kernel
  obtain ⟨r, hr⟩ := (h (Cache.ofSize 1) "a)|(?:b" "axx").2 hmatch
  cases hr

end Regex
end RequestMatching
