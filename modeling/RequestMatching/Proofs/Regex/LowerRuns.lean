import RequestMatching.Proofs.Regex.SteadyEscapes
import RequestMatching.Proofs.Regex.Whole

/-!
# What becomes of an expression in lower case

The parser is followed through a source and through the same source in lower case. Where every escape,
every bracketed class and every opening of a group is read as before, or as something that covers what
it was before, the two readings stay side by side to the end, and the second expression covers the
first one.
-/

namespace RequestMatching

namespace Regex

/-! ## The readers of one construct -/

/-- What an opening parenthesis comes to: the group it opens, which captures or not, if it opens one of its
own, the flags from there on and the names that are taken. -/
structure Opening where
  own : Option Bool
  flags : Flags
  names : List String

namespace State

/-- The state with nothing in it that an opening parenthesis does not look at. -/
def bare (s : State) : State :=
  ⟨[], [], s.flags, [], s.names⟩

def enter (s : State) (o : Opening) : State :=
  match o.own with
  | some captures => { s with names := o.names }.openGroup o.flags captures
  | none => { s with items := none :: s.items, flags := o.flags, names := o.names }

def opened (s : State) : Opening :=
  ⟨s.groups.head?.map (·.captures), s.flags, s.names⟩

end State

def opening (f : Flags) (names : List String) : Reader Opening := fun cs =>
  ((⟨[], [], f, [], names⟩ : State).group cs).map fun (s, rest) => (s.opened, rest)

def bracketPiece (f : Flags) : Reader Piece := fun cs => do
  let (o, rest) := openClass f cs
  let (part, rest) ← classBody f (2 * rest.length + 2) o [] rest
  return (setPiece part.set part.depth, rest)

namespace State

section
variable (s : State) (cs : List Char)

def entered (x : Except Fault (State × List Char)) : Except Fault (State × List Char) :=
  x.map fun (t, rest) => (s.enter t.opened, rest)

theorem openNamed_entered : s.openNamed cs = s.entered (s.bare.openNamed cs) := by
  unfold openNamed
  cases groupName true cs with
  | error e => rfl
  | ok q =>
    simp only [bind, Except.bind]
    change (if s.names.contains (String.ofList q.1) then _ else _) =
      s.entered (if s.names.contains (String.ofList q.1) then _ else _)
    cases s.names.contains (String.ofList q.1) <;> rfl

theorem flagGroup_entered : s.flagGroup cs = s.entered (s.bare.flagGroup cs) := by
  simp only [flagGroup, show s.bare.flags = s.flags from rfl]
  cases readFlags s.flags [] cs with
  | error e => rfl
  | ok q =>
    obtain ⟨⟨flags, close, bare⟩, rest⟩ := q
    by_cases hclose : close = ':'
    · simp only [bind, Except.bind, if_pos hclose]; rfl
    · simp only [bind, Except.bind, if_neg hclose]
      cases bare <;> rfl

theorem angleGroup_entered : s.angleGroup cs = s.entered (s.bare.angleGroup cs) := by
  unfold angleGroup
  split
  · rfl
  · rfl
  · exact s.openNamed_entered cs

theorem markedGroup_entered : s.markedGroup cs = s.entered (s.bare.markedGroup cs) := by
  unfold markedGroup
  split
  · rfl
  · rfl
  · exact s.angleGroup_entered _
  · exact s.openNamed_entered _
  · exact s.flagGroup_entered _

theorem group_entered : s.group cs = s.entered (s.bare.group cs) := by
  simp only [group, show s.bare.flags = s.flags from rfl]
  split
  · exact s.markedGroup_entered _
  · rfl

theorem group_eq : s.group cs =
    (opening s.flags s.names cs).map fun (o, rest) => (s.enter o, rest) := by
  rw [group_entered, opening]
  change _ = Except.map _ (Except.map _ (s.bare.group cs))
  cases s.bare.group cs <;> rfl

theorem bracket_eq : s.bracket cs =
    (bracketPiece s.flags cs).map fun (p, rest) => (s.push p, rest) := by
  simp only [bracket, bracketPiece]
  cases classBody s.flags _ (openClass s.flags cs).1 [] (openClass s.flags cs).2 <;> rfl

theorem escaped_eq : s.escaped cs =
    (escapedPiece s.flags cs).map fun (p, rest) => (s.push p, rest) := by
  simp only [escaped, escapedPiece]
  cases escape s.flags cs with
  | error e => rfl
  | ok q =>
    simp only [bind, Except.bind]
    cases atomPiece s.flags q.1 <;> rfl

end

end State

/-! ## Constructs that keep their meaning -/

def lowerName (name : String) : String :=
  .ofList (name.toList.map lowered)

def Opening.lowered (o : Opening) : Opening :=
  { o with names := o.names.map lowerName }

/-- Where the reader finds a piece, it finds one that covers it in the text in lower case, and stops at
the same place. -/
def KeepsPiece (read : Reader Piece) (cs lowered : List Char) : Prop :=
  ∀ p rest, read cs = .ok (p, rest) →
    ∃ p', read lowered = .ok (p', lowerSource false rest) ∧ p.Widens p'

/-- Lower case does not narrow the construct that begins with the character `c`: a group opens as before
but for the name, and a class or an escape that is not steady covers what it was before. Nothing is asked
of the other constructs. -/
def KeepsAt (f : Flags) (names : List String) (c : Char) (cs : List Char) : Prop :=
  match c with
  | '(' => ∀ o rest, opening f names cs = .ok (o, rest) →
      opening f (names.map lowerName) (lowerSource false cs) = .ok (o.lowered, lowerSource false rest)
  | '[' => KeepsPiece (bracketPiece f) cs (lowerSource false cs)
  | '\\' => isSteadyEscape f cs = false → KeepsPiece (escapedPiece f) cs (lowerSource true cs)
  | _ => True

theorem keepsPiece_of_isSteadyEscape {f : Flags} {cs : List Char} (h : isSteadyEscape f cs = true) :
    KeepsPiece (escapedPiece f) cs (lowerSource true cs) := by
  cases cs with
  | nil => cases h
  | cons c cs =>
    obtain ⟨p, hwidens, hread⟩ := escapedPiece_of_isSteadyEscape h
    intro p' rest hp
    rw [hread cs h] at hp
    cases hp
    exact ⟨p, hread _ (isSteadyEscape_lowerSource h), hwidens⟩

/-- Reading a source, the parser comes to a state and has the characters left. -/
inductive ComesTo (source : List Char) : State → List Char → Prop
  | start : ComesTo source (.start {}) source
  | step {s s' : State} {cs after rest : List Char} {c : Char} (h : ComesTo source s cs)
      (hskip : s.flags.skip cs = c :: after) (hstep : s.step c after = .ok (s', rest)) :
      ComesTo source s' rest

/-- Lower case narrows none of the constructs that the source is read as. -/
def Keeps (source : List Char) : Prop :=
  ∀ s cs c after, ComesTo source s cs → s.flags.skip cs = c :: after →
    KeepsAt s.flags s.names c after

/-! ## States side by side -/

structure Group.Widens (g g' : Group) : Prop where
  items : List.Forall₂ (Option.Rel Piece.Widens) g.items g'.items
  branches : List.Forall₂ Piece.Widens g.branches g'.branches
  flags : g'.flags = g.flags
  captures : g'.captures = g.captures

/-- The second state is that of the parser in the source in lower case. -/
structure State.Widens (s s' : State) : Prop where
  items : List.Forall₂ (Option.Rel Piece.Widens) s.items s'.items
  branches : List.Forall₂ Piece.Widens s.branches s'.branches
  flags : s'.flags = s.flags
  groups : List.Forall₂ Group.Widens s.groups s'.groups
  names : s'.names = s.names.map lowerName

namespace State.Widens

variable {s s' t : State} {cs rest : List Char}

theorem piece (h : s.Widens s') : s.piece.Widens s'.piece :=
  choicePiece_widens (sequencePiece_widens h.items) h.branches

theorem push (h : s.Widens s') {p p' : Piece} (hp : p.Widens p') :
    (s.push p).Widens (s'.push p') :=
  { h with items := .cons (.some hp) h.items }

theorem branch (h : s.Widens s') :
    State.Widens { s with items := [], branches := sequencePiece s.items :: s.branches }
      { s' with items := [], branches := sequencePiece s'.items :: s'.branches } :=
  { h with items := .nil, branches := .cons (sequencePiece_widens h.items) h.branches }

theorem enter (h : s.Widens s') (o : Opening) : (s.enter o).Widens (s'.enter o.lowered) := by
  obtain ⟨own, flags, names⟩ := o
  cases own with
  | some captures => exact ⟨.nil, .nil, rfl, .cons ⟨h.items, h.branches, h.flags, rfl⟩ h.groups, rfl⟩
  | none => exact ⟨.cons .none h.items, h.branches, rfl, h.groups, rfl⟩

theorem closeGroup (h : s.Widens s') (hclose : s.closeGroup = .ok t) :
    ∃ t', s'.closeGroup = .ok t' ∧ t.Widens t' := by
  have hpiece := h.piece
  have hgroups := h.groups
  unfold State.closeGroup at hclose ⊢
  cases hg : s.groups with
  | nil => rw [hg] at hclose; cases hclose
  | cons g gs =>
    rw [hg] at hclose hgroups
    cases hclose
    cases hg' : s'.groups with
    | nil => rw [hg'] at hgroups; cases hgroups
    | cons g' gs' =>
      rw [hg'] at hgroups
      obtain ⟨hfirst, hrest⟩ := List.forall₂_cons.mp hgroups
      have hclosed : Piece.Widens (s.piece.grouped g.captures) (s'.piece.grouped g'.captures) :=
        hfirst.captures ▸ hpiece.grouped g.captures
      exact ⟨_, rfl, .cons (.some hclosed) hfirst.items, hfirst.branches, hfirst.flags, hrest, h.names⟩

theorem repeatLast (h : s.Widens s') {min : Nat} {max : Option Nat}
    (hrep : s.repeatLast min max = .ok t) :
    ∃ t', s'.repeatLast min max = .ok t' ∧ t.Widens t' := by
  have hitems := h.items
  unfold State.repeatLast at hrep ⊢
  split at hrep
  · rename_i p items hlast
    cases hrep
    rw [hlast] at hitems
    cases hlast' : s'.items with
    | nil => rw [hlast'] at hitems; cases hitems
    | cons item items' =>
      rw [hlast'] at hitems
      obtain ⟨hfirst, hrest⟩ := List.forall₂_cons.mp hitems
      cases hfirst with
      | some hp => exact ⟨_, rfl, { h with items := .cons (.some (hp.rep min max)) hrest }⟩
  · cases hrep

theorem group (h : s.Widens s') (hkeeps : KeepsAt s.flags s.names '(' cs)
    (hgroup : s.group cs = .ok (t, rest)) :
    ∃ t', s'.group (lowerSource false cs) = .ok (t', lowerSource false rest) ∧ t.Widens t' := by
  rw [State.group_eq] at hgroup
  obtain ⟨⟨o, rest'⟩, ho, heq⟩ := ok_of_map hgroup
  cases heq
  refine ⟨s'.enter o.lowered, ?_, h.enter o⟩
  rw [State.group_eq, h.flags, h.names, hkeeps o rest ho]
  rfl

theorem pushPiece (h : s.Widens s') {read : Reader Piece} {lowered : List Char}
    (hkeeps : KeepsPiece read cs lowered)
    (hread : (read cs).map (fun (p, rest) => (s.push p, rest)) = .ok (t, rest)) :
    ∃ t', (read lowered).map (fun (p, rest) => (s'.push p, rest)) =
      .ok (t', lowerSource false rest) ∧ t.Widens t' := by
  obtain ⟨⟨p, rest'⟩, hp, heq⟩ := ok_of_map hread
  cases heq
  obtain ⟨p', hp', hwidens⟩ := hkeeps p rest hp
  exact ⟨s'.push p', by rw [hp']; rfl, h.push hwidens⟩

theorem bracket (h : s.Widens s') (hkeeps : KeepsAt s.flags s.names '[' cs)
    (hbracket : s.bracket cs = .ok (t, rest)) :
    ∃ t', s'.bracket (lowerSource false cs) = .ok (t', lowerSource false rest) ∧ t.Widens t' := by
  rw [State.bracket_eq] at hbracket ⊢
  rw [h.flags]
  exact h.pushPiece hkeeps hbracket

theorem escaped (h : s.Widens s') (hkeeps : KeepsAt s.flags s.names '\\' cs)
    (hescaped : s.escaped cs = .ok (t, rest)) :
    ∃ t', s'.escaped (lowerSource true cs) = .ok (t', lowerSource false rest) ∧ t.Widens t' := by
  have hpiece : KeepsPiece (escapedPiece s.flags) cs (lowerSource true cs) := by
    cases hsteady : isSteadyEscape s.flags cs with
    | true => exact keepsPiece_of_isSteadyEscape hsteady
    | false => exact hkeeps hsteady
  rw [State.escaped_eq] at hescaped ⊢
  rw [h.flags]
  exact h.pushPiece hpiece hescaped

theorem counted (h : s.Widens s') (hcounted : s.counted cs = .ok (t, rest)) :
    ∃ t', s'.counted (lowerSource false cs) = .ok (t', lowerSource false rest) ∧ t.Widens t' := by
  have hitems := h.items
  unfold State.counted at hcounted
  split at hcounted
  · rename_i p items hlast
    obtain ⟨⟨⟨min, max⟩, rest'⟩, hbounds, hcounted⟩ := ok_of_bind hcounted
    obtain ⟨t₁, hrep, hcounted⟩ := ok_of_bind hcounted
    cases hcounted
    obtain ⟨t', hrep', hwidens⟩ := h.repeatLast hrep
    refine ⟨t', ?_, hwidens⟩
    rw [hlast] at hitems
    cases hlast' : s'.items with
    | nil => rw [hlast'] at hitems; cases hitems
    | cons item items' =>
      rw [hlast'] at hitems
      cases (List.forall₂_cons.mp hitems).1 with
      | some hp =>
        simp only [State.counted, hlast', h.flags, repeatBounds_lowerSource, hbounds, lowerRest,
          Except.map, bind, Except.bind, hrep', Flags.skip_lowerSource, dropLazy_lowerSource]
        rfl
  · cases hcounted

end State.Widens

/-! ## One construct -/

theorem dotSet_covers (f : Flags) : (dotSet f).Covers (dotSet f) := by
  obtain ⟨hfeed, hreturn⟩ := isCaseless_lineBreak
  unfold dotSet
  split
  · intro c _
    have hvalid := (lowered c).valid
    have hlast : (lowered c).toNat ≤ 0x10FFFF := by
      rcases hvalid with h | ⟨-, h⟩
      · exact Nat.le_of_lt (Nat.lt_trans h (by decide))
      · exact Nat.le_of_lt_succ h
    simp [CharSet.contains, hlast]
  · split
    · refine CharSet.covers_compl fun c hc => ?_
      have hbreak : c = '\n' ∨ c = '\r' := by
        simp only [CharSet.ofRanges, List.foldl, CharSet.empty, CharSet.contains, Bool.or_eq_true,
          Bool.and_eq_true, decide_eq_true_eq] at hc
        rw [← Char.toNat_inj, ← Char.toNat_inj]
        simp only [Char.reduceToNat]
        omega
      rcases hbreak with rfl | rfl
      · exact hfeed
      · exact hreturn
    · exact CharSet.covers_compl fun c hc => CharSet.single_contains.mp hc ▸ hfeed

theorem State.Widens.look {s s' : State} (h : s.Widens s') {l : Look} (hl : l.Covers l) :
    (s.push (lookPiece l)).Widens (s'.push (lookPiece l)) :=
  h.push ⟨.look hl, Nat.le_refl _⟩

theorem State.Widens.repeated {s s' t : State} (h : s.Widens s') {min : Nat} {max : Option Nat}
    {cs rest : List Char}
    (hrep : (s.repeatLast min max).map (·, dropLazy cs) = .ok (t, rest)) :
    ∃ t', (s'.repeatLast min max).map (·, dropLazy (lowerSource false cs)) =
      .ok (t', lowerSource false rest) ∧ t.Widens t' := by
  obtain ⟨t₁, hlast, heq⟩ := ok_of_map hrep
  cases heq
  obtain ⟨t', hlast', hwidens⟩ := h.repeatLast hlast
  exact ⟨t', by rw [hlast', dropLazy_lowerSource]; rfl, hwidens⟩

/-- The characters that begin a construct other than a literal. -/
def openers : List Char :=
  ['(', ')', '|', '[', '?', '*', '+', '{', '\\', '.', '^', '$']

theorem mem_marks_of_mem_openers : ∀ c ∈ openers, c ∈ marks := by
  have hopeners : (openers.all fun c => marks.contains c) = true := by decide
  simpa using hopeners

theorem lowered_notMem_openers {c : Char} (h : c ∉ openers) : lowered c ∉ openers := by
  intro hmem
  have heq : c = lowered c := (lowered_eq_mark_iff (mem_marks_of_mem_openers _ hmem)).mp rfl
  exact h (heq ▸ hmem)

theorem State.step_literal (s : State) {c : Char} (h : c ∉ openers) (cs : List Char) :
    s.step c cs = .ok (s.push (literalPiece s.flags c), cs) := by
  unfold step
  split <;> first | rfl | exact absurd (by decide) h

/-- Side by side, the parser reads a construct in the source and in the source in lower case. -/
theorem State.Widens.step {s s' t : State} (h : s.Widens s') {c : Char} {cs rest : List Char}
    (hkeeps : KeepsAt s.flags s.names c cs) (hstep : s.step c cs = .ok (t, rest)) :
    ∃ t', s'.step (lowered c) (lowerSource (c == '\\') cs) = .ok (t', lowerSource false rest) ∧
      t.Widens t' := by
  by_cases hopener : c ∈ openers
  · rw [lowered_mark (mem_marks_of_mem_openers c hopener)]
    simp only [openers, List.mem_cons, List.not_mem_nil, or_false] at hopener
    rcases hopener with rfl | rfl | rfl | rfl | rfl | rfl | rfl | rfl | rfl | rfl | rfl | rfl
    · exact h.group hkeeps hstep
    · obtain ⟨t₁, hclose, heq⟩ := ok_of_map hstep
      cases heq
      obtain ⟨t', hclose', hwidens⟩ := h.closeGroup hclose
      exact ⟨t', by simp only [State.step, hclose']; rfl, hwidens⟩
    · cases hstep
      exact ⟨_, rfl, h.branch⟩
    · exact h.bracket hkeeps hstep
    · exact h.repeated hstep
    · exact h.repeated hstep
    · exact h.repeated hstep
    · exact h.counted hstep
    · exact h.escaped hkeeps hstep
    · simp only [State.step] at hstep ⊢
      rw [h.flags]
      split at hstep
      · rename_i hunicode
        cases hstep
        exact ⟨_, if_pos hunicode, h.push ⟨.char (dotSet_covers s.flags), Nat.le_refl _⟩⟩
      · cases hstep
    · cases hstep
      refine ⟨_, rfl, ?_⟩
      rw [h.flags]
      split
      · exact h.look (Look.covers_lineStart _)
      · exact h.look Look.covers_textStart
    · cases hstep
      refine ⟨_, rfl, ?_⟩
      rw [h.flags]
      split
      · exact h.look (Look.covers_lineEnd _)
      · exact h.look Look.covers_textEnd
  · have hne : c ≠ '\\' := by rintro rfl; exact hopener (by decide)
    rw [s.step_literal hopener] at hstep
    cases hstep
    rw [s'.step_literal (lowered_notMem_openers hopener), beq_eq_false_iff_ne.mpr hne, h.flags]
    exact ⟨_, rfl, h.push (literalPiece_widens s.flags c)⟩

/-! ## Whole sources -/

/-- From where the parser has come to in the source, it goes on side by side to the end. -/
theorem State.Widens.run {source : List Char} (hkeeps : Keeps source) {n : Nat} {s s' t : State}
    {cs : List Char} (hcomes : ComesTo source s cs) (h : s.Widens s') (hrun : s.run n cs = .ok t) :
    ∃ t', s'.run n (lowerSource false cs) = .ok t' ∧ t.Widens t' := by
  induction n generalizing s s' cs with
  | zero =>
    cases hrun
    exact ⟨s', rfl, h⟩
  | succ n ih =>
    rw [State.run] at hrun
    rw [State.run, h.flags, Flags.skip_lowerSource]
    cases hskip : s.flags.skip cs with
    | nil =>
      rw [hskip] at hrun
      cases hrun
      exact ⟨s', rfl, h⟩
    | cons c after =>
      rw [hskip] at hrun
      obtain ⟨⟨t₁, rest⟩, hstep, hrun⟩ := ok_of_bind hrun
      obtain ⟨t', hstep', hwidens⟩ := h.step (hkeeps s cs c after hcomes hskip) hstep
      obtain ⟨t'', hrun', hwidens'⟩ := ih (.step hcomes hskip hstep) hwidens hrun
      refine ⟨t'', ?_, hwidens'⟩
      simp only [lowerSource_cons, hstep', bind, Except.bind]
      exact hrun'

theorem State.complete_eq_ok_iff {s : State} {p : Piece} :
    s.complete = .ok p ↔ s.groups = [] ∧ s.piece = p := by
  unfold complete
  cases s.groups <;> simp

theorem State.Widens.complete {s s' : State} (h : s.Widens s') {p : Piece}
    (hcomplete : s.complete = .ok p) : ∃ p', s'.complete = .ok p' ∧ p.Widens p' := by
  obtain ⟨hgroups, rfl⟩ := State.complete_eq_ok_iff.mp hcomplete
  have hgroups' := h.groups
  rw [hgroups, List.forall₂_nil_left_iff] at hgroups'
  exact ⟨s'.piece, State.complete_eq_ok_iff.mpr ⟨hgroups', rfl⟩, h.piece⟩

theorem parsePiece_lowerSource {source : List Char} (hkeeps : Keeps source) {p : Piece}
    (hpiece : parsePiece {} source = .ok p) :
    ∃ p', parsePiece {} (lowerSource false source) = .ok p' ∧ p.Widens p' := by
  obtain ⟨s, hrun, hcomplete⟩ := ok_of_bind hpiece
  have hstart : (State.start {}).Widens (State.start {}) := ⟨.nil, .nil, rfl, .nil, rfl⟩
  obtain ⟨s', hrun', hwidens⟩ := hstart.run hkeeps .start hrun
  obtain ⟨p', hcomplete', hwidens'⟩ := hwidens.complete hcomplete
  refine ⟨p', ?_, hwidens'⟩
  rw [parsePiece, length_lowerSource, hrun']
  exact hcomplete'

theorem parseChars_lowerSource {source : List Char} (hkeeps : Keeps source)
    (hroom : parseChars {} (lowerSource false source) ≠ .error .tooLarge) {r : Regex}
    (hparse : parseChars {} source = .ok r) :
    ∃ r', parseChars {} (lowerSource false source) = .ok r' ∧ r.Widens r' := by
  obtain ⟨p, hpiece, haccept⟩ := ok_of_bind hparse
  obtain ⟨hdepth, -, rfl⟩ := (accept_eq_ok_iff p r).mp haccept
  obtain ⟨p', hpiece', hwidens⟩ := parsePiece_lowerSource hkeeps hpiece
  have haccept' : parseChars {} (lowerSource false source) = p'.accept := by
    rw [parseChars, hpiece']
    rfl
  rw [haccept'] at hroom ⊢
  have hroom' : HasRoom p'.accept :=
    ⟨accept_ne_nestedTooDeeply (Nat.le_trans hwidens.depth hdepth), hroom⟩
  exact ⟨p'.regex, hroom'.accept, hwidens.regex⟩

/-! ## Between anchors -/

def lowerPattern (source : String) : String :=
  .ofList (Flagged.lowerPatternFrom false source.toList)

def anchored (source : String) : List Char :=
  ("^(?:" ++ source ++ ")$").toList

theorem lowerSource_append_marks {t : List Char} (ht : ∀ c ∈ t, c ∈ marks ∧ c ≠ '\\')
    (cs : List Char) (escaped : Bool) :
    lowerSource escaped (cs ++ t) = lowerSource escaped cs ++ t := by
  have hmarks : ∀ escaped, lowerSource escaped t = t := by
    induction t with
    | nil => exact fun _ => rfl
    | cons c t ih =>
      obtain ⟨⟨hmark, hne⟩, hrest⟩ := List.forall_mem_cons.mp ht
      intro escaped
      cases escaped with
      | true => rw [lowerSource_escaped, ih hrest]
      | false => rw [lowerSource_mark hmark hne, ih hrest]
  induction cs generalizing escaped with
  | nil => exact hmarks escaped
  | cons c cs ih => cases escaped <;> simp [lowerSource, ih]

theorem anchored_lowerPattern {source : String} (h : '\u0130' ∉ source.toList) :
    anchored (lowerPattern source) = lowerSource false (anchored source) := by
  have htext : ∀ source : String, anchored source =
      '^' :: '(' :: '?' :: ':' :: (source.toList ++ [')', '$']) := by
    intro source
    simp [anchored]
  rw [htext, htext, lowerPattern, String.toList_ofList, lowerPatternFrom_eq h]
  rw [lowerSource_mark (by decide) (by decide), lowerSource_mark (by decide) (by decide),
    lowerSource_mark (by decide) (by decide), lowerSource_mark (by decide) (by decide),
    lowerSource_append_marks (by simp [marks])]

/-- A source that lower case does not narrow: it is without the letter that becomes two, none of its
constructs is narrowed, and there is room for the expression. -/
structure LowersSoundly (source : String) : Prop where
  dotless : '\u0130' ∉ source.toList
  keeps : Keeps (anchored source)
  room : parseWhole (lowerPattern source) ≠ .error .tooLarge

theorem LowersSoundly.compiles {source : String} (h : LowersSoundly source) {r : Regex}
    (hr : compileWhole source = some r) :
    ∃ r', compileWhole (lowerPattern source) = some r' ∧ r.Widens r' := by
  have hparse : parseChars {} (anchored source) = .ok r := by
    unfold compileWhole at hr
    cases hwhole : parseWhole source with
    | error e => rw [hwhole] at hr; cases hr
    | ok r₁ => rw [hwhole] at hr; cases hr; exact hwhole
  have hroom : parseChars {} (lowerSource false (anchored source)) ≠ .error .tooLarge :=
    anchored_lowerPattern h.dotless ▸ h.room
  obtain ⟨r', hr', hwidens⟩ := parseChars_lowerSource h.keeps hroom hparse
  rw [← anchored_lowerPattern h.dotless] at hr'
  have hwhole : parseWhole (lowerPattern source) = .ok r' := hr'
  exact ⟨r', by rw [compileWhole, hwhole]; rfl, hwidens⟩

/-- The texts that a source matches are matched in lower case by the source in lower case. -/
theorem LowersSoundly.matches {source : String} (h : LowersSoundly source) {text text' : String}
    (htext : text'.toList = text.toList.map lowered)
    (hmatch : (compileWhole source).any (·.isMatch text) = true) :
    (compileWhole (lowerPattern source)).any (·.isMatch text') = true := by
  cases hr : compileWhole source with
  | none => rw [hr] at hmatch; cases hmatch
  | some r =>
    rw [hr] at hmatch
    obtain ⟨r', hr', hwidens⟩ := h.compiles hr
    rw [hr']
    exact hwidens.isMatch htext hmatch

end Regex
end RequestMatching
