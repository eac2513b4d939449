import Mathlib.Data.List.Forall2
import Mathlib.Data.List.TakeWhile
import RequestMatching.Path.Pattern
import RequestMatching.Proofs.Pattern.Lookup
import RequestMatching.Proofs.Text.Percent
import RequestMatching.Proofs.Text.Splitting

/-!
# Routes

A route is a row of segments, each a text or a parameter. Written with a slash before each segment it is
a path pattern, and a path is on the route if it has the same number of segments, the same texts, and
something in the place of each parameter. The pattern accepts the paths on the route, or all others if
it is negated, and finds the parameters of a path in their order.
-/

namespace RequestMatching

inductive Segment where
  | literal (cs : List Char)
  | parameter (name : List Char)

namespace Segment

def written : Segment → List Char
  | literal cs => cs
  | parameter name => '{' :: (name ++ ['}'])

/-- A text is without braces, a name consists of ASCII letters and digits, underscores and hyphens. -/
inductive IsProper : Segment → Prop
  | literal {cs : List Char} (h : ∀ c ∈ cs, c ≠ '{' ∧ c ≠ '}' ∧ c ≠ '/') : IsProper (.literal cs)
  | parameter {name : List Char} (hname : name ≠ [])
      (h : ∀ c ∈ name, c.isAlphanum = true ∨ c = '_' ∨ c = '-') : IsProper (.parameter name)

def isParameter : Segment → Bool
  | literal _ => false
  | parameter _ => true

/-- A text fits itself, a parameter whatever is not empty. -/
inductive Fits : Segment → List Char → Prop
  | literal {cs : List Char} : Fits (.literal cs) cs
  | parameter {name part : List Char} (h : part ≠ []) : Fits (.parameter name) part

def joined (segments : List Segment) : List Char :=
  segments.flatMap fun s => '/' :: s.written

/-- What stands in the places of the parameters. -/
def captures : List Segment → List (List Char) → List (List Char × List Char)
  | .literal _ :: segments, _ :: parts => captures segments parts
  | .parameter name :: segments, part :: parts => (name, part) :: captures segments parts
  | _, _ => []

end Segment

/-- A row of segments with at least one parameter, and with no more of them than the router takes, which
names them by the letters before `z`. -/
structure Route where
  segments : List Segment
  proper : ∀ s ∈ segments, s.IsProper
  parametric : segments.any Segment.isParameter = true
  routable : segments.countP Segment.isParameter ≤ 25

namespace Route

def written (r : Route) : String :=
  .ofList (Segment.joined r.segments)

def pattern (r : Route) (negated optional : Bool) : PathPattern :=
  .ofValue ⟨r.written, negated, optional⟩

/-- The segments with the empty one that stands before the first slash. -/
def rooted (r : Route) : List Segment :=
  .literal [] :: r.segments

def Fits (r : Route) (path : String) : Prop :=
  List.Forall₂ Segment.Fits r.rooted (path.toList.splitOn '/')

def captures (r : Route) (path : String) : List (List Char × List Char) :=
  Segment.captures r.rooted (path.toList.splitOn '/')

end Route

/-- A text that a captured part stands for: the one with its bytes, or itself if no text has them. -/
def IsDecoded (part : List Char) (value : String) : Prop :=
  StandsFor part (Utf8.encode value) ∨
    (∀ text, ¬ StandsFor part (Utf8.encode text)) ∧ value = .ofList part

def IsParameterEntry (captured : List Char × List Char) (e : Entry) : Prop :=
  ∃ value, IsDecoded captured.2 value ∧ e = .plain (.ofList captured.1) value

/-! ## The template of a route -/

namespace Template

theorem unescape_cons {c : Char} {cs : List Char} (h : c = '{' ∨ c = '}' → cs.head? ≠ some c) :
    unescape (c :: cs) = (c, false) :: unescape cs := by
  rw [unescape]
  · rintro rest rfl rfl
    exact h (.inl rfl) rfl
  · rintro rest rfl rfl
    exact h (.inr rfl) rfl

def single (cs : List Char) : List (Char × Bool) :=
  cs.map fun c => (c, false)

theorem single_append (cs ds : List Char) : single (cs ++ ds) = single cs ++ single ds :=
  List.map_append

theorem unescape_append {cs : List Char} (h : ∀ c ∈ cs, c ≠ '{' ∧ c ≠ '}') (rest : List Char) :
    unescape (cs ++ rest) = single cs ++ unescape rest := by
  induction cs with
  | nil => rfl
  | cons c cs ih =>
    obtain ⟨⟨hopen, hclose⟩, hcs⟩ := List.forall_mem_cons.mp h
    rw [List.cons_append, unescape_cons (fun hc => (hc.elim hopen hclose).elim), ih hcs]
    rfl

end Template

namespace Segment

variable {segments : List Segment}

@[simp] theorem joined_cons (s : Segment) (segments : List Segment) :
    joined (s :: segments) = '/' :: (s.written ++ joined segments) :=
  List.flatMap_cons

theorem joined_head (segments : List Segment) {c : Char} (hc : c ≠ '/') :
    (joined segments).head? ≠ some c := by
  cases segments with
  | nil => exact nofun
  | cons s segments =>
    rw [joined_cons, List.head?_cons]
    exact fun h => hc (Option.some.inj h).symm

theorem ne_of_isNameChar {c : Char} (h : c.isAlphanum = true ∨ c = '_' ∨ c = '-') :
    c ≠ '{' ∧ c ≠ '}' ∧ c ≠ '*' ∧ c ≠ '/' := by
  refine ⟨?_, ?_, ?_, ?_⟩ <;> rintro rfl <;> revert h <;> decide

theorem IsProper.slash_notMem {s : Segment} (h : s.IsProper) : '/' ∉ s.written := by
  cases h with
  | literal h => exact fun hmem => (h _ hmem).2.2 rfl
  | parameter _ h =>
    simp only [written, List.mem_cons, List.mem_append, List.not_mem_nil, or_false, not_or]
    exact ⟨by decide, fun hmem => (ne_of_isNameChar (h _ hmem)).2.2.2 rfl, by decide⟩

theorem unescape_joined (h : ∀ s ∈ segments, s.IsProper) :
    Template.unescape (joined segments) = Template.single (joined segments) := by
  induction segments with
  | nil => rfl
  | cons s segments ih =>
    obtain ⟨hs, hsegments⟩ := List.forall_mem_cons.mp h
    have hslash : '/' = '{' ∨ '/' = '}' → (s.written ++ joined segments).head? ≠ some '/' :=
      fun hc => absurd hc (by decide)
    rw [joined_cons, Template.unescape_cons hslash]
    cases hs with
    | literal hcs =>
      rw [written, Template.unescape_append (fun c hc => ⟨(hcs c hc).1, (hcs c hc).2.1⟩), ih hsegments,
        ← Template.single_append]
      rfl
    | @parameter name hne hname =>
      have hbraces : ∀ c ∈ name, c ≠ '{' ∧ c ≠ '}' := fun c hc =>
        ⟨(ne_of_isNameChar (hname c hc)).1, (ne_of_isNameChar (hname c hc)).2.1⟩
      have hopen : (name ++ '}' :: joined segments).head? ≠ some '{' := by
        obtain ⟨c, cs, rfl⟩ := List.exists_cons_of_ne_nil hne
        exact fun hc => (hbraces c (List.mem_cons_self ..)).1 (Option.some.inj hc)
      have hclose := joined_head segments (c := '}') (by decide)
      rw [written, List.cons_append, List.append_assoc, List.singleton_append,
        Template.unescape_cons fun _ => hopen, Template.unescape_append hbraces,
        Template.unescape_cons fun _ => hclose, ih hsegments]
      simp [Template.single]

end Segment

namespace Template

theorem read_text {cs : List Char} (h : ∀ c ∈ cs, c ≠ '{' ∧ c ≠ '}') (acc : List Char)
    (rest : List (Char × Bool)) :
    read (.text acc) (single cs ++ rest) = read (.text (cs.reverse ++ acc)) rest := by
  induction cs generalizing acc with
  | nil => rfl
  | cons c cs ih =>
    obtain ⟨⟨hopen, hclose⟩, hcs⟩ := List.forall_mem_cons.mp h
    have hstep : read (.text acc) (single (c :: cs) ++ rest) =
        read (.text (c :: acc)) (single cs ++ rest) := by
      simp [single, read, hopen, hclose]
    rw [hstep, ih hcs, List.reverse_cons, List.append_assoc, List.singleton_append]

theorem read_name {cs : List Char} (h : ∀ c ∈ cs, c.isAlphanum = true ∨ c = '_' ∨ c = '-')
    (acc : List Char) (rest : List (Char × Bool)) :
    read (.name acc) (single cs ++ ('}', false) :: rest) =
      read (.suffix (.ofList (acc.reverse ++ cs)) []) rest := by
  induction cs generalizing acc with
  | nil => simp [single, read]
  | cons c cs ih =>
    obtain ⟨hc, hcs⟩ := List.forall_mem_cons.mp h
    obtain ⟨-, hclose, hstar, hslash⟩ := Segment.ne_of_isNameChar hc
    have hstep : read (.name acc) (single (c :: cs) ++ ('}', false) :: rest) =
        read (.name (c :: acc)) (single cs ++ ('}', false) :: rest) := by
      simp [single, read, hclose, hstar, hslash]
    rw [hstep, ih hcs, List.reverse_cons, List.append_assoc, List.singleton_append]

theorem read_parameter {name : List Char} (hne : name ≠ [])
    (h : ∀ c ∈ name, c.isAlphanum = true ∨ c = '_' ∨ c = '-') (acc : List Char)
    (rest : List (Char × Bool)) :
    read (.text acc) (('{', false) :: (single name ++ ('}', false) :: rest)) =
      (read (.suffix (.ofList name) []) rest).map (withText acc) := by
  obtain ⟨c, cs, rfl⟩ := List.exists_cons_of_ne_nil hne
  obtain ⟨hc, hcs⟩ := List.forall_mem_cons.mp h
  obtain ⟨-, hclose, hstar, -⟩ := Segment.ne_of_isNameChar hc
  have hopening : read .opening (single (c :: cs) ++ ('}', false) :: rest) =
      read (.suffix (.ofList (c :: cs)) []) rest := by
    rw [← List.singleton_append, ← List.reverse_singleton, ← read_name hcs]
    simp [single, read, hclose, hstar]
  rw [← hopening]
  simp [read]

/-- The pieces of segments after a text, of which the characters are in reverse. -/
def piecesAfter (acc : List Char) : List Segment → Template
  | [] => withText acc []
  | .literal cs :: segments => piecesAfter (cs.reverse ++ '/' :: acc) segments
  | .parameter name :: segments =>
    withText ('/' :: acc) (.parameter (.ofList name) [] :: piecesAfter [] segments)

theorem read_suffix (name : String) (segments : List Segment) :
    read (.suffix name []) (single (Segment.joined segments)) =
      (read (.text []) (single (Segment.joined segments))).map (.parameter name [] :: ·) := by
  cases segments with
  | nil => rfl
  | cons s segments =>
    rw [Segment.joined_cons]
    simp [single, read]

theorem read_joined {segments : List Segment} (h : ∀ s ∈ segments, s.IsProper) (acc : List Char) :
    read (.text acc) (single (Segment.joined segments)) = some (piecesAfter acc segments) := by
  induction segments generalizing acc with
  | nil => rfl
  | cons s segments ih =>
    obtain ⟨hs, hsegments⟩ := List.forall_mem_cons.mp h
    have hslash : read (.text acc) (single (Segment.joined (s :: segments))) =
        read (.text ('/' :: acc)) (single s.written ++ single (Segment.joined segments)) := by
      rw [Segment.joined_cons, ← single_append]
      simp [single, read]
    rw [hslash]
    cases hs with
    | literal hcs =>
      rw [Segment.written, read_text (fun c hc => ⟨(hcs c hc).1, (hcs c hc).2.1⟩), ih hsegments]
      rfl
    | @parameter name hne hname =>
      have hwritten : single (Segment.parameter name).written ++ single (Segment.joined segments) =
          ('{', false) :: (single name ++ ('}', false) :: single (Segment.joined segments)) := by
        simp [Segment.written, single]
      rw [hwritten, read_parameter hne hname, read_suffix, ih hsegments]
      rfl

theorem parse_written (r : Route) : parse r.written = some (piecesAfter [] r.segments) := by
  rw [parse, Route.written, String.toList_ofList, Segment.unescape_joined r.proper,
    read_joined r.proper]

/-! ## What is captured -/

theorem dropText_eq_some_iff {cs path rest : List Char} :
    dropText cs path = some rest ↔ path = cs ++ rest := by
  induction cs generalizing path with
  | nil => simp [dropText, eq_comm]
  | cons c cs ih =>
    cases path with
    | nil => simp [dropText]
    | cons d path => by_cases hc : c = d <;> simp [dropText, hc, ih, eq_comm]

theorem capture_withText {acc path : List Char} {pieces : Template}
    {xs : List (String × List Char)} : capture (withText acc pieces) path = some xs ↔
      ∃ rest, path = acc.reverse ++ rest ∧ capture pieces rest = some xs := by
  cases acc with
  | nil => simp [withText]
  | cons c acc =>
    have hwith : withText (c :: acc) pieces = .text (c :: acc).reverse :: pieces := rfl
    rw [hwith, capture]
    simp only [bind, Option.bind_eq_some_iff, dropText_eq_some_iff]

theorem beforeSuffix_nil (segment : List Char) : beforeSuffix [] segment = some segment := by
  simp [beforeSuffix, dropText]

theorem capture_parameter {name : String} {path : List Char} {pieces : Template}
    {xs : List (String × List Char)} : capture (.parameter name [] :: pieces) path = some xs ↔
      ∃ more, path.takeWhile (· != '/') ≠ [] ∧
        capture pieces (path.dropWhile (· != '/')) = some more ∧
          xs = (name, path.takeWhile (· != '/')) :: more := by
  rw [capture, beforeSuffix_nil]
  cases hvalue : path.takeWhile (· != '/') with
  | nil => simp
  | cons c cs => simp [Option.bind_eq_some_iff, @eq_comm _ xs]

def slashed (parts : List (List Char)) : List Char :=
  parts.flatMap fun p => '/' :: p

theorem part_of_slashed {part : List Char} (h : '/' ∉ part) (parts : List (List Char)) :
    (part ++ slashed parts).takeWhile (· != '/') = part ∧
      (part ++ slashed parts).dropWhile (· != '/') = slashed parts := by
  have hpart : ∀ c ∈ part, (c != '/') = true := fun c hc => bne_iff_ne.mpr fun he => h (he ▸ hc)
  rw [List.takeWhile_append_of_pos hpart, List.dropWhile_append_of_pos hpart]
  cases parts with
  | nil => simp [slashed]
  | cons p parts => simp [slashed]

def named (captured : List (List Char × List Char)) : List (String × List Char) :=
  captured.map fun (name, part) => (.ofList name, part)

theorem capture_piecesAfter {segments : List Segment} (h : ∀ s ∈ segments, s.IsProper)
    {acc path : List Char} {xs : List (String × List Char)} :
    capture (piecesAfter acc segments) path = some xs ↔
      ∃ parts, path = acc.reverse ++ slashed parts ∧ (∀ p ∈ parts, '/' ∉ p) ∧
        List.Forall₂ Segment.Fits segments parts ∧ xs = named (Segment.captures segments parts) := by
  -- a literal segment only makes the text in front longer, a parameter ends it
  induction segments generalizing acc path xs with
  | nil =>
    rw [piecesAfter, capture_withText]
    simp only [List.forall₂_nil_left_iff]
    constructor
    · rintro ⟨rest, rfl, hrest⟩
      cases rest with
      | nil =>
        cases hrest
        exact ⟨[], rfl, nofun, rfl, rfl⟩
      | cons c rest => cases hrest
    · rintro ⟨parts, rfl, -, rfl, rfl⟩
      exact ⟨[], rfl, rfl⟩
  | cons s segments ih =>
    obtain ⟨hs, hsegments⟩ := List.forall_mem_cons.mp h
    have hslash := hs.slash_notMem
    cases s with
    | literal cs =>
      rw [piecesAfter, ih hsegments]
      constructor
      · rintro ⟨parts, rfl, hparts, hfits, rfl⟩
        refine ⟨cs :: parts, ?_, List.forall_mem_cons.mpr ⟨hslash, hparts⟩, .cons .literal hfits, rfl⟩
        simp [slashed]
      · rintro ⟨parts, rfl, hparts, hfits, rfl⟩
        cases hfits with
        | @cons _ part _ parts hpart hfits =>
          cases hpart
          refine ⟨parts, ?_, (List.forall_mem_cons.mp hparts).2, hfits, rfl⟩
          simp [slashed]
    | parameter name =>
      rw [piecesAfter, capture_withText]
      simp only [capture_parameter, ih hsegments]
      constructor
      · rintro ⟨rest, rfl, -, hne, ⟨parts, hdrop, hparts, hfits, rfl⟩, rfl⟩
        refine ⟨rest.takeWhile (· != '/') :: parts, ?_, List.forall_mem_cons.mpr ⟨?_, hparts⟩,
          .cons (.parameter hne) hfits, rfl⟩
        · have hrest : rest.takeWhile (· != '/') ++ slashed parts = rest := by
            rw [← List.nil_append (slashed parts), ← List.reverse_nil, ← hdrop,
              List.takeWhile_append_dropWhile]
          have hslashed : slashed (rest.takeWhile (· != '/') :: parts) = '/' :: rest := by
            rw [slashed, List.flatMap_cons]
            exact congrArg ('/' :: ·) hrest
          rw [hslashed, List.reverse_cons, List.append_assoc]
          rfl
        · intro hmem
          have hne := List.mem_takeWhile_imp (p := (· != '/')) hmem
          exact bne_iff_ne.mp hne rfl
      · rintro ⟨parts, rfl, hparts, hfits, rfl⟩
        cases hfits with
        | @cons _ part _ parts hpart hfits =>
          obtain ⟨hnotMem, hparts⟩ := List.forall_mem_cons.mp hparts
          obtain ⟨htake, hdrop⟩ := part_of_slashed hnotMem parts
          cases hpart with
          | parameter hne =>
            refine ⟨part ++ slashed parts, by simp [slashed], _, ?_, ⟨parts, hdrop, hparts, hfits, rfl⟩, ?_⟩
            · rwa [htake]
            · rw [htake]
              rfl

end Template

/-! ## Routes as patterns -/

theorem IsDecoded.decodeValue (part : List Char) : IsDecoded part (PathPattern.decodeValue part) := by
  rw [PathPattern.decodeValue, Percent.decode?, String.toList_ofList]
  simp only [IsDecoded, Percent.standsFor_iff, eq_comm, ← Utf8.decode?_eq_some_iff]
  cases Utf8.decode? (Percent.bytes part) with
  | none => exact .inr ⟨fun _ => nofun, rfl⟩
  | some value => exact .inl rfl

theorem intercalate_cons (part : List Char) : ∀ parts,
    ['/'].intercalate (part :: parts) = part ++ Template.slashed parts
  | [] => by simp [Template.slashed]
  | p :: parts => by
    rw [List.intercalate_cons_cons, intercalate_cons p parts, List.append_assoc]
    rfl

theorem splitOn_slashed {parts : List (List Char)} (h : ∀ p ∈ parts, '/' ∉ p) :
    (Template.slashed parts).splitOn '/' = [] :: parts := by
  rw [← List.nil_append (Template.slashed parts), ← intercalate_cons]
  exact List.splitOn_intercalate '/' (List.forall_mem_cons.mpr ⟨List.not_mem_nil, h⟩)
    (List.cons_ne_nil _ _)

namespace Route

variable (r : Route)

theorem capture_eq_some_iff {path : String} {xs : List (String × List Char)} :
    (Template.piecesAfter [] r.segments).capture path.toList = some xs ↔
      r.Fits path ∧ xs = Template.named (r.captures path) := by
  rw [Template.capture_piecesAfter r.proper, Fits, captures, rooted]
  constructor
  · rintro ⟨parts, hpath, hparts, hfits, rfl⟩
    rw [hpath, List.reverse_nil, List.nil_append, splitOn_slashed hparts]
    exact ⟨.cons .literal hfits, rfl⟩
  · rintro ⟨hfits, rfl⟩
    -- the empty segment in front fits an empty part, so the path begins with a slash
    generalize hsplit : path.toList.splitOn '/' = split at hfits
    cases hfits with
    | @cons _ part _ parts hpart hfits =>
      cases hpart
      have hpath : path.toList = Template.slashed parts := by
        rw [← List.nil_append (Template.slashed parts), ← intercalate_cons, ← hsplit,
          List.intercalate_splitOn]
      refine ⟨parts, hpath, fun p hp => ?_, hfits, rfl⟩
      have hmem : p ∈ Text.splitChars '/' path.toList := by
        rw [Text.splitChars_eq, hsplit]
        exact List.mem_cons_of_mem _ hp
      exact Text.notMem_of_mem_splitChars hmem

theorem isParameter_written {s : Segment} (h : s.IsProper) (hs : s.isParameter = true) :
    PathPattern.isParameter s.written = true := by
  cases h with
  | literal => cases hs
  | @parameter name hne hname =>
    have hall : name.all PathPattern.isNameChar = true := by
      simpa [PathPattern.isNameChar, or_assoc] using hname
    simp [Segment.written, PathPattern.isParameter, hne, hall]

theorem hasParameter_written : PathPattern.hasParameter r.written.toList = true := by
  have hslashed : Segment.joined r.segments = Template.slashed (r.segments.map Segment.written) := by
    rw [Segment.joined, Template.slashed, List.flatMap_map]
  have hparts : ∀ p ∈ r.segments.map Segment.written, '/' ∉ p :=
    List.forall_mem_map.mpr fun s hs => (r.proper s hs).slash_notMem
  obtain ⟨s, hs, hparameter⟩ := List.any_eq_true.mp r.parametric
  rw [PathPattern.hasParameter, written, String.toList_ofList, Text.splitChars_eq, hslashed,
    splitOn_slashed hparts, Bool.and_eq_true, List.any_eq_true]
  refine ⟨?_, s.written, ?_, isParameter_written (r.proper s hs) hparameter⟩
  · cases hsegments : r.segments with
    | nil => simp [hsegments] at hs
    | cons s segments => simp [Template.slashed]
  · exact List.mem_cons_of_mem _ (List.mem_map_of_mem hs)

section
variable {r : Route} {path : String}

theorem capture_of_fits (h : r.Fits path) :
    (Template.piecesAfter [] r.segments).capture path.toList =
      some (Template.named (r.captures path)) :=
  r.capture_eq_some_iff.mpr ⟨h, rfl⟩

theorem capture_of_not_fits (h : ¬ r.Fits path) :
    (Template.piecesAfter [] r.segments).capture path.toList = none :=
  Option.eq_none_iff_forall_ne_some.mpr fun _ hxs => h (r.capture_eq_some_iff.mp hxs).1

end

theorem template_pattern (negated optional : Bool) :
    (r.pattern negated optional).template = some (Template.piecesAfter [] r.segments) := by
  rw [pattern, PathPattern.ofValue, if_pos r.hasParameter_written, Template.parse_written]

theorem pattern_not_isBlank (negated optional : Bool) :
    (r.pattern negated optional).value.isBlank = false := by
  have hhead : r.written.toList.head? = some '/' := by
    have h := r.hasParameter_written
    rw [PathPattern.hasParameter, Bool.and_eq_true, decide_eq_true_eq] at h
    exact h.1
  obtain ⟨cs, hcs⟩ := List.head?_eq_some_iff.mp hhead
  have hvalue : (r.pattern negated optional).value.value.toList = '/' :: cs := hcs
  rw [Flagged.isBlank, Text.isBlank, hvalue, List.all_cons]
  rfl

/-- A route that is written as a path pattern accepts the paths on it, or rejects just these if it is
negated. From a path on the route it lists each parameter with what stands in its place, in the order of
the route and with the percent encoding undone where that gives text, and from any other path nothing. -/
theorem pattern_follows_route (negated optional : Bool) (c : Comparator) (path : String) :
    (((r.pattern negated optional).check c path).accepted = !negated ↔ r.Fits path) ∧
    (r.Fits path → List.Forall₂ IsParameterEntry (r.captures path)
      ((r.pattern negated optional).parameters path)) ∧
    (¬ r.Fits path → (r.pattern negated optional).parameters path = []) := by
  have htemplate := r.template_pattern negated optional
  have hblank := r.pattern_not_isBlank negated optional
  have hnegated : (r.pattern negated optional).value.negated = negated := rfl
  refine ⟨?_, fun h => ?_, fun h => ?_⟩
  · have haccepted : ((r.pattern negated optional).check c path).accepted =
        (negated ^^ ((Template.piecesAfter [] r.segments).capture path.toList).isSome) := by
      simp [PathPattern.check, hblank, htemplate, hnegated, Finding.ofBool_accepted]
    rw [haccepted]
    by_cases h : r.Fits path
    · simp [capture_of_fits h, h]
    · simp [capture_of_not_fits h, h]
  · simp only [PathPattern.parameters, htemplate, capture_of_fits h, Option.getD_some, Template.named,
      MultiMap.ofPlain, List.map_map, List.forall₂_map_right_iff]
    exact List.forall₂_same.mpr fun captured _ => ⟨_, .decodeValue captured.2, rfl⟩
  · simp only [PathPattern.parameters, htemplate, capture_of_not_fits h]
    rfl

theorem pattern_follows_route_of_users : ∃ r : Route, r.written = "/users/\x7bid\x7d/orders" ∧
    r.Fits "/users/a%20b/orders" ∧
    ((r.pattern false false).check (.fresh .dataPlane) "/users/a%20b/orders").accepted = true := by
  have hproper : ∀ s ∈ [.literal "users".toList, .parameter "id".toList, .literal "orders".toList],
      Segment.IsProper s := by
    simp only [List.forall_mem_cons]
    exact ⟨.literal (by simp), .parameter (by simp) (by simp), .literal (by simp), nofun⟩
  let r : Route := ⟨_, hproper, rfl, by decide⟩
  have hfits : r.Fits "/users/a%20b/orders" :=
    .cons .literal (.cons .literal (.cons (.parameter (List.cons_ne_nil _ _)) (.cons .literal .nil)))
  exact ⟨r, rfl, hfits, (r.pattern_follows_route false false _ _).1.mpr hfits⟩

end Route
end RequestMatching
