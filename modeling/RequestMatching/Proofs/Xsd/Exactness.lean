import RequestMatching.Proofs.Xsd.Parts

/-!
# Content is matched exactly

Content is matched from left to right without going back, and every part takes as much as it can. For
content models in which no name occurs twice this is exact where it can be told when to stop: in a
group with one round at most, in one where a few rounds do wherever more would (one is enough, or a
round may take nothing), and in one whose rounds are told apart by names. Otherwise a round may take
what the next one needs.
-/

namespace RequestMatching

namespace Xsd

/-! ## Where to stop -/

/-- Whether it can be told in a group where to stop: it has one round at most, or it does not matter
where rounds end, or they are told `apart` by names. The group may be followed by words of its own,
`again`, and so may the items of a round where it does not matter where the round ends. -/
def Occurs.isDetermined (o : Occurs) (again empties apart : Bool) (items : Bool → Bool) : Bool :=
  (!again || o.isGapless empties) &&
    ((if o.max.all (1 < ·) then o.isLoose empties && items true else items again) || apart && items false)

namespace Particle

mutual

/-- Whether it can be told everywhere in a particle where to stop, if it may be followed by words of
its own, `again`, or is not. -/
def isDetermined (again : Bool) : Particle → Bool
  | .element _ _ o | .reference _ o => !again || o.isGapless false
  | .sequence items o =>
    o.isDetermined again (allEmptiable items)
      ((itemNames items).all fun n => !(sequenceCanStartWith n items && sequenceCanGoOnWith n items))
      fun again => sequenceIsDetermined again items
  | .choice items o =>
    o.isDetermined again (anyEmptiable items)
      ((itemNames items).all fun n => !(anyCanStartWith n items &&
        (anyCanGoOnWith n items || (anyEmptiable items && anyCanStartWith n items))))
      fun again => eachIsDetermined again items
  | .all _ _ => false

def sequenceIsDetermined (again : Bool) : List Particle → Bool
  | [] => true
  | p :: rest =>
    isDetermined (again && allEmptiable rest) p && sequenceIsDetermined (again && isEmptiable p) rest

def eachIsDetermined (again : Bool) : List Particle → Bool
  | [] => true
  | p :: rest => isDetermined again p && eachIsDetermined again rest

end

/-- Up to five rounds of `a+ | b`. -/
example : isDetermined false (.choice [.element "a" .any ⟨1, none⟩, .element "b" .any ⟨1, some 1⟩]
    ⟨0, some 5⟩) = true := by
  decide

/-- Two to five rounds of `a?, b`. -/
example : isDetermined false (.sequence [.element "a" .any ⟨0, some 1⟩, .element "b" .any ⟨1, some 1⟩]
    ⟨2, some 5⟩) = true := by
  decide

/-- In two rounds of `a{1,2}` the first can take what the second needs. -/
example : isDetermined false (.sequence [.element "a" .any ⟨1, some 2⟩] ⟨2, some 2⟩) = false := by
  decide

end Particle

variable {s : Schema} {valid : Validity} {path : String} {again : Bool} {k : Language XmlElement}

/-! ## Elements -/

section
variable {takes : XmlElement → Prop} {name : String} {type : ElementType} {o : Occurs}
  (hname : ∀ e, takes e → e.tag.name.part = name)

theorem Part.Meets.next {ho : o.InOrder} (h : ((Part.letter takes name hname).rounds o ho).Meets again k)
    (hgapless : again = true → o.isGapless false = true) {count : Nat} (hcount : o.Allows count)
    (hroom : o.HasRoom count) {e : XmlElement} {w : List XmlElement} (hw : e :: w ∈ k)
    (he : e.tag.name.part = name) :
    e :: w ∈ single takes * o.remaining (single takes) k (count + 1) := by
  have hmem : e.tag.name.part ∈ [name] := he ▸ .head _
  cases again with
  | false =>
    have hgoes := (h e w hw hmem).2
    simp [Part.rounds, Part.letter, Occurs.isOpen, Occurs.max_ne_min hcount hroom, he] at hgoes
  | true =>
    obtain ⟨v, h⟩ := h
    have hround := (Occurs.powers_sub_one_mul (h.restart hw hmem)).2
    exact mem_mul_mono (fun _ h => h) (fun _ => h.mem_remaining (hgapless rfl) hcount hroom)
      (mem_mul_of_sub_one hround)

theorem takeNamed_remaining {ho : o.InOrder} (hgapless : again = true → o.isGapless false = true)
    (htakes : ∀ e, takes e ↔
      isNamed s.targetNamespace e name = true ∧ valid e type (path ++ "/" ++ name) = .ok ())
    (h : ((Part.letter takes name hname).rounds o ho).Meets again k) :
    ∀ {w : List XmlElement} {count : Nat}, w ∈ o.remaining (single takes) k count →
      ∃ rest ∈ k, takeNamed s.targetNamespace valid name type o path count w = .ok rest
  | [], count, hw => by
    obtain ⟨hcount, hk⟩ := (Occurs.remaining_cases hw).resolve_right
      fun h => nil_notMem_single_mul h.2
    refine ⟨[], hk, ?_⟩
    rw [takeNamed, if_neg (Nat.not_lt.mpr hcount.1)]
  | e :: w, count, hw => by
    by_cases hmore : o.HasRoom count ∧ isNamed s.targetNamespace e name = true
    · obtain ⟨hroom, hnamed⟩ := hmore
      have hnext : e :: w ∈ single takes * o.remaining (single takes) k (count + 1) := by
        rcases Occurs.remaining_cases hw with ⟨hcount, hk⟩ | ⟨-, hnext⟩
        · exact h.next hname hgapless hcount hroom hk (isNamed_name hnamed)
        · exact hnext
      obtain ⟨he, hw⟩ := cons_mem_single_mul.mp hnext
      obtain ⟨rest, hrest, hrun⟩ := takeNamed_remaining hgapless htakes h hw
      refine ⟨rest, hrest, ?_⟩
      rw [takeNamed, if_pos (by rw [max_all_iff.mpr hroom, hnamed]; rfl), ((htakes e).mp he).2]
      exact hrun
    · obtain ⟨hcount, hk⟩ := (Occurs.remaining_cases hw).resolve_right
        fun ⟨hroom, hnext⟩ => hmore ⟨hroom, ((htakes e).mp (cons_mem_single_mul.mp hnext).1).1⟩
      refine ⟨e :: w, hk, ?_⟩
      rw [takeNamed, if_neg, if_neg (Nat.not_lt.mpr hcount.1)]
      intro hnext
      rw [Bool.and_eq_true, max_all_iff] at hnext
      exact hmore hnext

theorem takeNamed_continues {ho : o.InOrder} (hgapless : again = true → o.isGapless false = true)
    (htakes : ∀ e, takes e ↔
      isNamed s.targetNamespace e name = true ∧ valid e type (path ++ "/" ++ name) = .ok ())
    (h : ((Part.letter takes name hname).rounds o ho).Meets again k) :
    Continues (takeNamed s.targetNamespace valid name type o path 0) (o.powers (single takes)) k := by
  intro w hw
  rw [Occurs.powers_mul] at hw
  obtain ⟨rest, hrest, hrun⟩ := takeNamed_remaining hname hgapless htakes h hw
  refine ⟨rest, hrest, hrun, fun hsome => ?_⟩
  obtain ⟨hroom, hsome⟩ := Occurs.powers_sub_one_mul hsome
  cases w with
  | nil => exact absurd hsome nil_notMem_sub_one_mul
  | cons e w =>
    have he := (htakes e).mp (cons_mem_single_mul.mp (mem_mul_of_sub_one hsome)).1
    rw [takeNamed, if_pos (by rw [max_all_iff.mpr hroom, he.1]; rfl), he.2] at hrun
    obtain ⟨taken, hsplit, -⟩ := takeNamed_sound hroom hrun
    rw [← hsplit, List.length_cons, List.length_append]
    omega

end

/-! ## Groups -/

theorem Part.Meets.rounds_continue {b : Part} {o : Occurs} {ho : o.InOrder} {again : Bool}
    {k : Language XmlElement} {items : Bool → Bool}
    {once : List XmlElement → Except String (List XmlElement)}
    (h : (b.rounds o ho).Meets again k) (htakes : TakesOnly once b.words)
    (hdet : o.isDetermined again b.empties b.isApart items = true)
    (hbody : ∀ {again k}, items again = true → b.Meets again k → Continues once b.words k) :
    Continues (fun cs => repeated o once (cs.length + 1) 0 cs) (o.powers b.words) k := by
  rw [Occurs.isDetermined, Bool.and_eq_true, Bool.or_eq_true, Bool.or_eq_true, Bool.and_eq_true,
    Bool.not_eq_true'] at hdet
  obtain ⟨hgapless, hkind⟩ := hdet
  refine Xsd.rounds_continue htakes (fun {count} hroom => ?_) fun hcount hroom w hw =>
    h.done (fun hagain => hgapless.resolve_left (by simp [hagain])) hcount hroom hw
  rcases hkind with hitems | ⟨hapart, hitems⟩
  · split at hitems
    case isTrue hmany =>
      obtain ⟨hloose, hitems⟩ := (Bool.and_eq_true _ _).mp hitems
      obtain ⟨v, h⟩ := h.restarts hloose (max_all_iff.mp hmany)
      exact hbody hitems ⟨_, h.inner (loose_of_isLoose hloose) hroom⟩
    case isFalse hmany =>
      rw [max_all_iff] at hmany
      push Not at hmany
      obtain ⟨most, hmax, hle⟩ := hmany
      have hlt := hroom most hmax
      obtain ⟨rfl, rfl⟩ : count = 0 ∧ most = 1 := by omega
      rw [Nat.zero_add, ho.remaining_last hmax]
      exact hbody hitems (h.inner hmax)
  · exact hbody hitems (h.apart hapart)

theorem matchChoice_eq {name : String} {p : Particle} {cs : List XmlElement} :
    ∀ {items : List Particle}, (Particle.itemNames items).Nodup → p ∈ items →
      p.canStartWith name = true → matchChoice s valid path name items cs = matchParticle s valid path p cs
  | q :: rest, hnames, hp, hstart => by
    obtain ⟨-, hrest, hdisjoint⟩ := List.nodup_append'.mp hnames
    rw [matchChoice]
    cases hp with
    | head => rw [if_pos hstart]
    | tail _ hp =>
      rw [if_neg, matchChoice_eq hrest hp hstart]
      intro hfirst
      exact hdisjoint (Particle.mem_names_of_canStartWith hfirst)
        (Particle.mem_itemNames_of_any (Particle.anyCanStartWith_of hstart hp))

section
variable {items : List Particle} {h : Particle.ItemsInOrder items}

theorem chosen_first (hnames : (Particle.itemNames items).Nodup)
    (heach : ∀ p ∈ items,
      Continues (matchParticle s valid path p) (p.language (.ofSchema s valid path)) k)
    {w : List XmlElement} (hw : w ∈ ((Part.oneOf s valid path items h).words - 1) * k) :
    ∃ rest ∈ k, chosen s valid path items w = .ok rest ∧ rest.length < w.length := by
  cases w with
  | nil => exact absurd hw nil_notMem_sub_one_mul
  | cons e w =>
    obtain ⟨u, v, hu, hv, hsplit⟩ := cons_mem_sub_one_mul.mp hw
    obtain ⟨p, hp, hu⟩ := Particle.mem_sum_languages.mp hu
    have hstart := Particle.canStartWith_of_mem Letters.ofSchema_bear (h.of_mem hp) hu
    have hround : e :: w ∈ (p.language (.ofSchema s valid path) - 1) * k :=
      cons_mem_sub_one_mul.mpr ⟨u, v, hu, hv, hsplit⟩
    obtain ⟨rest, hrest, hrun, hless⟩ := heach p hp (e :: w) (mem_mul_of_sub_one hround)
    refine ⟨rest, hrest, ?_, hless hround⟩
    rw [chosen, nextName?]
    dsimp only
    rw [if_pos (Particle.anyCanStartWith_of hstart hp), matchChoice_eq hnames hp hstart, hrun]

theorem chosen_continues (hmeets : (Part.oneOf s valid path items h).Meets again k)
    (hnames : (Particle.itemNames items).Nodup)
    (heach : ∀ p ∈ items,
      Continues (matchParticle s valid path p) (p.language (.ofSchema s valid path)) k) :
    Continues (chosen s valid path items) (Part.oneOf s valid path items h).words k := by
  intro w hw
  by_cases hsome : w ∈ ((Part.oneOf s valid path items h).words - 1) * k
  · obtain ⟨rest, hrest, hrun, hless⟩ := chosen_first hnames heach hsome
    exact ⟨rest, hrest, hrun, fun _ => hless⟩
  -- Some alternative stands for nothing, and none can start with what comes next.
  obtain ⟨hnil, hk⟩ := (mem_mul_cases hw).resolve_left hsome
  have hempty : Particle.anyEmptiable items = true :=
    (Particle.anyEmptiable_iff h).mpr (mem_sum.mp hnil)
  have hnone : noChoice items w path = .ok w := if_pos hempty
  refine ⟨w, hk, ?_, fun h => absurd h hsome⟩
  cases w with
  | nil => exact hnone
  | cons e w =>
    rw [chosen, nextName?]
    dsimp only
    rw [if_neg, hnone]
    intro hstart
    have hname := Particle.mem_itemNames_of_any hstart
    cases again with
    | true =>
      obtain ⟨v, hmeets⟩ := hmeets
      exact hsome (mem_mul_mono (fun _ h => h) hmeets.of_rest (hmeets.restart hk hname))
    | false =>
      have hgoes := (Bool.or_eq_false_iff.mp (hmeets e w hk hname).2).2
      simp [hempty, hstart] at hgoes

end

/-! ## Particles -/

mutual

theorem matchParticle_continues : ∀ {p : Particle} {again : Bool} {k : Language XmlElement}
    (h : p.InOrder), p.Every (·.isInline = true) → p.names.Nodup → p.isDetermined again = true →
    (Part.ofParticle s valid path p h).Meets again k →
    Continues (matchParticle s valid path p) (p.language (.ofSchema s valid path)) k
  | .element name type o, again, k, h, _, _, hdet, hmeets => by
    rw [Particle.isDetermined, Bool.or_eq_true, Bool.not_eq_true'] at hdet
    rw [Part.ofParticle_element] at hmeets
    exact takeNamed_continues _ (fun hagain => hdet.resolve_left (by simp [hagain])) (fun _ => .rfl) hmeets
  | .reference _ _, _, _, _, hinline, _, _, _ => nomatch hinline
  | .sequence items o, again, k, h, hinline, hnames, hdet, hmeets => by
    rw [Part.ofParticle_sequence] at hmeets
    have hdet : o.isDetermined again (Particle.allEmptiable items) (Part.row s valid path items h.2).isApart
      (Particle.sequenceIsDetermined · items) = true := hdet
    have hord := Particle.EveryItem.imp Particle.isOrdered_of_isInline hinline.2
    exact hmeets.rounds_continue (matchSequence_takes h.2 hord) hdet fun hitems hmeets =>
      matchSequence_continues h.2 hinline.2 hnames hitems hmeets
  | .choice items o, again, k, h, hinline, hnames, hdet, hmeets => by
    rw [Part.ofParticle_choice] at hmeets
    have hdet : o.isDetermined again (Particle.anyEmptiable items) (Part.oneOf s valid path items h.2).isApart
      (Particle.eachIsDetermined · items) = true := hdet
    have hord := Particle.EveryItem.imp Particle.isOrdered_of_isInline hinline.2
    exact hmeets.rounds_continue (chosen_takes h.2 (matchChoice_takes h.2 hord)) hdet fun hitems hmeets =>
      chosen_continues hmeets hnames (matchEach_continues h.2 hinline.2 hnames hitems hmeets)
  | .all _ _, _, _, _, hinline, _, _, _ => nomatch hinline.1

theorem matchSequence_continues : ∀ {items : List Particle} {again : Bool} {k : Language XmlElement}
    (h : Particle.ItemsInOrder items),
    Particle.EveryItem (·.isInline = true) items → (Particle.itemNames items).Nodup →
    Particle.sequenceIsDetermined again items = true →
    (Part.row s valid path items h).Meets again k →
    Continues (matchSequence s valid path items) (Part.row s valid path items h).words k
  | [], _, _, _, _, _, _, _ => Continues.nothing
  | p :: rest, again, k, h, hinline, hnames, hdet, hmeets => by
    obtain ⟨hp, hrest, hdisjoint⟩ := List.nodup_append'.mp hnames
    obtain ⟨hfirst, hothers⟩ := (Bool.and_eq_true _ _).mp hdet
    have hord := Particle.EveryItem.imp Particle.isOrdered_of_isInline hinline
    exact (matchParticle_continues h.1 hinline.1 hp hfirst (hmeets.first hdisjoint)).bind
      (matchSequence_continues h.2 hinline.2 hrest hothers (hmeets.others hdisjoint))
      (matchParticle_takes h.1 hord.1) (matchSequence_takes h.2 hord.2)

theorem matchEach_continues : ∀ {items : List Particle} {again : Bool} {k : Language XmlElement}
    (h : Particle.ItemsInOrder items),
    Particle.EveryItem (·.isInline = true) items → (Particle.itemNames items).Nodup →
    Particle.eachIsDetermined again items = true →
    (Part.oneOf s valid path items h).Meets again k →
    ∀ p ∈ items, Continues (matchParticle s valid path p) (p.language (.ofSchema s valid path)) k
  | [], _, _, _, _, _, _, _, _, hp => nomatch hp
  | p :: rest, again, k, h, hinline, hnames, hdet, hmeets, q, hq => by
    obtain ⟨hp, hrest, hdisjoint⟩ := List.nodup_append'.mp hnames
    obtain ⟨hfirst, hothers⟩ := (Bool.and_eq_true _ _).mp hdet
    cases hq with
    | head =>
      exact matchParticle_continues h.1 hinline.1 hp hfirst (hmeets.alternative hdisjoint)
    | tail _ hq =>
      exact matchEach_continues h.2 hinline.2 hrest hothers (hmeets.alternatives hdisjoint) q hq

end

/-- A particle that nothing follows takes all elements exactly if they are a word of it. -/
theorem matchParticle_eq_nil_iff {p : Particle} (h : p.InOrder)
    (hinline : p.Every (·.isInline = true)) (hnames : p.names.Nodup)
    (hdet : p.isDetermined false = true) {cs : List XmlElement} :
    matchParticle s valid path p cs = .ok [] ↔ cs ∈ p.language (.ofSchema s valid path) := by
  constructor
  · intro hrun
    obtain ⟨taken, htaken, hsplit⟩ :=
      matchParticle_takes h (hinline.imp Particle.isOrdered_of_isInline) hrun
    rwa [← hsplit, List.append_nil]
  · intro hcs
    have hmeets : (Part.ofParticle s valid path p h).Meets false 1 := fun _ _ hw => nomatch hw
    obtain ⟨rest, hrest, hrun, -⟩ :=
      matchParticle_continues h hinline hnames hdet hmeets cs (by rwa [mul_one])
    obtain rfl := (Language.mem_one rest).mp hrest
    exact hrun

/-! ## Elements of complex types -/

section
variable {e : XmlElement} {type : ComplexType} {p : Particle}

theorem checkComplex_iff (hcontent : type.content = some p)
    (hattributes : checkAttributes type.attributes path [] e.tag.attributes = .ok ())
    (htext : type.mixed = true ∨ hasText e.children = false) :
    checkComplex s valid e type path = .ok () ↔ matchParticle s valid path p e.elements = .ok [] := by
  have hplain : (!type.mixed && hasText e.children) = false := by
    rcases htext with h | h <;> simp [h]
  unfold checkComplex
  rw [hattributes, hcontent, hplain]
  dsimp only
  rw [if_neg Bool.false_ne_true]
  cases hrun : matchParticle s valid path p e.elements with
  | error m => exact ⟨(nomatch ·), (nomatch ·)⟩
  | ok left =>
    cases left with
    | nil => exact ⟨fun _ => rfl, fun _ => rfl⟩
    | cons extra left => exact ⟨(nomatch ·), (nomatch ·)⟩

/-- An element whose attributes and text are fine and whose children are each valid is accepted only
if the names of the children are a word of the content model, and if it can be told there when to
stop then all that are one are accepted. -/
theorem checkComplex_exact (hread : type.IsRead) (hcontent : type.content = some p)
    (hinline : p.Every (·.isInline = true)) (hnames : p.names.Nodup)
    (hattributes : checkAttributes type.attributes path [] e.tag.attributes = .ok ())
    (htext : type.mixed = true ∨ hasText e.children = false)
    (hchildren : ∀ child ∈ e.elements,
      (child.tag.name.space = none ∨ child.tag.name.space = s.targetNamespace) ∧
        ∀ t, (child.tag.name.part, t) ∈ p.declarations →
          valid child t (path ++ "/" ++ child.tag.name.part) = .ok ()) :
    (checkComplex s valid e type path = .ok () →
      e.elements.map (·.tag.name.part) ∈ p.language .ofNames) ∧
    (p.isDetermined false = true → e.elements.map (·.tag.name.part) ∈ p.language .ofNames →
      checkComplex s valid e type path = .ok ()) := by
  have hagrees : e.elements ∈ p.language (.ofSchema s valid path) ↔
      e.elements.map (·.tag.name.part) ∈ p.language .ofNames := by
    refine Particle.language_agrees hinline (fun child hchild d hd => ?_) e.elements hchildren
    obtain ⟨name, t⟩ := d
    refine ⟨fun h => isNamed_name h.1, fun (hname : child.tag.name.part = name) => ?_⟩
    subst hname
    refine ⟨?_, hchild.2 t hd⟩
    rw [isNamed, decide_eq_true rfl, Bool.true_and, Bool.or_eq_true, Option.isNone_iff_eq_none,
      decide_eq_true_eq]
    exact hchild.1
  rw [checkComplex_iff hcontent hattributes htext, ← hagrees]
  have hin := hread.inOrder hcontent
  refine ⟨fun hrun => ?_, fun hdet => (matchParticle_eq_nil_iff hin hinline hnames hdet).mpr⟩
  obtain ⟨taken, htaken, hsplit⟩ :=
    matchParticle_takes hin (hinline.imp Particle.isOrdered_of_isInline) hrun
  rwa [← hsplit, List.append_nil]

end

/-- Three children that are a word of `a*, b`. -/
theorem checkComplex_exact_of_three :
    let s : Schema := ⟨none, [], []⟩
    let e : XmlElement := ⟨plainTag "r" [], [plainNode "a", plainNode "a", plainNode "b"]⟩
    ["a", "a", "b"] ∈ starThenOne.language .ofNames ∧ starThenOne.isDetermined false = true ∧
      checkComplex s (checkElement s 1) e (.mk (some starThenOne) [] false) "/r" = .ok () := by
  intro s e
  have hread : complexTypeOf {} ⟨plainTag "complexType" [], [starThenOneNode]⟩ =
      .ok (.mk (some starThenOne) [] false) := by
    rfl
  have hvalid : ∀ {c n t}, (n, t) ∈ starThenOne.declarations →
      checkElement s 1 c t ("/r" ++ "/" ++ n) = .ok () := by
    intro c n t ht
    simp only [starThenOne, Particle.declarations, Particle.itemDeclarations, List.cons_append,
      List.nil_append, List.mem_cons, Prod.mk.injEq, List.not_mem_nil, or_false] at ht
    obtain ⟨-, rfl⟩ | ⟨-, rfl⟩ := ht <;> rfl
  have hspace : ∀ c ∈ e.elements, c.tag.name.space = none := by
    simp [e, XmlElement.elements, XmlElement.ofNodes, plainNode, plainTag]
  obtain ⟨hsound, hcomplete⟩ := checkComplex_exact ⟨_, _, hread⟩ rfl ⟨rfl, rfl, rfl, trivial⟩
    (by decide) (show checkAttributes [] "/r" [] e.tag.attributes = .ok () from rfl) (.inr rfl)
    fun c hc => ⟨.inl (hspace c hc), fun t ht => hvalid ht⟩
  have hword := hsound rfl
  exact ⟨hword, by decide, hcomplete (by decide) hword⟩

/-- The content model `(a{1,2}){2}`. -/
def twoRounds : Particle :=
  .sequence [.element "a" .any ⟨1, some 2⟩] ⟨2, some 2⟩

/-- Matching is not exact for all content models in which no name occurs twice: in `(a{1,2}){2}` the
first round takes both of two elements, and nothing is left for the second one. -/
theorem not_checkComplex_exact : ¬ ∀ (s : Schema) (valid : Validity) (path : String)
    (type : ComplexType) (p : Particle) (e : XmlElement), type.IsRead → type.content = some p →
    p.Every (·.isInline = true) → p.names.Nodup →
    checkAttributes type.attributes path [] e.tag.attributes = .ok () →
    (type.mixed = true ∨ hasText e.children = false) →
    (∀ child ∈ e.elements,
      (child.tag.name.space = none ∨ child.tag.name.space = s.targetNamespace) ∧
        ∀ t, (child.tag.name.part, t) ∈ p.declarations →
          valid child t (path ++ "/" ++ child.tag.name.part) = .ok ()) →
    (checkComplex s valid e type path = .ok () ↔
      e.elements.map (·.tag.name.part) ∈ p.language .ofNames) := by
  intro h
  let s : Schema := ⟨none, [], []⟩
  let e : XmlElement := ⟨plainTag "r" [], [plainNode "a", plainNode "a"]⟩
  have hread : complexTypeOf {} ⟨plainTag "complexType" [], [
      .element (plainTag "sequence" [("minOccurs", "2"), ("maxOccurs", "2")]) [
        .element (plainTag "element" [("name", "a"), ("maxOccurs", "2")]) []]]⟩ =
      .ok (.mk (some twoRounds) [] false) := by
    rfl
  have hvalid : ∀ {c n t}, (n, t) ∈ twoRounds.declarations →
      checkElement s 1 c t ("/r" ++ "/" ++ n) = .ok () := by
    intro c n t ht
    obtain rfl : t = .any := (Prod.mk.inj (List.mem_singleton.mp ht)).2
    rfl
  have hspace : ∀ c ∈ e.elements, c.tag.name.space = none := by
    simp [e, XmlElement.elements, XmlElement.ofNodes, plainNode, plainTag]
  have hexact := h s (checkElement s 1) "/r" _ twoRounds e ⟨_, _, hread⟩ rfl ⟨rfl, rfl, trivial⟩
    (by decide) rfl (.inr rfl) fun c hc => ⟨.inl (hspace c hc), fun t ht => hvalid ht⟩
  have hround : ["a"] ∈ (Particle.languages .ofNames [.element "a" .any ⟨1, some 2⟩]).prod :=
    ⟨["a"], Occurs.mem_powers_single.mpr (by simp [Occurs.Allows, Letters.ofNames]),
      [], Language.nil_mem_one, rfl⟩
  have hword : ["a", "a"] ∈ twoRounds.language .ofNames :=
    ⟨2, by simp [Occurs.Allows], pow_two (M := Language String) _ ▸ Language.append_mem_mul hround hround⟩
  exact absurd (hexact.mpr hword) (by decide)

end Xsd
end RequestMatching
