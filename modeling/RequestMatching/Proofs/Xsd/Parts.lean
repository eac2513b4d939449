import RequestMatching.Proofs.Xsd.Continuation

/-!
# Parts of content models

A part of a content model has to leave what the rest of the model still stands for. Whether it does
depends on what may follow it: either the names there tell where its word ends, or it may be followed
by a word of its own and every place to stop at is as good.
-/

namespace RequestMatching

namespace Xsd

/-- A part of a content model: its words, the names in them, those that they can begin with, whether
there is an empty one, and the names that can stand next where a word could have ended. -/
structure Part where
  words : Language XmlElement
  names : List String
  begins : String → Bool
  empties : Bool
  goesOn : String → Bool
  named : ∀ w ∈ words, ∀ e ∈ w, e.tag.name.part ∈ names
  begun : ∀ {e w}, e :: w ∈ words → begins e.tag.name.part = true
  emptied : [] ∈ words ↔ empties = true
  carried : ∀ {name}, empties = true → begins name = true → goesOn name = true

namespace Occurs

/-- Whether a round can come where enough of them could have been, or where none was. -/
def isOpen (o : Occurs) : Bool :=
  o.max ≠ some o.min || o.min = 0

/-- Whether it does not matter how many rounds there are, as long as there are some and not too many. -/
def isLoose (o : Occurs) (empties : Bool) : Bool :=
  o.min ≤ 1 || empties

/-- Whether rounds in a row can be shared out from the left, as many as may be at a time: this never
leaves too few. -/
def isGapless (o : Occurs) (empties : Bool) : Bool :=
  o.isLoose empties || o.max.isNone || o.max = some o.min

theorem max_ne_min {o : Occurs} {count : Nat} (hcount : o.Allows count) (hroom : o.HasRoom count) :
    o.max ≠ some o.min := by
  intro h
  exact absurd (hroom o.min h) (Nat.not_lt.mpr hcount.1)

end Occurs

namespace Part

variable {b : Part} {again : Bool} {k v : Language XmlElement} {o : Occurs} {count : Nat}
  {w : List XmlElement} {ho : o.InOrder}

theorem name_mem (b : Part) {e : XmlElement} (h : e :: w ∈ (b.words - 1) * k) :
    e.tag.name.part ∈ b.names := by
  obtain ⟨u, -, hu, -⟩ := cons_mem_sub_one_mul.mp h
  exact b.named _ hu e (.head _)

/-- A part may be followed by words of its own, and it does not matter where they end: `k` is what
follows it, and `v` is what follows a word of its own there. -/
structure Restarts (b : Part) (k v : Language XmlElement) : Prop where
  of_rest : ∀ w ∈ v, w ∈ k
  of_word : ∀ w ∈ b.words * v, w ∈ k
  restart : ∀ {e w}, e :: w ∈ k → e.tag.name.part ∈ b.names → e :: w ∈ (b.words - 1) * v

/-- What can follow a part. Unless it is words of its own, `again`, a name of its own that follows it
only begins it and does not carry it on. -/
def Meets (b : Part) : Bool → Language XmlElement → Prop
  | false, k => ∀ e w, e :: w ∈ k → e.tag.name.part ∈ b.names →
      b.begins e.tag.name.part = true ∧ b.goesOn e.tag.name.part = false
  | true, k => ∃ v, b.Restarts k v

def rounds (b : Part) (o : Occurs) (ho : o.InOrder) : Part where
  words := o.powers b.words
  names := b.names
  begins := b.begins
  empties := o.min = 0 || b.empties
  goesOn name := b.goesOn name || (o.isOpen && b.begins name)
  named _ hw := forall_mem_powers b.named hw
  begun h := (exists_cons_mem_of_powers h).elim fun _ h => b.begun h
  emptied := by
    rw [Occurs.nil_mem_powers ho, b.emptied, Bool.or_eq_true, decide_eq_true_eq]
  carried := by
    intro name hempty hbegins
    rw [Bool.or_eq_true, decide_eq_true_eq] at hempty
    rcases hempty with hmin | hempty
    · simp [Occurs.isOpen, hmin, hbegins]
    · simp [b.carried hempty hbegins]

theorem words_rounds : (b.rounds o ho).words = o.powers b.words :=
  rfl

/-- Whether rounds are told apart by names: none that begins a round can carry one on. -/
def isApart (b : Part) : Bool :=
  b.names.all fun name => !(b.begins name && b.goesOn name)

theorem goesOn_of_isApart (h : b.isApart = true) {e : XmlElement}
    (hname : e.tag.name.part ∈ b.names) (hbegins : b.begins e.tag.name.part = true) :
    b.goesOn e.tag.name.part = false := by
  have hall := List.all_eq_true.mp h _ hname
  simpa [hbegins] using hall

theorem loose_of_isLoose (h : o.isLoose b.empties = true) : o.min ≤ 1 ∨ [] ∈ b.words := by
  rwa [Occurs.isLoose, Bool.or_eq_true, decide_eq_true_eq, ← b.emptied] at h

/-! ## Groups that are followed by words of their own -/

theorem Restarts.mem_remaining_of_loose (h : (b.rounds o ho).Restarts k v)
    (hl : o.min ≤ 1 ∨ [] ∈ b.words) (hroom : o.HasRoom count) (hw : w ∈ o.remaining b.words v 1) :
    w ∈ o.remaining b.words k (count + 1) := by
  -- The rounds after the first are enough for a word of their own, if there are any.
  suffices hk : w ∈ k from Occurs.mem_remaining_of_follows ho hl hroom hk
  obtain ⟨n, hn, hw⟩ := hw
  cases n with
  | zero =>
    rw [pow_zero, one_mul] at hw
    exact h.of_rest w hw
  | succ n =>
    refine h.of_word w ?_
    rw [words_rounds, Occurs.powers_mul]
    refine Occurs.mem_remaining_of_loose ho hl (by omega) (fun most hmost => ?_) hw
    have := hn.2 most hmost
    omega

theorem Restarts.mem_remaining (h : (b.rounds o ho).Restarts k v)
    (hgapless : o.isGapless b.empties = true) (hcount : o.Allows count) (hroom : o.HasRoom count)
    (hw : w ∈ o.remaining b.words v 1) : w ∈ o.remaining b.words k (count + 1) := by
  simp only [Occurs.isGapless, Bool.or_eq_true, decide_eq_true_eq] at hgapless
  rcases hgapless with (hloose | hmax) | hmax
  · exact h.mem_remaining_of_loose (loose_of_isLoose hloose) hroom hw
  · rw [Option.isNone_iff_eq_none] at hmax
    obtain ⟨n, hn, hw⟩ := hw
    have hallows : o.Allows (count + 1 + n) := ⟨by have := hn.1; omega, by simp [hmax]⟩
    exact ⟨n, hallows, mem_mul_mono (fun _ h => h) h.of_rest hw⟩
  · exact absurd hmax (Occurs.max_ne_min hcount hroom)

theorem Meets.done (h : (b.rounds o ho).Meets again k)
    (hgapless : again = true → o.isGapless b.empties = true) (hcount : o.Allows count)
    (hroom : o.HasRoom count) (hw : w ∈ k) :
    w ∈ b.words * o.remaining b.words k (count + 1) ∨
      ∀ u v, u ∈ b.words → u ++ v = w → u = [] := by
  rw [or_iff_not_imp_right]
  intro hsome
  push Not at hsome
  obtain ⟨u, v, hu, rfl, hne⟩ := hsome
  cases u with
  | nil => exact absurd rfl hne
  | cons e u =>
    have hname := b.named _ hu e (.head _)
    cases again with
    | false =>
      have hgoes := (h e _ hw hname).2
      simp [rounds, Occurs.isOpen, Occurs.max_ne_min hcount hroom, b.begun hu] at hgoes
    | true =>
      obtain ⟨v, h⟩ := h
      have hround := (Occurs.powers_sub_one_mul (h.restart hw hname)).2
      exact mem_mul_mono (fun _ h => h)
        (fun _ => h.mem_remaining (hgapless rfl) hcount hroom) (mem_mul_of_sub_one hround)

/-! ## What can follow a round -/

theorem Meets.inner (h : (b.rounds o ho).Meets again k) (hmax : o.max = some 1) :
    b.Meets again k := by
  cases again with
  | false =>
    exact fun e w hw hname => (h e w hw hname).imp_right fun hgoes => (Bool.or_eq_false_iff.mp hgoes).1
  | true =>
    obtain ⟨v, h⟩ := h
    refine ⟨v, h.of_rest, fun w hw => h.of_word w ?_, fun hw hname => ?_⟩
    · have hone : o.Allows 1 := ⟨ho 1 hmax, by simp [hmax]⟩
      exact mem_mul_mono (fun u hu => ⟨1, hone, by rwa [pow_one]⟩) (fun _ h => h) hw
    · have hround := (Occurs.powers_sub_one_mul (h.restart hw hname)).2
      rwa [ho.remaining_last hmax] at hround

/-- A name of a group that may have any smaller number of rounds only follows it where it may be
followed by words of its own. -/
theorem Meets.restarts (h : (b.rounds o ho).Meets again k) (hl : o.isLoose b.empties = true)
    (hroom : o.HasRoom 1) : ∃ v, (b.rounds o ho).Restarts k v := by
  cases again with
  | true => exact h
  | false =>
    refine ⟨0, nofun, fun w hw => ?_, fun {e w} hw hname => ?_⟩
    · rw [mul_zero] at hw
      cases hw
    · obtain ⟨hbegins, hgoes⟩ := h e w hw hname
      obtain ⟨hbody, hopen⟩ := Bool.or_eq_false_iff.mp hgoes
      have hbegins : b.begins e.tag.name.part = true := hbegins
      simp only [hbegins, Bool.and_true, Occurs.isOpen, Bool.or_eq_false_iff, decide_eq_false_iff_not,
        not_not] at hopen
      rw [Occurs.isLoose, Bool.or_eq_true, decide_eq_true_eq] at hl
      rcases hl with hmin | hempty
      · exact absurd (hroom o.min hopen.1) (Nat.not_lt.mpr hmin)
      · rw [b.carried hempty hbegins] at hbody
        cases hbody

theorem Restarts.inner (h : (b.rounds o ho).Restarts k v) (hl : o.min ≤ 1 ∨ [] ∈ b.words)
    (hroom : o.HasRoom count) :
    b.Restarts (o.remaining b.words k (count + 1))
      (o.remaining b.words k (count + 2) + o.remaining b.words v 1) where
  of_rest w hw := by
    rcases hw with ⟨n, hn, hw⟩ | hw
    · refine Occurs.mem_remaining_of_loose ho hl (by omega) (fun most hmost => ?_) hw
      have := hn.2 most hmost
      omega
    · exact h.mem_remaining_of_loose hl hroom hw
  of_word := by
    rintro _ ⟨u, hu, w, ⟨n, hn, hw⟩ | ⟨n, hn, hw⟩, rfl⟩
    · refine ⟨n + 1, by rwa [show count + 1 + (n + 1) = count + 2 + n by omega], ?_⟩
      rw [pow_succ', mul_assoc]
      exact Language.append_mem_mul hu hw
    · have hword : u ++ w ∈ o.powers b.words * v := by
        rw [Occurs.powers_mul]
        refine ⟨n + 1, by rwa [Nat.zero_add, Nat.add_comm], ?_⟩
        rw [pow_succ', mul_assoc]
        exact Language.append_mem_mul hu hw
      exact Occurs.mem_remaining_of_follows ho hl hroom (h.of_word _ hword)
  restart {e w} hw hname := by
    obtain ⟨n, hn, hw⟩ := hw
    rcases first_round hw with hk | ⟨i, hi, -, hround⟩
    · have hround := (Occurs.powers_sub_one_mul (h.restart hk hname)).2
      exact mem_mul_mono (fun _ h => h) (fun _ h => .inr h) hround
    · refine mem_mul_mono (fun _ h => h) (fun x hx => .inl ?_) hround
      refine Occurs.mem_remaining_of_loose ho hl (by omega) (fun most hmost => ?_) hx
      have := hn.2 most hmost
      omega

theorem Meets.apart (h : (b.rounds o ho).Meets again k) (hb : b.isApart = true) :
    b.Meets false (o.remaining b.words k count) := by
  intro e w hw hname
  suffices hbegins : b.begins e.tag.name.part = true from ⟨hbegins, goesOn_of_isApart hb hname hbegins⟩
  obtain ⟨n, -, hw⟩ := hw
  rcases cons_mem_mul.mp hw with ⟨u, -, hu, -⟩ | ⟨-, hk⟩
  · exact (exists_cons_mem_of_pow hu).elim fun _ hu => b.begun hu
  · cases again with
    | false => exact (h e w hk hname).1
    | true =>
      obtain ⟨v, h⟩ := h
      obtain ⟨u, -, hu, -⟩ := cons_mem_sub_one_mul.mp (h.restart hk hname)
      exact (b.rounds o ho).begun hu

end Part

/-! ## Names that carry on -/

namespace Particle

mutual

/-- Whether an element of the given name can stand next where what the particle stands for could have
ended. -/
def canGoOnWith (name : String) : Particle → Bool
  | .element n _ o | .reference n o => o.isOpen && n == name
  | .sequence items o =>
    sequenceCanGoOnWith name items || (o.isOpen && sequenceCanStartWith name items)
  | .choice items o =>
    anyCanGoOnWith name items || (anyEmptiable items && anyCanStartWith name items) ||
      (o.isOpen && anyCanStartWith name items)
  | .all items o =>
    anyCanGoOnWith name items || items.any (fun p => p.isEmptiable && p.canStartWith name) ||
      (o.isOpen && anyCanStartWith name items)

def sequenceCanGoOnWith (name : String) : List Particle → Bool
  | [] => false
  | p :: rest => sequenceCanGoOnWith name rest || (allEmptiable rest && canGoOnWith name p)

def anyCanGoOnWith (name : String) : List Particle → Bool
  | [] => false
  | p :: rest => canGoOnWith name p || anyCanGoOnWith name rest

end

variable {name : String}

theorem any_isEmptiable_of_allEmptiable {items : List Particle} (hempty : allEmptiable items = true)
    (hstart : anyCanStartWith name items = true) :
    items.any (fun p => p.isEmptiable && p.canStartWith name) = true := by
  induction items with
  | nil => cases hstart
  | cons p rest ih =>
    rw [allEmptiable, Bool.and_eq_true] at hempty
    rw [anyCanStartWith, Bool.or_eq_true] at hstart
    rw [List.any_cons, Bool.or_eq_true, Bool.and_eq_true]
    exact hstart.imp (⟨hempty.1, ·⟩) (ih hempty.2)

mutual

theorem canGoOnWith_of_isEmptiable : ∀ {p : Particle}, p.isEmptiable = true →
    p.canStartWith name = true → p.canGoOnWith name = true
  | .element _ _ o, hempty, hstart | .reference _ o, hempty, hstart => by
    simp only [isEmptiable, decide_eq_true_eq, canStartWith] at hempty hstart
    simp [canGoOnWith, Occurs.isOpen, hempty, hstart]
  | .sequence items o, hempty, hstart => by
    simp only [isEmptiable, Bool.or_eq_true, decide_eq_true_eq, canStartWith] at hempty hstart
    rcases hempty with hmin | hempty
    · simp [canGoOnWith, Occurs.isOpen, hmin, hstart]
    · simp [canGoOnWith, sequenceCanGoOnWith_of_allEmptiable hempty hstart]
  | .choice items o, hempty, hstart => by
    simp only [isEmptiable, Bool.or_eq_true, decide_eq_true_eq, canStartWith] at hempty hstart
    rcases hempty with hmin | hempty
    · simp [canGoOnWith, Occurs.isOpen, hmin, hstart]
    · simp [canGoOnWith, hempty, hstart]
  | .all items o, hempty, hstart => by
    simp only [isEmptiable, Bool.or_eq_true, decide_eq_true_eq, canStartWith] at hempty hstart
    rcases hempty with hmin | hempty
    · simp [canGoOnWith, Occurs.isOpen, hmin, hstart]
    · simp [canGoOnWith, any_isEmptiable_of_allEmptiable hempty hstart]

theorem sequenceCanGoOnWith_of_allEmptiable : ∀ {items : List Particle}, allEmptiable items = true →
    sequenceCanStartWith name items = true → sequenceCanGoOnWith name items = true
  | [], _, hstart => nomatch hstart
  | p :: rest, hempty, hstart => by
    rw [allEmptiable, Bool.and_eq_true] at hempty
    rw [sequenceCanStartWith, Bool.or_eq_true, Bool.and_eq_true] at hstart
    rw [sequenceCanGoOnWith, Bool.or_eq_true, Bool.and_eq_true]
    rcases hstart with hfirst | ⟨-, hrest⟩
    · exact .inr ⟨hempty.2, canGoOnWith_of_isEmptiable hempty.1 hfirst⟩
    · exact .inl (sequenceCanGoOnWith_of_allEmptiable hempty.2 hrest)

end

end Particle

/-! ## Particles as parts -/

variable {s : Schema} {valid : Validity} {path : String} {again : Bool} {k : Language XmlElement}

theorem isNamed_name {target : Option String} {e : XmlElement} {name : String}
    (h : isNamed target e name = true) : e.tag.name.part = name := by
  rw [isNamed, Bool.and_eq_true, decide_eq_true_eq] at h
  exact h.1

theorem Letters.ofSchema_bear : (Letters.ofSchema s valid path).Bear (·.tag.name.part) where
  declared h := isNamed_name h.1
  global h := h.elim fun _ h => isNamed_name h.2.1

section
variable (s : Schema) (valid : Validity) (path : String)

def Part.ofParticle (p : Particle) (h : p.InOrder) : Part where
  words := p.language (.ofSchema s valid path)
  names := p.names
  begins name := p.canStartWith name
  empties := p.isEmptiable
  goesOn name := p.canGoOnWith name
  named _ hw := Particle.mem_names Letters.ofSchema_bear hw
  begun hw := Particle.canStartWith_of_mem Letters.ofSchema_bear h hw
  emptied := Particle.nil_mem_language_iff h
  carried := Particle.canGoOnWith_of_isEmptiable

def Part.row (items : List Particle) (h : Particle.ItemsInOrder items) :
    Part where
  words := (Particle.languages (.ofSchema s valid path) items).prod
  names := Particle.itemNames items
  begins name := Particle.sequenceCanStartWith name items
  empties := Particle.allEmptiable items
  goesOn name := Particle.sequenceCanGoOnWith name items
  named _ hw := forall_mem_prod (fun _ hl _ hv => Particle.mem_itemNames Letters.ofSchema_bear hl hv) hw
  begun hw := Particle.sequenceCanStartWith_of_mem Letters.ofSchema_bear h hw
  emptied := nil_mem_prod.trans (Particle.allEmptiable_iff h).symm
  carried := Particle.sequenceCanGoOnWith_of_allEmptiable

def Part.oneOf (items : List Particle) (h : Particle.ItemsInOrder items) :
    Part where
  words := (Particle.languages (.ofSchema s valid path) items).sum
  names := Particle.itemNames items
  begins name := Particle.anyCanStartWith name items
  empties := Particle.anyEmptiable items
  goesOn name := Particle.anyCanGoOnWith name items ||
    (Particle.anyEmptiable items && Particle.anyCanStartWith name items)
  named _ hw := (mem_sum.mp hw).elim fun _ h =>
    Particle.mem_itemNames Letters.ofSchema_bear h.1 h.2
  begun hw := (mem_sum.mp hw).elim fun _ hl =>
    Particle.anyCanStartWith_of_mem Letters.ofSchema_bear h hl.1 hl.2
  emptied := mem_sum.trans (Particle.anyEmptiable_iff h).symm
  carried hempty hbegins := by simp [hempty, hbegins]

end

def Part.letter (takes : XmlElement → Prop) (name : String)
    (hname : ∀ e, takes e → e.tag.name.part = name) : Part where
  words := single takes
  names := [name]
  begins n := name == n
  empties := false
  goesOn _ := false
  named := by
    rintro _ ⟨x, hx, rfl⟩ e he
    rw [List.mem_singleton.mp he, hname x hx]
    exact .head _
  begun := by
    rintro e w ⟨x, hx, hw⟩
    cases hw
    exact beq_iff_eq.mpr (hname e hx).symm
  emptied := ⟨(nomatch ·), (nomatch ·)⟩
  carried := (nomatch ·)

theorem Part.ofParticle_element {name : String} {type : ElementType} {o : Occurs}
    (h : (Particle.element name type o).InOrder) :
    Part.ofParticle s valid path (.element name type o) h =
      (Part.letter ((Letters.ofSchema s valid path).declared name type) name
        fun _ he => Letters.ofSchema_bear.declared he).rounds o h := by
  simp only [Part.ofParticle, Part.rounds, Part.letter, Particle.isEmptiable, Bool.or_false]
  rfl

theorem Part.ofParticle_sequence {items : List Particle} {o : Occurs}
    (h : (Particle.sequence items o).InOrder) :
    Part.ofParticle s valid path (.sequence items o) h = (Part.row s valid path items h.2).rounds o h.1 :=
  rfl

theorem Part.ofParticle_choice {items : List Particle} {o : Occurs}
    (h : (Particle.choice items o).InOrder) :
    Part.ofParticle s valid path (.choice items o) h = (Part.oneOf s valid path items h.2).rounds o h.1 :=
  rfl

/-! ## Rows and alternatives -/

section
variable {p : Particle} {rest : List Particle}
  {h : Particle.ItemsInOrder (p :: rest)}

theorem Part.Meets.first (hmeets : (Part.row s valid path (p :: rest) h).Meets again k)
    (hnames : List.Disjoint p.names (Particle.itemNames rest)) :
    (Part.ofParticle s valid path p h.1).Meets (again && Particle.allEmptiable rest)
      ((Part.row s valid path rest h.2).words * k) := by
  have hnil := (Part.row s valid path rest h.2).emptied
  -- A name of the particle is next only if the others stand for nothing.
  have hskip : ∀ {e w}, e :: w ∈ (Part.row s valid path rest h.2).words * k →
      e.tag.name.part ∈ p.names → Particle.allEmptiable rest = true ∧ e :: w ∈ k := by
    intro e w hw hname
    rcases mem_mul_cases hw with hrest | ⟨hrest, hk⟩
    · exact absurd (Part.name_mem _ hrest) (hnames hname)
    · exact ⟨hnil.mp hrest, hk⟩
  cases again with
  | false =>
    intro e w hw hname
    obtain ⟨hempty, hk⟩ := hskip hw hname
    obtain ⟨hbegins, hgoes⟩ := hmeets e w hk (List.mem_append_left _ hname)
    rcases (Bool.or_eq_true _ _).mp hbegins with hfirst | hrest
    · refine ⟨hfirst, ?_⟩
      have hor := (Bool.or_eq_false_iff.mp hgoes).2
      rwa [hempty, Bool.true_and] at hor
    · have hmem := Particle.mem_itemNames_of_sequence ((Bool.and_eq_true _ _).mp hrest).2
      exact absurd hmem (hnames hname)
  | true =>
    cases hempty : Particle.allEmptiable rest with
    | false =>
      intro e w hw hname
      rw [(hskip hw hname).1] at hempty
      cases hempty
    | true =>
      obtain ⟨v, hmeets⟩ := hmeets
      refine ⟨(Part.row s valid path rest h.2).words * v, fun w hw => ?_, fun w hw => ?_,
        fun hw hname => ?_⟩
      · exact mem_mul_mono (fun _ h => h) hmeets.of_rest hw
      · rw [← mul_assoc] at hw
        exact ⟨[], hnil.mpr hempty, w, hmeets.of_word w hw, rfl⟩
      · have hround := hmeets.restart (hskip hw hname).2 (List.mem_append_left _ hname)
        exact (mul_sub_one_mul_cases hround).resolve_right fun ⟨_, hrest⟩ =>
          hnames hname (Part.name_mem (.row s valid path rest h.2) hrest)

theorem Part.Meets.others (hmeets : (Part.row s valid path (p :: rest) h).Meets again k)
    (hnames : List.Disjoint p.names (Particle.itemNames rest)) :
    (Part.row s valid path rest h.2).Meets (again && p.isEmptiable) k := by
  have hnil := Particle.nil_mem_language_iff h.1 (t := .ofSchema s valid path)
  -- What begins with a name of the others is a word of the row only if the first stands for nothing.
  have hskip : ∀ {e w v}, e :: w ∈ ((Part.row s valid path (p :: rest) h).words - 1) * v →
      e.tag.name.part ∈ Particle.itemNames rest → p.isEmptiable = true ∧
        e :: w ∈ ((Part.row s valid path rest h.2).words - 1) * v := by
    intro e w v hw hname
    rcases mul_sub_one_mul_cases hw with hfirst | ⟨hempty, hrest⟩
    · exact absurd hname (hnames (Part.name_mem (.ofParticle s valid path p h.1) hfirst))
    · exact ⟨hnil.mp hempty, hrest⟩
  cases again with
  | false =>
    intro e w hw hname
    obtain ⟨hbegins, hgoes⟩ := hmeets e w hw (List.mem_append_right _ hname)
    refine ⟨?_, (Bool.or_eq_false_iff.mp hgoes).1⟩
    rcases (Bool.or_eq_true _ _).mp hbegins with hfirst | hrest
    · exact absurd hname (hnames (Particle.mem_names_of_canStartWith hfirst))
    · exact ((Bool.and_eq_true _ _).mp hrest).2
  | true =>
    obtain ⟨v, hmeets⟩ := hmeets
    cases hempty : p.isEmptiable with
    | false =>
      intro e w hw hname
      rw [(hskip (hmeets.restart hw (List.mem_append_right _ hname)) hname).1] at hempty
      cases hempty
    | true =>
      refine ⟨v, hmeets.of_rest, fun w hw => hmeets.of_word w ?_, fun hw hname => ?_⟩
      · exact mem_mul_mono (fun u hu => ⟨[], hnil.mpr hempty, u, hu, rfl⟩) (fun _ h => h) hw
      · exact (hskip (hmeets.restart hw (List.mem_append_right _ hname)) hname).2

theorem Part.Meets.alternative (hmeets : (Part.oneOf s valid path (p :: rest) h).Meets again k)
    (hnames : List.Disjoint p.names (Particle.itemNames rest)) :
    (Part.ofParticle s valid path p h.1).Meets again k := by
  cases again with
  | false =>
    intro e w hw hname
    obtain ⟨hbegins, hgoes⟩ := hmeets e w hw (List.mem_append_left _ hname)
    have hor := (Bool.or_eq_false_iff.mp (Bool.or_eq_false_iff.mp hgoes).1).1
    refine ⟨((Bool.or_eq_true _ _).mp hbegins).resolve_right fun hrest => ?_, hor⟩
    exact hnames hname (Particle.mem_itemNames_of_any hrest)
  | true =>
    obtain ⟨v, hmeets⟩ := hmeets
    refine ⟨v, hmeets.of_rest, fun w hw => hmeets.of_word w ?_, fun hw hname => ?_⟩
    · exact mem_mul_mono (fun _ => .inl) (fun _ h => h) hw
    · have hround := hmeets.restart hw (List.mem_append_left _ hname)
      exact (add_sub_one_mul_cases hround).resolve_right fun hrest =>
        hnames hname (Part.name_mem (.oneOf s valid path rest h.2) hrest)

theorem Part.Meets.alternatives (hmeets : (Part.oneOf s valid path (p :: rest) h).Meets again k)
    (hnames : List.Disjoint p.names (Particle.itemNames rest)) :
    (Part.oneOf s valid path rest h.2).Meets again k := by
  cases again with
  | false =>
    intro e w hw hname
    obtain ⟨hbegins, hgoes⟩ := hmeets e w hw (List.mem_append_right _ hname)
    have hrest := ((Bool.or_eq_true _ _).mp hbegins).resolve_left fun hfirst =>
      hnames (Particle.mem_names_of_canStartWith hfirst) hname
    refine ⟨hrest, ?_⟩
    obtain ⟨hgoes, hempty⟩ := Bool.or_eq_false_iff.mp hgoes
    simp only [Particle.anyEmptiable, Particle.anyCanStartWith, hrest, Bool.or_true, Bool.and_true,
      Bool.or_eq_false_iff] at hempty
    refine Bool.or_eq_false_iff.mpr ⟨(Bool.or_eq_false_iff.mp hgoes).2, ?_⟩
    rw [hempty.2, Bool.false_and]
  | true =>
    obtain ⟨v, hmeets⟩ := hmeets
    refine ⟨v, hmeets.of_rest, fun w hw => hmeets.of_word w ?_, fun hw hname => ?_⟩
    · exact mem_mul_mono (fun _ => .inr) (fun _ h => h) hw
    · have hround := hmeets.restart hw (List.mem_append_right _ hname)
      exact (add_sub_one_mul_cases hround).resolve_left fun hfirst =>
        hnames (Part.name_mem (.ofParticle s valid path p h.1) hfirst) hname

end

end Xsd
end RequestMatching
