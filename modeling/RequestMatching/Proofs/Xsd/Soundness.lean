import RequestMatching.Proofs.Xsd.Language
import RequestMatching.Proofs.Xsd.Reading
import RequestMatching.Xsd.Validator

/-!
# Content is matched soundly

What a particle takes off the front of a row of elements is a word of its language: no round that is
given up, and none that takes nothing, lets in more. This rests on bounds that are in order, which
those of particles read from a schema are.
-/

namespace RequestMatching

namespace Xsd

/-! ## Particles that are read -/

/-- A particle that some node of a schema spells. -/
def Particle.IsRead (p : Particle) : Prop :=
  ∃ s node, particle? s node = .ok (some p)

theorem inOrder_of_not_any {least : Nat} {most : Option Nat}
    (h : ¬ most.any (· < least) = true) : Occurs.InOrder ⟨least, most⟩ := by
  intro m hm
  cases hm
  simpa using h

theorem occursOf_inOrder {e : XmlElement} {o : Occurs} (h : occursOf e = .ok o) : o.InOrder := by
  unfold occursOf at h
  simp only [pure_bind] at h
  -- However the two attributes are read, the bounds are compared last.
  repeat' split at h
  all_goals first
    | cases h; exact inOrder_of_not_any ‹_›
    | cases h

theorem groupOf_inOrder {kind : String} {items : List Particle} {o : Occurs} {p : Particle}
    (h : groupOf kind items o = .ok p) (ho : o.InOrder)
    (hitems : Particle.ItemsInOrder items) : p.InOrder := by
  obtain rfl | rfl | ⟨rfl, -⟩ := groupOf_cases h <;> exact ⟨ho, hitems⟩

theorem Particle.EveryItem.of_forall {said : Particle → Prop} : ∀ {items : List Particle},
    (∀ p ∈ items, p.Every said) → EveryItem said items
  | [], _ => trivial
  | _ :: _, h => ⟨h _ (.head _), of_forall fun p hp => h p (.tail _ hp)⟩

theorem closedUnderReading_inOrder (s : Sources) :
    ClosedUnderReading s Particle.InOrder fun _ => True where
  reference ho := occursOf_inOrder ho
  element ho _ := occursOf_inOrder ho
  group ho hgroup hitems := groupOf_inOrder hgroup (occursOf_inOrder ho) (.of_forall hitems)
  any := trivial
  simple := trivial
  named _ := trivial
  complex _ := trivial

theorem Particle.IsRead.inOrder {p : Particle} : p.IsRead → p.InOrder
  | ⟨s, _, h⟩ => (closedUnderReading_inOrder s).particle? h p rfl

/-- A complex type that some declaration of a schema spells. -/
def ComplexType.IsRead (type : ComplexType) : Prop :=
  ∃ s e, complexTypeOf s e = .ok type

theorem ComplexType.IsRead.inOrder {type : ComplexType} {p : Particle} (h : type.IsRead)
    (hp : type.content = some p) : p.InOrder := by
  obtain ⟨s, e, h⟩ := h
  exact (closedUnderReading_inOrder s).complexTypeOf h p hp

/-! ## What is taken -/

section
variable {α : Type} {l m : Language α} {cs left rest : List α}

/-- What is gone from the front of a row is a word of a language. -/
def Takes (l : Language α) (cs rest : List α) : Prop :=
  ∃ taken ∈ l, taken ++ rest = cs

theorem Takes.trans (h : Takes l cs left) (hrest : Takes m left rest) : Takes (l * m) cs rest := by
  obtain ⟨a, ha, rfl⟩ := h
  obtain ⟨b, hb, rfl⟩ := hrest
  exact ⟨a ++ b, Language.append_mem_mul ha hb, List.append_assoc a b rest⟩

theorem Takes.mono (hlm : ∀ w ∈ l, w ∈ m) : Takes l cs rest → Takes m cs rest
  | ⟨a, ha, h⟩ => ⟨a, hlm a ha, h⟩

theorem takes_self : Takes l cs cs ↔ [] ∈ l := by
  constructor
  · rintro ⟨a, ha, h⟩
    rwa [List.append_left_eq_self.mp h] at ha
  · exact fun h => ⟨[], h, rfl⟩

theorem Takes.length_le : Takes l cs rest → rest.length ≤ cs.length := by
  rintro ⟨a, -, rfl⟩
  simp

theorem Takes.eq_of_length : Takes l cs rest → ¬ rest.length < cs.length → rest = cs := by
  rintro ⟨a, -, rfl⟩ h
  cases a with
  | nil => rfl
  | cons x a =>
    rw [List.cons_append, List.length_cons, List.length_append] at h
    omega

end

theorem max_all_iff {o : Occurs} {n : Nat} :
    o.max.all (n < ·) = true ↔ ∀ most ∈ o.max, n < most := by
  cases o.max <;> simp

variable {s : Schema} {valid : Validity} {path : String}

theorem takeNamed_sound {target : Option String} {name : String} {type : ElementType} {o : Occurs} :
    ∀ {cs rest : List XmlElement} {count : Nat}, (∀ most ∈ o.max, count ≤ most) →
      takeNamed target valid name type o path count cs = .ok rest →
      ∃ taken, taken ++ rest = cs ∧ o.Allows (count + taken.length) ∧
        ∀ e ∈ taken, isNamed target e name = true ∧ valid e type (path ++ "/" ++ name) = .ok ()
  | [], rest, count, hcount, h => by
    unfold takeNamed at h
    split at h
    · cases h
    · rename_i hmin
      cases h
      exact ⟨[], rfl, ⟨Nat.le_of_not_lt hmin, hcount⟩, nofun⟩
  | e :: more, rest, count, hcount, h => by
    unfold takeNamed at h
    split at h
    · rename_i hnext
      obtain ⟨hmax, hname⟩ := (Bool.and_eq_true _ _).mp hnext
      obtain ⟨⟨⟩, hvalid, h⟩ := ok_of_bind h
      obtain ⟨taken, rfl, hallows, htaken⟩ := takeNamed_sound (max_all_iff.mp hmax) h
      refine ⟨e :: taken, rfl, ?_, List.forall_mem_cons.mpr ⟨⟨hname, hvalid⟩, htaken⟩⟩
      rwa [List.length_cons, Nat.add_comm taken.length, ← Nat.add_assoc]
    split at h
    · cases h
    · rename_i hmin
      cases h
      exact ⟨[], rfl, ⟨Nat.le_of_not_lt hmin, hcount⟩, nofun⟩

section
variable {o : Occurs} {l : Language XmlElement}
  {once : List XmlElement → Except String (List XmlElement)}

/-- The invariant of the rounds is that no more than the greatest number are done. A round that
takes nothing stands for all that are missing. -/
theorem repeated_sound (ho : o.InOrder) (honce : ∀ {cs rest}, once cs = .ok rest → Takes l cs rest) :
    ∀ {fuel count : Nat} {cs rest : List XmlElement}, cs.length < fuel →
      (∀ most ∈ o.max, count ≤ most) → repeated o once fuel count cs = .ok rest →
      ∃ n, o.Allows (count + n) ∧ Takes (l ^ n) cs rest
  | 0, _, _, _, hfuel, _, _ => absurd hfuel (Nat.not_lt_zero _)
  | fuel + 1, count, cs, rest, hfuel, hcount, h => by
    unfold repeated at h
    split at h
    · rename_i hmax
      rw [max_all_iff] at hmax
      split at h
      · rename_i left hleft
        have htakes := honce hleft
        split at h
        · rename_i hless
          obtain ⟨n, hn, hrest⟩ := repeated_sound ho honce (by omega) hmax h
          refine ⟨n + 1, ?_, pow_succ' l n ▸ htakes.trans hrest⟩
          rwa [Nat.add_comm n, ← Nat.add_assoc]
        · rename_i hstill
          cases h
          obtain rfl := htakes.eq_of_length hstill
          refine ⟨o.min - count, ⟨by omega, fun most hmost => ?_⟩, ?_⟩
          · have := ho most hmost
            have := hcount most hmost
            omega
          · exact takes_self.mpr (nil_mem_pow (takes_self.mp htakes) _)
      · split at h
        · cases h
        · rename_i hmin
          cases h
          exact ⟨0, ⟨Nat.le_of_not_lt hmin, hcount⟩, takes_self.mpr Language.nil_mem_one⟩
    · rename_i hmax
      cases h
      rw [max_all_iff] at hmax
      push Not at hmax
      obtain ⟨most, hmost, hle⟩ := hmax
      exact ⟨0, ⟨Nat.le_trans (ho most hmost) hle, hcount⟩, takes_self.mpr Language.nil_mem_one⟩

theorem repeated_takes (ho : o.InOrder)
    (honce : ∀ {cs rest}, once cs = .ok rest → Takes l cs rest) {cs rest : List XmlElement}
    (h : repeated o once (cs.length + 1) 0 cs = .ok rest) : Takes (o.powers l) cs rest := by
  obtain ⟨n, hn, htakes⟩ :=
    repeated_sound ho honce (Nat.lt_succ_self _) (fun _ _ => Nat.zero_le _) h
  exact htakes.mono fun w hw => ⟨n, by rwa [Nat.zero_add] at hn, hw⟩

end

/-! ## Particles -/

/-- An element is what a declaration takes if it bears the name, in no namespace or in that of the
schema, and is valid. -/
def Letters.ofSchema (s : Schema) (valid : Validity) (path : String) : Letters XmlElement where
  declared name type e :=
    isNamed s.targetNamespace e name = true ∧ valid e type (path ++ "/" ++ name) = .ok ()
  global name e :=
    ∃ type, s.elements.lookup name = some type ∧
      isNamed s.targetNamespace e name = true ∧ valid e type (path ++ "/" ++ name) = .ok ()

theorem takeNamed_takes {name : String} {type : ElementType} {o : Occurs} {takes : XmlElement → Prop}
    (htakes : ∀ e, isNamed s.targetNamespace e name = true →
      valid e type (path ++ "/" ++ name) = .ok () → takes e) {cs rest : List XmlElement}
    (h : takeNamed s.targetNamespace valid name type o path 0 cs = .ok rest) :
    Takes (o.powers (single takes)) cs rest := by
  obtain ⟨taken, htaken, hallows, hall⟩ := takeNamed_sound (fun _ _ => Nat.zero_le _) h
  refine ⟨taken, Occurs.mem_powers_single.mpr ⟨?_, fun e he => ?_⟩, htaken⟩
  · rwa [Nat.zero_add] at hallows
  · exact htakes e (hall e he).1 (hall e he).2

theorem noChoice_takes {items : List Particle}
    (hitems : Particle.ItemsInOrder items) {cs rest : List XmlElement}
    (h : noChoice items cs path = .ok rest) :
    Takes (Particle.languages (.ofSchema s valid path) items).sum cs rest := by
  unfold noChoice at h
  split at h
  · rename_i hempty
    cases h
    exact takes_self.mpr (mem_sum.mpr ((Particle.anyEmptiable_iff hitems).mp hempty))
  · cases h

def chosen (s : Schema) (valid : Validity) (path : String) (items : List Particle)
    (cs : List XmlElement) : Except String (List XmlElement) :=
  match nextName? cs with
  | some name =>
    if Particle.anyCanStartWith name items then matchChoice s valid path name items cs
    else noChoice items cs path
  | none => noChoice items cs path

theorem matchParticle_choice {items : List Particle} {o : Occurs} {cs : List XmlElement} :
    matchParticle s valid path (.choice items o) cs =
      repeated o (chosen s valid path items) (cs.length + 1) 0 cs :=
  rfl

theorem chosen_takes {items : List Particle}
    (hin : Particle.ItemsInOrder items)
    (hchoice : ∀ {name cs rest}, Particle.anyCanStartWith name items = true →
      matchChoice s valid path name items cs = .ok rest →
      Takes (Particle.languages (.ofSchema s valid path) items).sum cs rest)
    {cs rest : List XmlElement} (h : chosen s valid path items cs = .ok rest) :
    Takes (Particle.languages (.ofSchema s valid path) items).sum cs rest := by
  unfold chosen at h
  split at h
  · split at h
    · rename_i hstart
      exact hchoice hstart h
    · exact noChoice_takes hin h
  · exact noChoice_takes hin h

mutual

theorem matchParticle_takes : ∀ {p : Particle} {cs rest : List XmlElement}, p.InOrder →
    p.Every (·.isOrdered = true) → matchParticle s valid path p cs = .ok rest →
    Takes (p.language (.ofSchema s valid path)) cs rest
  | .element name type o, _, _, _, _, h =>
    takeNamed_takes (fun _ hname hvalid => ⟨hname, hvalid⟩) h
  | .reference name o, _, _, _, _, h => by
    unfold matchParticle at h
    split at h
    · rename_i type htype
      exact takeNamed_takes (fun _ hname hvalid => ⟨type, htype, hname, hvalid⟩) h
    · cases h
  | .sequence items o, _, _, hin, hord, h =>
    repeated_takes hin.1 (matchSequence_takes hin.2 hord.2) h
  | .choice items o, _, _, hin, hord, h => by
    rw [matchParticle_choice] at h
    exact repeated_takes hin.1 (chosen_takes hin.2 (matchChoice_takes hin.2 hord.2)) h
  | .all _ _, _, _, _, hord, _ => nomatch hord.1

theorem matchSequence_takes : ∀ {items : List Particle} {cs rest : List XmlElement},
    Particle.ItemsInOrder items →
    Particle.EveryItem (·.isOrdered = true) items →
    matchSequence s valid path items cs = .ok rest →
    Takes (Particle.languages (.ofSchema s valid path) items).prod cs rest
  | [], _, _, _, _, h => by cases h; exact takes_self.mpr Language.nil_mem_one
  | p :: more, _, _, hin, hord, h => by
    obtain ⟨left, hleft, h⟩ := ok_of_bind h
    exact (matchParticle_takes hin.1 hord.1 hleft).trans (matchSequence_takes hin.2 hord.2 h)

theorem matchChoice_takes {name : String} : ∀ {items : List Particle} {cs rest : List XmlElement},
    Particle.ItemsInOrder items →
    Particle.EveryItem (·.isOrdered = true) items →
    Particle.anyCanStartWith name items = true → matchChoice s valid path name items cs = .ok rest →
    Takes (Particle.languages (.ofSchema s valid path) items).sum cs rest
  | [], _, _, _, _, hstart, _ => nomatch hstart
  | p :: more, _, _, hin, hord, hstart, h => by
    unfold matchChoice at h
    split at h
    · exact (matchParticle_takes hin.1 hord.1 h).mono fun w hw => mem_sum.mpr ⟨_, .head _, hw⟩
    · rename_i hfirst
      unfold Particle.anyCanStartWith at hstart
      have hmore := (Bool.or_eq_true _ _).mp hstart |>.resolve_left hfirst
      exact (matchChoice_takes hin.2 hord.2 hmore h).mono fun w hw => by
        obtain ⟨l, hl, hw⟩ := mem_sum.mp hw
        exact mem_sum.mpr ⟨l, .tail _ hl, hw⟩

end

def plainTag (name : String) (attributes : List (String × String)) : XmlTag :=
  ⟨⟨none, name⟩, none, [], attributes.map fun a => ⟨⟨none, a.1⟩, none, a.2⟩⟩

def plainNode (name : String) : XmlNode :=
  .element (plainTag name []) []

def starThenOne : Particle :=
  .sequence [.element "a" .any ⟨0, none⟩, .element "b" .any ⟨1, some 1⟩] ⟨1, some 1⟩

def starThenOneNode : XmlNode :=
  .element (plainTag "sequence" []) [
    .element (plainTag "element" [("name", "a"), ("minOccurs", "0"), ("maxOccurs", "unbounded")]) [],
    .element (plainTag "element" [("name", "b")]) []]

/-- What an ordered particle takes from some place on ends at a place that is not before it, and is
a word of the language of the particle. -/
theorem matchParticle_sound {p : Particle} (hread : p.IsRead) (hord : p.Every (·.isOrdered = true))
    {children rest : List XmlElement} {pos : Nat} (hpos : pos ≤ children.length)
    (h : matchParticle s valid path p (children.drop pos) = .ok rest) :
    ∃ next, pos ≤ next ∧ next ≤ children.length ∧ rest = children.drop next ∧
      (children.take next).drop pos ∈ p.language (.ofSchema s valid path) := by
  obtain ⟨taken, htaken, hsplit⟩ := matchParticle_takes hread.inOrder hord h
  have hlen : taken.length + rest.length = children.length - pos := by
    rw [← List.length_append, hsplit, List.length_drop]
  refine ⟨pos + taken.length, Nat.le_add_right _ _, by omega, ?_, ?_⟩
  · rw [← List.drop_drop, ← hsplit, List.drop_left]
  · rwa [List.drop_take, Nat.add_sub_cancel_left, ← hsplit, List.take_left]

/-- From the second of three elements on, `a*, b` takes both that are left. -/
theorem matchParticle_sound_of_three :
    let s : Schema := ⟨none, [], []⟩
    let children := XmlElement.ofNodes [plainNode "a", plainNode "a", plainNode "b"]
    ∃ next, 1 ≤ next ∧ next ≤ children.length ∧ [] = children.drop next ∧
      (children.take next).drop 1 ∈ starThenOne.language (.ofSchema s (checkElement s 1) "/r") := by
  intro s children
  have hread : particle? {} starThenOneNode = .ok (some starThenOne) := by
    rfl
  exact matchParticle_sound ⟨_, _, hread⟩ ⟨rfl, rfl, rfl, trivial⟩ (show 1 ≤ 3 by decide) rfl

end Xsd
end RequestMatching
