import RequestMatching.Proofs.Xsd.Names
import RequestMatching.Proofs.Xsd.Soundness

/-!
# What words begin with

Whether a particle may stand for nothing, and which names it can start with, is found out without its
words, and it agrees with them. So a choice hands an element to one of its alternatives whenever an
alternative has a word that begins with the name of the element.
-/

namespace RequestMatching

namespace Xsd

/-! ## The alternative that is chosen -/

section
variable {s : Schema} {valid : Validity} {path name : String} {p : Particle}

theorem matchChoice_of_find? {cs : List XmlElement} : ∀ {items : List Particle},
    items.find? (·.canStartWith name) = some p →
    matchChoice s valid path name items cs = matchParticle s valid path p cs
  | [], h => nomatch h
  | q :: rest, h => by
    rw [List.find?_cons] at h
    cases hq : q.canStartWith name with
    | true =>
      rw [hq] at h
      cases h
      rw [matchChoice, if_pos hq]
    | false =>
      rw [hq] at h
      rw [matchChoice, if_neg (by simp [hq])]
      exact matchChoice_of_find? h

theorem chosen_of_find? {items : List Particle} {e : XmlElement} {rest : List XmlElement}
    (h : items.find? (·.canStartWith e.tag.name.part) = some p) :
    chosen s valid path items (e :: rest) = matchParticle s valid path p (e :: rest) := by
  have hany : Particle.anyCanStartWith e.tag.name.part items = true :=
    Particle.anyCanStartWith_of (List.find?_some h) (List.mem_of_find?_eq_some h)
  rw [chosen, nextName?]
  exact (if_pos hany).trans (matchChoice_of_find? h)

end

namespace Particle

/-! ## Particles in particles -/

mutual

theorem Every.every {said : Particle → Prop} : ∀ {p : Particle}, p.Every said → p.Every (Every said)
  | .element _ _ _, h | .reference _ _, h => h
  | .sequence _ _, h | .choice _ _, h | .all _ _, h => ⟨h, EveryItem.every h.2⟩

theorem EveryItem.every {said : Particle → Prop} : ∀ {items : List Particle},
    EveryItem said items → EveryItem (Every said) items
  | [], _ => trivial
  | _ :: _, h => ⟨Every.every h.1, EveryItem.every h.2⟩

end

/-! ## What is found out agrees with the words -/

section
variable {α : Type} (t : Letters α) (nameOf : α → String)

/-- Some word of the particle begins with a thing of the name. -/
def Begins (p : Particle) (name : String) : Prop :=
  ∃ x w, x :: w ∈ p.language t ∧ nameOf x = name

/-- In every round a choice gives an element that an alternative can begin with to the first one that
can start with its name. So it does not fall back to nothing, and does not miss an alternative. -/
def Commits (items : List Particle) : Prop :=
  ∀ (s : Schema) (valid : Validity) (path : String) (e : XmlElement) (rest : List XmlElement),
    (∃ q ∈ items, q.Begins t nameOf e.tag.name.part) →
    ∃ q, items.find? (·.canStartWith e.tag.name.part) = some q ∧
      chosen s valid path items (e :: rest) = matchParticle s valid path q (e :: rest)

/-- What is found out about a particle agrees with its words. -/
structure Foretells (p : Particle) : Prop where
  empties : p.isEmptiable = true ↔ [] ∈ p.language t
  begins : ∀ name, p.Begins t nameOf name → p.canStartWith name = true
  rounds : ∀ items o, p = .choice items o → ∀ s valid path cs,
    matchParticle s valid path p cs =
      repeated o (chosen s valid path items) (cs.length + 1) 0 cs
  commits : ∀ items o, p = .choice items o → Commits t nameOf items

end

variable {α : Type} {t : Letters α} {nameOf : α → String}

theorem canStartWith_of_begins (ht : t.Bear nameOf) {p : Particle} (h : p.InOrder) {name : String} :
    p.Begins t nameOf name → p.canStartWith name = true := by
  rintro ⟨x, w, hw, rfl⟩
  exact canStartWith_of_mem ht h hw

theorem commits_of_inOrder (ht : t.Bear nameOf) {items : List Particle} (h : ItemsInOrder items) :
    Commits t nameOf items := by
  intro s valid path e rest hbegins
  obtain ⟨q, hq, hbegins⟩ := hbegins
  have hstart := canStartWith_of_begins ht (h.of_mem hq) hbegins
  have hsome : (items.find? (·.canStartWith e.tag.name.part)).isSome = true :=
    List.find?_isSome.mpr ⟨q, hq, hstart⟩
  obtain ⟨p, hp⟩ := Option.isSome_iff_exists.mp hsome
  exact ⟨p, hp, chosen_of_find? hp⟩

theorem foretells_of_inOrder (ht : t.Bear nameOf) {p : Particle} (h : p.InOrder) :
    p.Foretells t nameOf where
  empties := (nil_mem_language_iff h).symm
  begins _ := canStartWith_of_begins ht h
  rounds := by
    rintro items o rfl s valid path cs
    exact matchParticle_choice
  commits := by
    rintro items o rfl
    exact commits_of_inOrder ht h.2

end Particle

theorem Letters.ofNames_bear : Letters.ofNames.Bear id where
  declared h := h
  global h := h

/-- Every particle in one that is read agrees with what is found out about it, and in every round of a
choice in it that decides what becomes of the next element. -/
theorem Particle.IsRead.every_foretells {α : Type} {t : Letters α} {nameOf : α → String}
    (ht : t.Bear nameOf) {p : Particle} (hread : p.IsRead) : p.Every (Foretells t nameOf) := by
  have hin : p.Every InOrder := hread.inOrder.every
  exact hin.imp fun _ h => foretells_of_inOrder ht h

def optionalsOrOne : List Particle :=
  [.sequence [.element "a" .any ⟨0, some 1⟩, .element "b" .any ⟨0, none⟩] ⟨1, some 1⟩,
    .element "c" .any ⟨1, some 1⟩]

/-- A choice of them stands for nothing, since one of them does, but it takes the second one for an
element that this one can begin with. -/
theorem Particle.IsRead.every_foretells_of_optionals :
    let s : Schema := ⟨none, [], []⟩
    let c := XmlElement.ofNodes [plainNode "c"]
    (Particle.choice optionalsOrOne ⟨1, some 1⟩).IsRead ∧ Letters.ofNames.Bear id ∧
      [] ∈ (Particle.choice optionalsOrOne ⟨1, some 1⟩).language .ofNames ∧
      chosen s (checkElement s 1) "/r" optionalsOrOne c =
        matchParticle s (checkElement s 1) "/r" (.element "c" .any ⟨1, some 1⟩) c := by
  intro s c
  have hread : particle? {} (.element (plainTag "choice" []) [
      .element (plainTag "sequence" []) [
        .element (plainTag "element" [("name", "a"), ("minOccurs", "0")]) [],
        .element (plainTag "element"
          [("name", "b"), ("minOccurs", "0"), ("maxOccurs", "unbounded")]) []],
      .element (plainTag "element" [("name", "c")]) []]) =
      .ok (some (.choice optionalsOrOne ⟨1, some 1⟩)) := by
    rfl
  have hchoice := (Particle.IsRead.every_foretells Letters.ofNames_bear ⟨_, _, hread⟩).1
  have hbegins : (Particle.element "c" .any ⟨1, some 1⟩).Begins .ofNames id "c" := by
    refine ⟨"c", [], Occurs.mem_powers_single.mpr ⟨⟨Nat.le_refl 1, fun most hmost => ?_⟩, ?_⟩, rfl⟩
    · cases hmost
      exact Nat.le_refl 1
    · exact fun x hx => List.mem_singleton.mp hx
  refine ⟨⟨_, _, hread⟩, Letters.ofNames_bear, hchoice.empties.mp rfl, ?_⟩
  obtain ⟨q, hfirst, hround⟩ := hchoice.commits optionalsOrOne ⟨1, some 1⟩ rfl s (checkElement s 1) "/r"
    ⟨plainTag "c" [], []⟩ [] ⟨_, .tail _ (.head _), hbegins⟩
  have hq : q = .element "c" .any ⟨1, some 1⟩ := by
    cases hfirst
    rfl
  rwa [hq] at hround

end Xsd
end RequestMatching
