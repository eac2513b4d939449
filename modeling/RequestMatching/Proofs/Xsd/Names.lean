import RequestMatching.Proofs.Xsd.Language

/-!
# Names in content models

The words of a particle hold no names but those of its elements, and they begin with a name only if
the particle can start with it. Elements that are what declarations ask for are told by their names,
so that a word of them is one of names.
-/

namespace RequestMatching

namespace Xsd

section
variable {α : Type} {said : α → Prop} {l : Language α} {ls : List (Language α)} {x : α} {w : List α}

theorem forall_mem_pow (h : ∀ w ∈ l, ∀ x ∈ w, said x) : ∀ {n : Nat} {w : List α},
    w ∈ l ^ n → ∀ x ∈ w, said x
  | 0, _, hw => by
    rw [pow_zero, Language.mem_one] at hw
    simp [hw]
  | n + 1, _, hw => by
    rw [pow_succ', Language.mem_mul] at hw
    obtain ⟨a, ha, b, hb, rfl⟩ := hw
    exact List.forall_mem_append.mpr ⟨h a ha, forall_mem_pow h hb⟩

theorem forall_mem_prod (h : ∀ l ∈ ls, ∀ w ∈ l, ∀ x ∈ w, said x) {w : List α}
    (hw : w ∈ ls.prod) : ∀ x ∈ w, said x := by
  induction ls generalizing w with
  | nil =>
    rw [List.prod_nil, Language.mem_one] at hw
    simp [hw]
  | cons l rest ih =>
    rw [List.prod_cons, Language.mem_mul] at hw
    obtain ⟨a, ha, b, hb, rfl⟩ := hw
    rw [List.forall_mem_cons] at h
    exact List.forall_mem_append.mpr ⟨h.1 a ha, ih h.2 hb⟩

theorem forall_mem_powers {o : Occurs} (h : ∀ w ∈ l, ∀ x ∈ w, said x) (hw : w ∈ o.powers l) :
    ∀ x ∈ w, said x :=
  forall_mem_pow h hw.choose_spec.2

theorem cons_mem_mul {m : Language α} : x :: w ∈ l * m ↔
    (∃ u v, x :: u ∈ l ∧ v ∈ m ∧ u ++ v = w) ∨ ([] ∈ l ∧ x :: w ∈ m) := by
  rw [Language.mem_mul]
  constructor
  · rintro ⟨a, ha, b, hb, hab⟩
    cases a with
    | nil => exact .inr ⟨ha, hab ▸ hb⟩
    | cons y a =>
      obtain ⟨rfl, htail⟩ := List.cons.inj hab
      exact .inl ⟨a, b, ha, hb, htail⟩
  · rintro (⟨u, v, hu, hv, rfl⟩ | ⟨hl, hm⟩)
    · exact ⟨x :: u, hu, v, hv, rfl⟩
    · exact ⟨[], hl, x :: w, hm, rfl⟩

theorem exists_cons_mem_of_pow : ∀ {n : Nat}, x :: w ∈ l ^ n → ∃ u, x :: u ∈ l
  | 0, h => by cases h
  | n + 1, h => by
    rw [pow_succ', cons_mem_mul] at h
    rcases h with ⟨u, -, hu, -⟩ | ⟨-, h⟩
    · exact ⟨u, hu⟩
    · exact exists_cons_mem_of_pow h

theorem exists_cons_mem_of_powers {o : Occurs} (h : x :: w ∈ o.powers l) : ∃ u, x :: u ∈ l :=
  exists_cons_mem_of_pow h.choose_spec.2

theorem exists_cons_mem_of_prod (h : x :: w ∈ ls.prod) : ∃ l ∈ ls, ∃ u, x :: u ∈ l := by
  induction ls with
  | nil => cases h
  | cons l rest ih =>
    rw [List.prod_cons, cons_mem_mul] at h
    rcases h with ⟨u, -, hu, -⟩ | ⟨-, h⟩
    · exact ⟨l, .head _, u, hu⟩
    · obtain ⟨m, hm, hu⟩ := ih h
      exact ⟨m, .tail _ hm, hu⟩

end

/-- What is taken for an element of a name bears that name. -/
structure Letters.Bear {α : Type} (t : Letters α) (nameOf : α → String) : Prop where
  declared : ∀ {name type x}, t.declared name type x → nameOf x = name
  global : ∀ {name x}, t.global name x → nameOf x = name

namespace Particle

mutual

def names : Particle → List String
  | .element name _ _ | .reference name _ => [name]
  | .sequence items _ | .choice items _ | .all items _ => itemNames items

def itemNames : List Particle → List String
  | [] => []
  | p :: rest => names p ++ itemNames rest

end

variable {α : Type} {t : Letters α} {nameOf : α → String}

mutual

theorem mem_names (ht : t.Bear nameOf) : ∀ {p : Particle} {w : List α}, w ∈ p.language t →
    ∀ x ∈ w, nameOf x ∈ p.names
  | .element name type o, w, h => fun x hx =>
    List.mem_singleton.mpr (ht.declared ((Occurs.mem_powers_single.mp h).2 x hx))
  | .reference name o, w, h => fun x hx =>
    List.mem_singleton.mpr (ht.global ((Occurs.mem_powers_single.mp h).2 x hx))
  | .sequence items o, w, h =>
    forall_mem_powers (fun _ hw => forall_mem_prod (fun _ hl _ hv => mem_itemNames ht hl hv) hw) h
  | .choice items o, w, h => by
    refine forall_mem_powers (fun v hv => ?_) h
    obtain ⟨l, hl, hv⟩ := mem_sum.mp hv
    exact mem_itemNames ht hl hv
  | .all items o, w, h => by
    refine forall_mem_powers (fun v hv => ?_) h
    obtain ⟨order, hperm, hv⟩ := hv
    exact forall_mem_prod (fun _ hl _ hw => mem_itemNames ht (hperm.mem_iff.mp hl) hw) hv

theorem mem_itemNames (ht : t.Bear nameOf) : ∀ {items : List Particle} {l : Language α} {w : List α},
    l ∈ languages t items → w ∈ l → ∀ x ∈ w, nameOf x ∈ itemNames items
  | [], _, _, hl, _ => nomatch hl
  | p :: rest, _, _, hl, hw => fun x hx => by
    rw [itemNames, List.mem_append]
    cases hl with
    | head => exact .inl (mem_names ht hw x hx)
    | tail _ hl => exact .inr (mem_itemNames ht hl hw x hx)

end

mutual

theorem canStartWith_of_mem (ht : t.Bear nameOf) : ∀ {p : Particle} {x : α} {w : List α},
    p.InOrder → x :: w ∈ p.language t → p.canStartWith (nameOf x) = true
  | .element name type o, x, w, _, h => by
    have hx := (Occurs.mem_powers_single.mp h).2 x (.head _)
    simp [canStartWith, ht.declared hx]
  | .reference name o, x, w, _, h => by
    have hx := (Occurs.mem_powers_single.mp h).2 x (.head _)
    simp [canStartWith, ht.global hx]
  | .sequence items o, x, w, hin, h => by
    obtain ⟨u, hu⟩ := exists_cons_mem_of_powers h
    exact sequenceCanStartWith_of_mem ht hin.2 hu
  | .choice items o, x, w, hin, h => by
    obtain ⟨u, hu⟩ := exists_cons_mem_of_powers h
    obtain ⟨l, hl, hu⟩ := mem_sum.mp hu
    exact anyCanStartWith_of_mem ht hin.2 hl hu
  | .all items o, x, w, hin, h => by
    obtain ⟨u, order, hperm, hu⟩ := exists_cons_mem_of_powers h
    obtain ⟨l, hl, v, hv⟩ := exists_cons_mem_of_prod hu
    exact anyCanStartWith_of_mem ht hin.2 (hperm.mem_iff.mp hl) hv

theorem sequenceCanStartWith_of_mem (ht : t.Bear nameOf) : ∀ {items : List Particle} {x : α}
    {w : List α}, ItemsInOrder items → x :: w ∈ (languages t items).prod →
    sequenceCanStartWith (nameOf x) items = true
  | [], _, _, _, h => by cases h
  | p :: rest, x, w, hin, h => by
    rw [sequenceCanStartWith, Bool.or_eq_true, Bool.and_eq_true]
    rcases cons_mem_mul.mp h with ⟨u, -, hu, -⟩ | ⟨hp, hrest⟩
    · exact .inl (canStartWith_of_mem ht hin.1 hu)
    · exact .inr ⟨(nil_mem_language_iff hin.1).mp hp, sequenceCanStartWith_of_mem ht hin.2 hrest⟩

theorem anyCanStartWith_of_mem (ht : t.Bear nameOf) : ∀ {items : List Particle} {l : Language α}
    {x : α} {w : List α}, ItemsInOrder items → l ∈ languages t items →
    x :: w ∈ l → anyCanStartWith (nameOf x) items = true
  | [], _, _, _, _, hl, _ => nomatch hl
  | p :: rest, _, x, w, hin, hl, h => by
    rw [anyCanStartWith, Bool.or_eq_true]
    cases hl with
    | head => exact .inl (canStartWith_of_mem ht hin.1 h)
    | tail _ hl => exact .inr (anyCanStartWith_of_mem ht hin.2 hl h)

end

variable {name : String}

mutual

theorem mem_names_of_canStartWith : ∀ {p : Particle}, p.canStartWith name = true → name ∈ p.names
  | .element n _ o, h | .reference n o, h => by
    rw [canStartWith, beq_iff_eq] at h
    exact List.mem_singleton.mpr h.symm
  | .sequence items o, h => mem_itemNames_of_sequence h
  | .choice items o, h | .all items o, h => mem_itemNames_of_any h

theorem mem_itemNames_of_sequence : ∀ {items : List Particle},
    sequenceCanStartWith name items = true → name ∈ itemNames items
  | [], h => nomatch h
  | p :: rest, h => by
    rw [sequenceCanStartWith, Bool.or_eq_true, Bool.and_eq_true] at h
    rw [itemNames, List.mem_append]
    exact h.imp mem_names_of_canStartWith fun h => mem_itemNames_of_sequence h.2

theorem mem_itemNames_of_any : ∀ {items : List Particle},
    anyCanStartWith name items = true → name ∈ itemNames items
  | [], h => nomatch h
  | p :: rest, h => by
    rw [anyCanStartWith, Bool.or_eq_true] at h
    rw [itemNames, List.mem_append]
    exact h.imp mem_names_of_canStartWith mem_itemNames_of_any

end

theorem anyCanStartWith_of {p : Particle} (h : p.canStartWith name = true) :
    ∀ {items : List Particle}, p ∈ items → anyCanStartWith name items = true
  | _ :: _, hp => by
    rw [anyCanStartWith, Bool.or_eq_true]
    cases hp with
    | head => exact .inl h
    | tail _ hp => exact .inr (anyCanStartWith_of h hp)

def isInline : Particle → Bool
  | .element _ _ _ | .sequence _ _ | .choice _ _ => true
  | .reference _ _ | .all _ _ => false

theorem isOrdered_of_isInline : ∀ p : Particle, p.isInline = true → p.isOrdered = true
  | .element _ _ _, _ | .sequence _ _, _ | .choice _ _, _ => rfl

mutual

def declarations : Particle → List (String × ElementType)
  | .element name type _ => [(name, type)]
  | .reference _ _ => []
  | .sequence items _ | .choice items _ | .all items _ => itemDeclarations items

def itemDeclarations : List Particle → List (String × ElementType)
  | [] => []
  | p :: rest => declarations p ++ itemDeclarations rest

end

end Particle

/-! ## Words of names -/

/-- A name stands for every element that bears it. -/
def Letters.ofNames : Letters String where
  declared name _ n := n = name
  global name n := n = name

section
variable {α β : Type} {good : α → Prop} {f : α → β} {l m : Language α} {l' m' : Language β}

/-- Of words of good letters, those of one language are the ones that another one has by their
images. -/
def Agrees (good : α → Prop) (f : α → β) (l : Language α) (l' : Language β) : Prop :=
  ∀ w, (∀ x ∈ w, good x) → (w ∈ l ↔ w.map f ∈ l')

theorem Agrees.one : Agrees good f 1 1 := by
  intro w _
  rw [Language.mem_one, Language.mem_one, List.map_eq_nil_iff]

theorem Agrees.zero : Agrees good f 0 0 :=
  fun _ _ => .rfl

theorem Agrees.add (hl : Agrees good f l l') (hm : Agrees good f m m') :
    Agrees good f (l + m) (l' + m') := by
  intro w hw
  rw [Language.mem_add, Language.mem_add, hl w hw, hm w hw]

theorem Agrees.mul (hl : Agrees good f l l') (hm : Agrees good f m m') :
    Agrees good f (l * m) (l' * m') := by
  intro w hw
  rw [Language.mem_mul, Language.mem_mul]
  constructor
  · rintro ⟨a, ha, b, hb, rfl⟩
    rw [List.forall_mem_append] at hw
    exact ⟨_, (hl a hw.1).mp ha, _, (hm b hw.2).mp hb, List.map_append.symm⟩
  · rintro ⟨a', ha, b', hb, hsplit⟩
    obtain ⟨a, b, rfl, rfl, rfl⟩ := List.map_eq_append_iff.mp hsplit.symm
    rw [List.forall_mem_append] at hw
    exact ⟨a, (hl a hw.1).mpr ha, b, (hm b hw.2).mpr hb, rfl⟩

theorem Agrees.pow (hl : Agrees good f l l') (n : Nat) : Agrees good f (l ^ n) (l' ^ n) := by
  induction n with
  | zero => exact pow_zero l ▸ pow_zero l' ▸ Agrees.one
  | succ n ih => exact pow_succ l n ▸ pow_succ l' n ▸ ih.mul hl

theorem Agrees.powers (hl : Agrees good f l l') (o : Occurs) :
    Agrees good f (o.powers l) (o.powers l') :=
  fun w hw => exists_congr fun n => and_congr_right fun _ => hl.pow n w hw

theorem Agrees.single {takes : α → Prop} {takes' : β → Prop}
    (h : ∀ x, good x → (takes x ↔ takes' (f x))) :
    Agrees good f (Xsd.single takes) (Xsd.single takes') := by
  intro w hw
  constructor
  · rintro ⟨x, hx, rfl⟩
    exact ⟨f x, (h x (hw x (.head _))).mp hx, rfl⟩
  · rintro ⟨y, hy, hmap⟩
    obtain ⟨x, rfl, rfl⟩ := List.map_eq_singleton_iff.mp hmap
    exact ⟨x, (h x (hw x (.head _))).mpr hy, rfl⟩

end

namespace Particle

variable {α : Type} {t : Letters α} {nameOf : α → String} {good : α → Prop}

mutual

/-- Where declarations take all that bear their names, words are told by the names in them. -/
theorem language_agrees : ∀ {p : Particle}, p.Every (·.isInline = true) →
    (∀ x, good x → ∀ d ∈ p.declarations, (t.declared d.1 d.2 x ↔ nameOf x = d.1)) →
    Agrees good nameOf (p.language t) (p.language .ofNames)
  | .element _ _ o, _, h => (Agrees.single fun x hx => h x hx _ (.head _)).powers o
  | .reference _ _, hinline, _ => nomatch hinline
  | .sequence _ o, hinline, h => (languages_prod_agrees hinline.2 h).powers o
  | .choice _ o, hinline, h => (languages_sum_agrees hinline.2 h).powers o
  | .all _ _, hinline, _ => nomatch hinline.1

theorem languages_prod_agrees : ∀ {items : List Particle}, EveryItem (·.isInline = true) items →
    (∀ x, good x → ∀ d ∈ itemDeclarations items, (t.declared d.1 d.2 x ↔ nameOf x = d.1)) →
    Agrees good nameOf (languages t items).prod (languages .ofNames items).prod
  | [], _, _ => Agrees.one
  | _ :: _, hinline, h =>
    (language_agrees hinline.1 fun x hx d hd => h x hx d (List.mem_append_left _ hd)).mul
      (languages_prod_agrees hinline.2 fun x hx d hd => h x hx d (List.mem_append_right _ hd))

theorem languages_sum_agrees : ∀ {items : List Particle}, EveryItem (·.isInline = true) items →
    (∀ x, good x → ∀ d ∈ itemDeclarations items, (t.declared d.1 d.2 x ↔ nameOf x = d.1)) →
    Agrees good nameOf (languages t items).sum (languages .ofNames items).sum
  | [], _, _ => Agrees.zero
  | _ :: _, hinline, h =>
    (language_agrees hinline.1 fun x hx d hd => h x hx d (List.mem_append_left _ hd)).add
      (languages_sum_agrees hinline.2 fun x hx d hd => h x hx d (List.mem_append_right _ hd))

end

end Particle

end Xsd
end RequestMatching
