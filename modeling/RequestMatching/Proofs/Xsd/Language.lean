import Mathlib.Computability.Language
import RequestMatching.Xsd.Schema

/-!
# Languages of content models

A particle stands for a language, which is said here without a search: rows of single things for
elements, products for sequences, sums for choices, and as many rounds of them as the bounds allow.
-/

namespace RequestMatching

namespace Xsd

variable {α : Type}

/-! ## Words of several languages -/

theorem nil_mem_mul {l m : Language α} : [] ∈ l * m ↔ [] ∈ l ∧ [] ∈ m := by
  rw [Language.mem_mul]
  constructor
  · rintro ⟨a, ha, b, hb, hab⟩
    obtain ⟨rfl, rfl⟩ := List.append_eq_nil_iff.mp hab
    exact ⟨ha, hb⟩
  · exact fun ⟨hl, hm⟩ => ⟨[], hl, [], hm, rfl⟩

theorem nil_mem_prod {ls : List (Language α)} : [] ∈ ls.prod ↔ ∀ l ∈ ls, [] ∈ l := by
  induction ls with
  | nil => simp
  | cons l rest ih => rw [List.prod_cons, nil_mem_mul, ih, List.forall_mem_cons]

theorem mem_sum {ls : List (Language α)} {w : List α} : w ∈ ls.sum ↔ ∃ l ∈ ls, w ∈ l := by
  induction ls with
  | nil => simp
  | cons l rest ih => simp [Language.mem_add, ih]

theorem nil_mem_pow {l : Language α} (h : [] ∈ l) (n : Nat) : [] ∈ l ^ n := by
  induction n with
  | zero => exact Language.nil_mem_one
  | succ n ih => exact pow_succ l n ▸ nil_mem_mul.mpr ⟨ih, h⟩

theorem mem_pow_of_le {l : Language α} (h : [] ∈ l) {m n : Nat} (hmn : m ≤ n) {w : List α}
    (hw : w ∈ l ^ m) : w ∈ l ^ n := by
  rw [← Nat.sub_add_cancel hmn, pow_add]
  exact Language.append_mem_mul (nil_mem_pow h (n - m)) hw

def single (takes : α → Prop) : Language α :=
  {w | ∃ x, takes x ∧ w = [x]}

theorem mem_single_pow {takes : α → Prop} : ∀ {n : Nat} {w : List α},
    w ∈ single takes ^ n ↔ w.length = n ∧ ∀ x ∈ w, takes x
  | 0, w => by
    rw [pow_zero, Language.mem_one, List.length_eq_zero_iff]
    exact ⟨fun h => ⟨h, by simp [h]⟩, fun h => h.1⟩
  | n + 1, w => by
    rw [pow_succ', Language.mem_mul]
    constructor
    · rintro ⟨_, ⟨x, hx, rfl⟩, b, hb, rfl⟩
      obtain ⟨hlen, htakes⟩ := mem_single_pow.mp hb
      exact ⟨by simp [hlen], List.forall_mem_cons.mpr ⟨hx, htakes⟩⟩
    · rintro ⟨hlen, htakes⟩
      cases w with
      | nil => simp at hlen
      | cons x w =>
        obtain ⟨hx, hw⟩ := List.forall_mem_cons.mp htakes
        exact ⟨[x], ⟨x, hx, rfl⟩, w, mem_single_pow.mpr ⟨Nat.succ.inj hlen, hw⟩, rfl⟩

/-- Words of all the languages, one after the other in some order. -/
def inAnyOrder (ls : List (Language α)) : Language α :=
  {w | ∃ order : List (Language α), order.Perm ls ∧ w ∈ order.prod}

theorem nil_mem_inAnyOrder {ls : List (Language α)} : [] ∈ inAnyOrder ls ↔ ∀ l ∈ ls, [] ∈ l := by
  constructor
  · rintro ⟨order, hperm, h⟩ l hl
    exact nil_mem_prod.mp h l (hperm.mem_iff.mpr hl)
  · exact fun h => ⟨ls, .refl ls, nil_mem_prod.mpr h⟩

/-! ## Rounds within bounds -/

namespace Occurs

def Allows (o : Occurs) (n : Nat) : Prop :=
  o.min ≤ n ∧ ∀ most ∈ o.max, n ≤ most

/-- Bounds that some number of rounds meets. -/
def InOrder (o : Occurs) : Prop :=
  ∀ most ∈ o.max, o.min ≤ most

/-- As many words in a row as the bounds allow. -/
def powers (o : Occurs) (l : Language α) : Language α :=
  {w | ∃ n, o.Allows n ∧ w ∈ l ^ n}

variable {o : Occurs} {l : Language α} {w : List α}

theorem mem_powers : w ∈ o.powers l ↔ ∃ n, o.Allows n ∧ w ∈ l ^ n :=
  .rfl

theorem InOrder.allows_min (h : o.InOrder) : o.Allows o.min :=
  ⟨Nat.le_refl _, h⟩

theorem nil_mem_powers (h : o.InOrder) : [] ∈ o.powers l ↔ o.min = 0 ∨ [] ∈ l := by
  constructor
  · rintro ⟨n, hn, hl⟩
    cases n with
    | zero => exact .inl (Nat.le_zero.mp hn.1)
    | succ n => exact .inr (nil_mem_mul.mp (pow_succ l n ▸ hl)).2
  · rintro (hmin | hl)
    · exact ⟨0, hmin ▸ h.allows_min, Language.nil_mem_one⟩
    · exact ⟨o.min, h.allows_min, nil_mem_pow hl _⟩

theorem mem_powers_single {takes : α → Prop} :
    w ∈ o.powers (single takes) ↔ o.Allows w.length ∧ ∀ x ∈ w, takes x := by
  simp only [mem_powers, mem_single_pow]
  exact ⟨fun ⟨_, hn, hlen, hw⟩ => ⟨hlen ▸ hn, hw⟩, fun ⟨hn, hw⟩ => ⟨_, hn, rfl, hw⟩⟩

end Occurs

/-! ## Particles -/

/-- What declarations take, one thing at a time: elements that are declared in their place, and
global ones that are referred to by name. -/
structure Letters (α : Type) where
  declared : String → ElementType → α → Prop
  global : String → α → Prop

namespace Particle

mutual

/-- What a particle stands for. -/
def language (t : Letters α) : Particle → Language α
  | .element name type o => o.powers (single (t.declared name type))
  | .reference name o => o.powers (single (t.global name))
  | .sequence items o => o.powers (languages t items).prod
  | .choice items o => o.powers (languages t items).sum
  | .all items o => o.powers (inAnyOrder (languages t items))

def languages (t : Letters α) : List Particle → List (Language α)
  | [] => []
  | p :: rest => language t p :: languages t rest

end

mutual

/-- What is said of particles holds of a particle and of all in it, types of elements apart. -/
def Every (said : Particle → Prop) : Particle → Prop
  | .element name type o => said (.element name type o)
  | .reference name o => said (.reference name o)
  | .sequence items o => said (.sequence items o) ∧ EveryItem said items
  | .choice items o => said (.choice items o) ∧ EveryItem said items
  | .all items o => said (.all items o) ∧ EveryItem said items

def EveryItem (said : Particle → Prop) : List Particle → Prop
  | [] => True
  | p :: rest => Every said p ∧ EveryItem said rest

end

mutual

theorem Every.imp {said told : Particle → Prop} (h : ∀ q, said q → told q) : ∀ {p : Particle},
    p.Every said → p.Every told
  | .element _ _ _, hp | .reference _ _, hp => h _ hp
  | .sequence _ _, hp | .choice _ _, hp | .all _ _, hp => ⟨h _ hp.1, EveryItem.imp h hp.2⟩

theorem EveryItem.imp {said told : Particle → Prop} (h : ∀ q, said q → told q) :
    ∀ {items : List Particle}, EveryItem said items → EveryItem told items
  | [], _ => trivial
  | _ :: _, hp => ⟨Every.imp h hp.1, EveryItem.imp h hp.2⟩

end

theorem EveryItem.of_mem {said : Particle → Prop} {p : Particle} : ∀ {items : List Particle},
    EveryItem said items → p ∈ items → p.Every said
  | _ :: _, h, hp => by
    cases hp with
    | head => exact h.1
    | tail _ hp => exact h.2.of_mem hp

def InOrder (p : Particle) : Prop :=
  p.Every fun q => q.occurs.InOrder

def ItemsInOrder (items : List Particle) : Prop :=
  EveryItem (fun q => q.occurs.InOrder) items

def isOrdered : Particle → Bool
  | .all _ _ => false
  | _ => true

/-! ## The empty word -/

variable {t : Letters α}

theorem mem_sum_languages {w : List α} : ∀ {items : List Particle},
    w ∈ (languages t items).sum ↔ ∃ p ∈ items, w ∈ p.language t
  | [] => by simp [languages]
  | p :: rest => by
    rw [languages, List.sum_cons, Language.mem_add, mem_sum_languages]
    simp

mutual

theorem nil_mem_language_iff : ∀ {p : Particle}, p.InOrder →
    ([] ∈ p.language t ↔ p.isEmptiable = true)
  | .element name type o, h => by
    simp [language, isEmptiable, Occurs.mem_powers_single, Occurs.Allows]
  | .reference name o, h => by
    simp [language, isEmptiable, Occurs.mem_powers_single, Occurs.Allows]
  | .sequence items o, h => by
    have horder : o.InOrder := h.1
    simp [language, isEmptiable, Occurs.nil_mem_powers horder, nil_mem_prod, allEmptiable_iff h.2]
  | .choice items o, h => by
    have horder : o.InOrder := h.1
    simp [language, isEmptiable, Occurs.nil_mem_powers horder, mem_sum, anyEmptiable_iff h.2]
  | .all items o, h => by
    have horder : o.InOrder := h.1
    simp [language, isEmptiable, Occurs.nil_mem_powers horder, nil_mem_inAnyOrder,
      allEmptiable_iff h.2]

theorem allEmptiable_iff : ∀ {items : List Particle}, ItemsInOrder items →
    (allEmptiable items = true ↔ ∀ l ∈ languages t items, [] ∈ l)
  | [], _ => by simp [allEmptiable, languages]
  | p :: rest, h => by
    rw [allEmptiable, Bool.and_eq_true, ← nil_mem_language_iff h.1, allEmptiable_iff h.2]
    simp [languages]

theorem anyEmptiable_iff : ∀ {items : List Particle}, ItemsInOrder items →
    (anyEmptiable items = true ↔ ∃ l ∈ languages t items, [] ∈ l)
  | [], _ => by simp [anyEmptiable, languages]
  | p :: rest, h => by
    rw [anyEmptiable, Bool.or_eq_true, ← nil_mem_language_iff h.1, anyEmptiable_iff h.2]
    simp [languages]

end

end Particle

end Xsd
end RequestMatching
