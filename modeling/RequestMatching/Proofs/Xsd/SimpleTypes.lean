import RequestMatching.Xsd.SimpleType

/-!
# What simple types accept

A restriction is said here without its order of checks: the texts that it admits. A simple type accepts
a text if its built-in type does and all of its restrictions admit the text, with white space taken off
its ends where the built-in type says so.
-/

namespace RequestMatching

namespace Xsd

theorem ok_of_unless {p : Prop} [Decidable p] {message : String} {x : Except String Unit} :
    (if p then .error message else x) = .ok () ↔ ¬ p ∧ x = .ok () := by
  by_cases hp : p <;> simp [hp]

theorem ok_of_both {x y : Except String Unit} :
    (x >>= fun _ => y) = .ok () ↔ x = .ok () ∧ y = .ok () := by
  cases x <;> simp [bind, Except.bind]

namespace Facets

/-- The texts that a restriction admits. Listed values and patterns are alternatives each, all else has
to hold. -/
structure Admits (f : Facets) (value : String) : Prop where
  listed : f.enumeration ≠ [] → value ∈ f.enumeration
  matched : f.patterns ≠ [] → ∃ r ∈ f.patterns, r.isMatch value = true
  length : ∀ n ∈ f.length, value.length = n
  minLength : ∀ n ∈ f.minLength, n ≤ value.length
  maxLength : ∀ n ∈ f.maxLength, value.length ≤ n
  range : f.isBounded = true → ∃ x, floatOf? value.toList = some x ∧ f.isOutOfRange x = false

variable {f : Facets} {value : String}

theorem checkLength_eq_ok_iff : f.checkLength value = .ok () ↔
    (∀ n ∈ f.length, value.length = n) ∧ (∀ n ∈ f.minLength, n ≤ value.length) ∧
      ∀ n ∈ f.maxLength, value.length ≤ n := by
  simp [checkLength, ok_of_unless, Option.any_eq_true]

theorem checkRange_eq_ok_iff : f.checkRange value = .ok () ↔
    (f.isBounded = true → ∃ x, floatOf? value.toList = some x ∧ f.isOutOfRange x = false) := by
  unfold checkRange
  by_cases hbounded : f.isBounded
  · cases hnumber : floatOf? value.toList with
    | none => simp [hbounded]
    | some x => by_cases hrange : f.isOutOfRange x <;> simp [hbounded, hrange]
  · simp [hbounded]

theorem check_eq_ok_iff : f.check value = .ok () ↔ f.Admits value := by
  have hlisted : ¬ (!f.enumeration.isEmpty && !f.enumeration.contains value) = true ↔
      (f.enumeration ≠ [] → value ∈ f.enumeration) := by
    simp [Decidable.imp_iff_not_or]
  have hmatched : ¬ (!f.patterns.isEmpty && !f.patterns.any (·.isMatch value)) = true ↔
      (f.patterns ≠ [] → ∃ r ∈ f.patterns, r.isMatch value = true) := by
    simp [Decidable.imp_iff_not_or]
  simp only [check, ok_of_unless, ok_of_both, checkLength_eq_ok_iff, checkRange_eq_ok_iff, hlisted,
    hmatched]
  constructor
  · rintro ⟨hlisted, hmatched, ⟨hlength, hmin, hmax⟩, hrange⟩
    exact ⟨hlisted, hmatched, hlength, hmin, hmax, hrange⟩
  · intro h
    exact ⟨h.listed, h.matched, ⟨h.length, h.minLength, h.maxLength⟩, h.range⟩

end Facets

namespace SimpleType

def normalized (base : BuiltIn) (raw : String) : String :=
  if base = .string then raw else Text.trim raw

variable {t : SimpleType} {raw : String}

theorem checkAll_eq_ok_iff {value : String} : ∀ {restrictions : List Facets},
    checkAll value restrictions = .ok () ↔ ∀ f ∈ restrictions, f.Admits value
  | [] => by simp [checkAll]
  | f :: rest => by
    rw [checkAll, ok_of_both, Facets.check_eq_ok_iff, checkAll_eq_ok_iff, List.forall_mem_cons]

theorem check_eq_ok_iff : t.check raw = .ok () ↔
    t.base.check (normalized t.base raw).toList = true ∧
      ∀ f ∈ t.restrictions, f.Admits (normalized t.base raw) := by
  simp only [check, ← checkAll_eq_ok_iff, normalized]
  by_cases hform : t.base.check (if t.base = .string then raw else Text.trim raw).toList
  · simp [hform]
  · simp [hform]

theorem check_builtIn_eq_ok_iff {base : BuiltIn} : (SimpleType.mk base []).check raw = .ok () ↔
    base.check (normalized base raw).toList = true := by
  simp [check_eq_ok_iff]

end SimpleType

end Xsd
end RequestMatching
