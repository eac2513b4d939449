import Mathlib.Data.Int.ConditionallyCompleteOrder
import Mathlib.Data.List.Induction
import Mathlib.Data.Nat.Digits.Defs
import Mathlib.Order.Interval.Set.Defs
import RequestMatching.Proofs.Xsd.SimpleTypes

/-!
# Integers in their written form

A written integer is an optional sign and decimal digits. The integer types accept such a text if the
number belongs to them and 128 bits are enough for it; a text is only put to this test after a plus sign
at its front has been taken off.
-/

namespace RequestMatching

namespace Xsd

/-- One or more of the ten ASCII digits. -/
def AreDigits (ds : List Char) : Prop :=
  ds ≠ [] ∧ ∀ d ∈ ds, '0' ≤ d ∧ d ≤ '9'

/-- The number that digits denote, where the last one counts ones. -/
def denoted (ds : List Char) : Nat :=
  Nat.ofDigits 10 (ds.reverse.map fun d => d.toNat - '0'.toNat)

/-- A text is the written form of an integer. -/
inductive Spells : List Char → Int → Prop
  | unsigned {ds : List Char} (h : AreDigits ds) : Spells ds (denoted ds)
  | plus {ds : List Char} (h : AreDigits ds) : Spells ('+' :: ds) (denoted ds)
  | minus {ds : List Char} (h : AreDigits ds) : Spells ('-' :: ds) (-denoted ds)

/-- The integers that belong to a type of integers. -/
def BuiltIn.integers? : BuiltIn → Option (Set Int)
  | int => some (Set.Ico (-2 ^ 31) (2 ^ 31))
  | long => some (Set.Ico (-2 ^ 63) (2 ^ 63))
  | short => some (Set.Ico (-2 ^ 15) (2 ^ 15))
  | integer => some Set.univ
  | positiveInteger => some (Set.Ioi 0)
  | nonNegativeInteger => some (Set.Ici 0)
  | _ => none

/-- A plus sign in front of another sign. -/
def HasPlusBeforeSign : List Char → Prop
  | '+' :: '+' :: _ | '+' :: '-' :: _ => True
  | _ => False

/-! ## Digits -/

theorem value_append (ds : List Char) (d : Char) :
    Digits.value (ds ++ [d]) = Digits.value ds * 10 + (d.toNat - 48) := by
  simp [Digits.value]

theorem value_eq_denoted (ds : List Char) : Digits.value ds = denoted ds := by
  induction ds using List.reverseRecOn with
  | nil => rfl
  | append_singleton ds d ih =>
    have hlast : denoted (ds ++ [d]) = (d.toNat - 48) + 10 * denoted ds := by
      simp [denoted, Nat.ofDigits_cons]
    rw [value_append, hlast, ih]
    omega

theorem isDigit_iff (c : Char) : c.isDigit = true ↔ '0' ≤ c ∧ c ≤ '9' := by
  simp [Char.isDigit, Char.le_def]

theorem areDigits_iff (ds : List Char) :
    (!ds.isEmpty && ds.all Char.isDigit) = true ↔ AreDigits ds := by
  simp [AreDigits, isDigit_iff]

instance : DecidablePred AreDigits :=
  fun ds => decidable_of_iff _ (areDigits_iff ds)

theorem natural?_eq_some_iff {ds : List Char} {n : Nat} :
    Digits.natural? ds = some n ↔ AreDigits ds ∧ n = denoted ds := by
  unfold Digits.natural?
  by_cases hds : AreDigits ds
  · simp [(areDigits_iff ds).mpr hds, hds, value_eq_denoted, eq_comm]
  · simp [mt (areDigits_iff ds).mp hds, hds]

theorem AreDigits.head {c : Char} {ds : List Char} (h : AreDigits (c :: ds)) : c ≠ '+' ∧ c ≠ '-' := by
  have hc := (isDigit_iff c).mpr (h.2 c (List.mem_cons_self ..))
  exact ⟨fun he => by subst he; simp at hc, fun he => by subst he; simp at hc⟩

/-! ## Signs -/

theorem spells_plus_iff {ds : List Char} {i : Int} :
    Spells ('+' :: ds) i ↔ AreDigits ds ∧ i = denoted ds := by
  constructor
  · intro h
    cases h with
    | unsigned h => exact absurd rfl h.head.1
    | plus h => exact ⟨h, rfl⟩
  · rintro ⟨h, rfl⟩
    exact .plus h

theorem spells_minus_iff {ds : List Char} {i : Int} :
    Spells ('-' :: ds) i ↔ AreDigits ds ∧ i = -denoted ds := by
  constructor
  · intro h
    cases h with
    | unsigned h => exact absurd rfl h.head.2
    | minus h => exact ⟨h, rfl⟩
  · rintro ⟨h, rfl⟩
    exact .minus h

theorem spells_iff {cs : List Char} {i : Int} (hplus : ∀ ds, cs ≠ '+' :: ds)
    (hminus : ∀ ds, cs ≠ '-' :: ds) : Spells cs i ↔ AreDigits cs ∧ i = denoted cs := by
  constructor
  · intro h
    cases h with
    | unsigned h => exact ⟨h, rfl⟩
    | plus h => exact absurd rfl (hplus _)
    | minus h => exact absurd rfl (hminus _)
  · rintro ⟨h, rfl⟩
    exact .unsigned h

theorem map_natural?_eq_some_iff {ds : List Char} {f : Nat → Int} {i : Int} :
    (Digits.natural? ds).map f = some i ↔ AreDigits ds ∧ i = f (denoted ds) := by
  simp only [Option.map_eq_some_iff, natural?_eq_some_iff]
  constructor
  · rintro ⟨-, ⟨h, rfl⟩, rfl⟩
    exact ⟨h, rfl⟩
  · rintro ⟨h, rfl⟩
    exact ⟨_, ⟨h, rfl⟩, rfl⟩

theorem signed?_eq_some_iff {bits : Nat} {cs : List Char} {i : Int} :
    Digits.signed? bits cs = some i ↔ Spells cs i ∧ fitsSigned bits i = true := by
  unfold Digits.signed?
  rw [Option.filter_eq_some_iff]
  refine and_congr_left' ?_
  split
  · rw [map_natural?_eq_some_iff, spells_plus_iff]; rfl
  · rw [map_natural?_eq_some_iff, spells_minus_iff]; rfl
  · rename_i hplus hminus
    rw [map_natural?_eq_some_iff, spells_iff hplus hminus]; rfl

theorem integerOf?_eq_some_iff {cs : List Char} {i : Int} (hsigns : ¬ HasPlusBeforeSign cs) :
    integerOf? cs = some i ↔ Spells cs i ∧ fitsSigned 128 i = true := by
  unfold integerOf?
  split
  · rename_i ds
    have hplus : ∀ rest, ds ≠ '+' :: rest := fun rest he => hsigns (by subst he; trivial)
    have hminus : ∀ rest, ds ≠ '-' :: rest := fun rest he => hsigns (by subst he; trivial)
    rw [signed?_eq_some_iff, spells_iff hplus hminus, spells_plus_iff]
  · exact signed?_eq_some_iff

theorem fitsSigned_iff {bits : Nat} {i : Int} :
    fitsSigned bits i = true ↔ i ∈ Set.Ico (-2 ^ (bits - 1)) (2 ^ (bits - 1)) := by
  have htwoTo : (twoTo (bits - 1) : Int) = 2 ^ (bits - 1) := Nat.cast_pow 2 (bits - 1)
  rw [fitsSigned, leastSigned, greatestSigned, htwoTo, Bool.and_eq_true, decide_eq_true_eq,
    decide_eq_true_eq, Set.mem_Ico, Int.le_sub_one_iff]

theorem BuiltIn.check_eq_isInteger {type : BuiltIn} {integers : Set Int}
    (h : type.integers? = some integers) : ∃ inRange : Int → Bool,
      (∀ i, inRange i = true ↔ i ∈ integers) ∧ ∀ cs, type.check cs = isInteger cs inRange := by
  unfold integers? at h
  split at h <;> cases h
  · exact ⟨fitsSigned 32, fun i => fitsSigned_iff, fun cs => rfl⟩
  · exact ⟨fitsSigned 64, fun i => fitsSigned_iff, fun cs => rfl⟩
  · exact ⟨fitsSigned 16, fun i => fitsSigned_iff, fun cs => rfl⟩
  · exact ⟨fun _ => true, fun i => by simp, fun cs => rfl⟩
  · exact ⟨(0 < ·), fun i => by simp, fun cs => rfl⟩
  · exact ⟨(0 ≤ ·), fun i => by simp, fun cs => rfl⟩

/-- A type of integers accepts a text, with white space taken off its ends, exactly if it is the written
form of an integer that belongs to the type and that 128 bits can hold. -/
theorem check_iff_spells {type : BuiltIn} {integers : Set Int} (htype : type.integers? = some integers)
    {raw : String} (hsigns : ¬ HasPlusBeforeSign (Text.trim raw).toList) :
    (SimpleType.mk type []).check raw = .ok () ↔
      ∃ i ∈ integers, Spells (Text.trim raw).toList i ∧ i ∈ Set.Ico (-2 ^ 127) (2 ^ 127) := by
  obtain ⟨inRange, hrange, hcheck⟩ := BuiltIn.check_eq_isInteger htype
  have hbase : SimpleType.normalized type raw = Text.trim raw := by
    refine if_neg fun hstring => ?_
    subst hstring
    cases htype
  rw [SimpleType.check_builtIn_eq_ok_iff, hbase, hcheck, isInteger, Option.any_eq_true]
  simp only [integerOf?_eq_some_iff hsigns, fitsSigned_iff, hrange]
  constructor
  · rintro ⟨i, ⟨hspells, hfits⟩, hi⟩
    exact ⟨i, hi, hspells, hfits⟩
  · rintro ⟨i, hi, hspells, hfits⟩
    exact ⟨i, ⟨hspells, hfits⟩, hi⟩

theorem check_iff_spells_of_short : (SimpleType.mk .short []).check " -32768\n" = .ok () := by
  have htext : (Text.trim " -32768\n").toList = "-32768".toList := by decide +kernel
  have hsigns : ¬ HasPlusBeforeSign (Text.trim " -32768\n").toList := by
    rw [htext]
    exact id
  have hshort : BuiltIn.integers? .short = some (Set.Ico (-2 ^ 15) (2 ^ 15)) := rfl
  refine (check_iff_spells hshort hsigns).mpr ⟨-32768, by decide, ?_, by decide⟩
  have hdigits : AreDigits "32768".toList := by decide
  rw [htext]
  exact .minus hdigits

/-- The number 2 ^ 127 is an integer, but none that is accepted. -/
theorem not_check_iff_spells : ¬ ∀ type integers, BuiltIn.integers? type = some integers →
    ∀ raw, ((SimpleType.mk type []).check raw = .ok () ↔
      ∃ i ∈ integers, Spells (Text.trim raw).toList i) := by
  intro h
  have htext : (Text.trim "170141183460469231731687303715884105728").toList =
      "170141183460469231731687303715884105728".toList := by decide +kernel
  have hdigits : AreDigits "170141183460469231731687303715884105728".toList := by decide
  have haccepted := (h .integer Set.univ rfl "170141183460469231731687303715884105728").mpr
    ⟨_, trivial, by rw [htext]; exact .unsigned hdigits⟩
  have hrefused : ((SimpleType.mk .integer []).check
      "170141183460469231731687303715884105728").isOk = false := by decide +kernel
  rw [haccepted] at hrefused
  cases hrefused

end Xsd
end RequestMatching
