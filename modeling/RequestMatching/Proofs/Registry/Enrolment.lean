import RequestMatching.Proofs.Request.Equality
import RequestMatching.Registry.Basic

/-!
# Enrolments

An enrolment lists what a registry has been told about the expectations in it, in the order of their
registration. It keeps the definition that requests are compared with beside the expectation, since a
definition stays as it is when another one comes that equals it as a value.
-/

namespace RequestMatching

structure Enrolled where
  /-- The one that was added last, with the time of creation of the first. -/
  expectation : Expectation
  definition : RequestDefinition
  active : Bool := true
  busy : Bool := false

namespace Enrolled

/-- What becomes of an expectation when another one comes under its identifier. -/
def renew (e : Expectation) (x : Enrolled) : Enrolled :=
  { x with
    expectation := { e with created := x.expectation.created }
    definition := if x.definition.equal e.request then x.definition else e.request }

def accepts (c : Comparator) (matchType : JsonMatchType) (r : HttpRequest) (x : Enrolled) : Bool :=
  ((RequestPattern.ofDefinition matchType x.definition).attempt c r none).accepted

/-- Whether one expectation does not come after another: a higher priority comes first, and of two
with one priority the older. -/
def notAfter (a b : Enrolled) : Bool :=
  b.expectation.priority < a.expectation.priority ||
    (a.expectation.priority = b.expectation.priority &&
      (compare a.expectation.created b.expectation.created).isLE)

end Enrolled

abbrev Enrolment := List Enrolled

inductive Registry.Op where
  | add (e : Expectation) (origin : Origin)
  | remove (id : String)
  | reset
  | setActive (id : String) (active : Bool)
  | setBusy (id : String) (busy : Bool)
  | lookup (r : HttpRequest)

namespace Enrolment

def change (id : String) (f : Enrolled → Enrolled) (l : Enrolment) : Enrolment :=
  l.map fun x => if x.expectation.id = id then f x else x

def push (capacity : Nat) (e : Expectation) (l : Enrolment) : Enrolment :=
  let longer := l ++ [⟨e, e.request, true, false⟩]
  if longer.length ≤ capacity then longer else longer.tail

/-- Adds a valid expectation, or renews the one that has its identifier already. -/
def add (capacity : Nat) (e : Expectation) (l : Enrolment) : Enrolment :=
  if Text.isBlank e.id || capacity = 0 then l
  else if l.any (·.expectation.id = e.id) then l.change e.id (.renew e)
  else l.push capacity e

def apply (capacity : Nat) (l : Enrolment) : Registry.Op → Enrolment
  | .add e _ => l.add capacity e
  | .remove id => l.filter (·.expectation.id ≠ id)
  | .reset => []
  | .setActive id active => l.change id fun x => { x with active }
  | .setBusy id busy => l.change id fun x => { x with busy }
  | .lookup _ => l

def run (capacity : Nat) (l : Enrolment) : List Registry.Op → Enrolment
  | [] => l
  | op :: ops => (l.apply capacity op).run capacity ops

/-- The expectations in the order of attempts, those that do not differ in it as they stand. -/
def byPrecedence (l : Enrolment) : List Enrolled :=
  l.mergeSort Enrolled.notAfter

end Enrolment

namespace Registry

def apply (r : Registry) : Op → Registry
  | .add e origin =>
    match r.add e origin with
    | .ok (_, r) => r
    | .error _ => r
  | .remove id => (r.remove id).2
  | .reset => r.reset
  | .setActive id active => r.setActive id active
  | .setBusy id busy => r.setBusy id busy
  | .lookup request => (r.firstMatch request).2

def run (r : Registry) : List Op → Registry
  | [] => r
  | op :: ops => (r.apply op).run ops

/-- Whether an expectation that is added has no negative zero in its definition. -/
def Op.isPlain : Op → Bool
  | .add e _ => e.request.isPlain
  | _ => true

end Registry

namespace Enrolment

/-! ## What holds of all that is enrolled -/

variable {capacity : Nat} {P : Enrolled → Prop}

theorem forall_change {l : Enrolment} {id : String} {f : Enrolled → Enrolled}
    (hf : ∀ x, P x → P (f x)) (h : ∀ x ∈ l, P x) : ∀ x ∈ l.change id f, P x := by
  intro y hy
  obtain ⟨x, hx, rfl⟩ := List.mem_map.mp hy
  split
  · exact hf x (h x hx)
  · exact h x hx

theorem forall_push {l : Enrolment} {e : Expectation} (he : P ⟨e, e.request, true, false⟩)
    (h : ∀ x ∈ l, P x) : ∀ x ∈ l.push capacity e, P x := by
  have hlonger : ∀ x ∈ l ++ [⟨e, e.request, true, false⟩], P x := by
    intro x hx
    rcases List.mem_append.mp hx with hx | hx
    · exact h x hx
    · rwa [List.mem_singleton.mp hx]
  rw [push]
  split
  · exact hlonger
  · exact fun x hx => hlonger x (List.mem_of_mem_tail hx)

/-- What holds of new expectations and is kept by renewals and by changes of state holds of all that
is enrolled, step by step. -/
theorem forall_apply {l : Enrolment} {op : Registry.Op}
    (hnew : ∀ e origin, op = .add e origin → Text.isBlank e.id = false → P ⟨e, e.request, true, false⟩)
    (hrenew : ∀ e origin, op = .add e origin → Text.isBlank e.id = false → ∀ x, P x → P (x.renew e))
    (hstate : ∀ x active busy, P x → P { x with active, busy }) (h : ∀ x ∈ l, P x) :
    ∀ x ∈ l.apply capacity op, P x := by
  cases op with
  | add e origin =>
    rw [apply, add]
    cases he : Text.isBlank e.id with
    | true => exact h
    | false =>
      rw [Bool.false_or]
      split
      · exact h
      · split
        · exact forall_change (hrenew e origin rfl he) h
        · exact forall_push (hnew e origin rfl he) h
  | remove id => exact fun x hx => h x (List.mem_filter.mp hx).1
  | reset => exact fun x hx => absurd hx List.not_mem_nil
  | setActive id active => exact forall_change (fun x hx => hstate x active x.busy hx) h
  | setBusy id busy => exact forall_change (fun x hx => hstate x x.active busy hx) h
  | lookup r => exact h

theorem forall_run {ops : List Registry.Op}
    (hnew : ∀ e origin, .add e origin ∈ ops → Text.isBlank e.id = false →
      P ⟨e, e.request, true, false⟩)
    (hrenew : ∀ e origin, .add e origin ∈ ops → Text.isBlank e.id = false →
      ∀ x, P x → P (x.renew e))
    (hstate : ∀ x active busy, P x → P { x with active, busy }) :
    ∀ l : Enrolment, (∀ x ∈ l, P x) → ∀ x ∈ l.run capacity ops, P x := by
  induction ops with
  | nil => exact fun l h => h
  | cons op ops ih =>
    intro l h
    refine ih (fun e origin he => hnew e origin (List.mem_cons_of_mem _ he))
      (fun e origin he => hrenew e origin (List.mem_cons_of_mem _ he)) (l.apply capacity op) ?_
    refine forall_apply ?_ ?_ hstate h
    · exact fun e origin he => hnew e origin (he ▸ List.mem_cons_self ..)
    · exact fun e origin he => hrenew e origin (he ▸ List.mem_cons_self ..)

theorem renew_request (e : Expectation) (x : Enrolled) :
    (x.renew e).expectation.request = e.request :=
  rfl

theorem renew_definition (e : Expectation) (x : Enrolled) : (x.renew e).definition =
    if x.definition.equal e.request then x.definition else e.request :=
  rfl

theorem not_isBlank_run (capacity : Nat) (ops : List Registry.Op) :
    ∀ x ∈ run capacity [] ops, Text.isBlank x.expectation.id = false :=
  forall_run (P := fun x => Text.isBlank x.expectation.id = false) (fun _ _ _ he => he)
    (fun _ _ _ he _ _ => he) (fun _ _ _ h => h) [] (by simp)

theorem definition_run (capacity : Nat) (ops : List Registry.Op) :
    ∀ x ∈ run capacity [] ops,
      x.definition = x.expectation.request ∨ x.definition.equal x.expectation.request = true := by
  refine forall_run (P := fun x => x.definition = x.expectation.request ∨
    x.definition.equal x.expectation.request = true) (fun e _ _ _ => .inl rfl) (fun e _ _ _ x _ => ?_)
    (fun _ _ _ h => h) [] (by simp)
  rw [renew_request, renew_definition]
  split
  · exact .inr ‹_›
  · exact .inl rfl

/-- Without negative zeros the definition that is compared is the one that was added last. -/
theorem definition_run_of_plain (capacity : Nat) {ops : List Registry.Op}
    (hops : ∀ op ∈ ops, op.isPlain = true) :
    ∀ x ∈ run capacity [] ops, x.definition = x.expectation.request := by
  have hplain : ∀ x ∈ run capacity [] ops,
      x.definition = x.expectation.request ∧ x.definition.isPlain = true := by
    refine forall_run (P := fun x => x.definition = x.expectation.request ∧
      x.definition.isPlain = true) (fun e origin he _ => ⟨rfl, hops _ he⟩)
      (fun e origin he _ x hx => ?_)
      (fun _ _ _ h => h) [] (by simp)
    rw [renew_request, renew_definition]
    split
    · exact ⟨RequestDefinition.eq_of_equal ‹_› hx.2 (hops _ he), hx.2⟩
    · exact ⟨rfl, hops _ he⟩
  exact fun x hx => (hplain x hx).1

end Enrolment

end RequestMatching
