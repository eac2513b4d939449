import RequestMatching.Pattern.Flagged

/-!
# Marks in front of a value

Marks are written in one order, whatever the order was in which they were read. A value is read back
from its text exactly if the text does not go on, after the marks of the flags that are set, with the
mark of one that is not. This is so of all that has been read.
-/

namespace RequestMatching

namespace Flagged

theorem takeMark_negation (cs : List Char) (optional : Bool) :
    takeMark ('!' :: cs, false, optional) = (cs, true, optional) :=
  rfl

theorem takeMark_option (cs : List Char) (negated : Bool) :
    takeMark ('?' :: cs, negated, false) = (cs, negated, true) := by
  cases negated <;> rfl

/-- No mark is at the front whose flag is not set. -/
def Settled (cs : List Char) (negated optional : Bool) : Prop :=
  (negated = false → cs.head? ≠ some '!') ∧ (optional = false → cs.head? ≠ some '?')

theorem takeMark_of_settled {cs : List Char} {negated optional : Bool}
    (h : Settled cs negated optional) : takeMark (cs, negated, optional) = (cs, negated, optional) := by
  unfold takeMark
  split
  · rename_i heq
    cases heq
    exact absurd rfl (h.1 rfl)
  · rename_i heq
    cases heq
    exact absurd rfl (h.2 rfl)
  · rename_i heq
    cases heq
    rfl

theorem eq_cons_of_head? {cs : List Char} {c : Char} (h : cs.head? = some c) :
    ∃ rest, cs = c :: rest := by
  cases cs with
  | nil => cases h
  | cons d rest => cases h; exact ⟨rest, rfl⟩

theorem takeMark_settled (cs : List Char) {negated optional : Bool} (hne : negated ≠ optional) :
    ∃ rest n o, takeMark (cs, negated, optional) = (rest, n, o) ∧ Settled rest n o := by
  by_cases hneg : negated = false ∧ cs.head? = some '!'
  · obtain ⟨rfl, hhead⟩ := hneg
    obtain ⟨rest, rfl⟩ := eq_cons_of_head? hhead
    obtain rfl : optional = true := by simpa using hne.symm
    exact ⟨rest, true, true, rfl, nofun, nofun⟩
  · by_cases hopt : optional = false ∧ cs.head? = some '?'
    · obtain ⟨rfl, hhead⟩ := hopt
      obtain ⟨rest, rfl⟩ := eq_cons_of_head? hhead
      obtain rfl : negated = true := by simpa using hne
      exact ⟨rest, true, true, rfl, nofun, nofun⟩
    · have hsettled : Settled cs negated optional :=
        ⟨fun h h' => hneg ⟨h, h'⟩, fun h h' => hopt ⟨h, h'⟩⟩
      exact ⟨cs, negated, optional, takeMark_of_settled hsettled, hsettled⟩

theorem takeMark_twice_settled (cs : List Char) : ∃ rest negated optional,
    takeMark (takeMark (cs, false, false)) = (rest, negated, optional) ∧
      Settled rest negated optional := by
  by_cases hneg : cs.head? = some '!'
  · obtain ⟨rest, rfl⟩ := eq_cons_of_head? hneg
    exact takeMark_settled rest (by decide)
  · by_cases hopt : cs.head? = some '?'
    · obtain ⟨rest, rfl⟩ := eq_cons_of_head? hopt
      exact takeMark_settled rest (by decide)
    · have hsettled : Settled cs false false := ⟨fun _ => hneg, fun _ => hopt⟩
      refine ⟨cs, false, false, ?_, hsettled⟩
      rw [takeMark_of_settled hsettled, takeMark_of_settled hsettled]

/-! ## Reading back -/

theorem parse_settled (t : String) :
    Settled (parse t).value.toList (parse t).negated (parse t).optional := by
  obtain ⟨rest, negated, optional, hmarks, hsettled⟩ := takeMark_twice_settled t.toList
  simpa [parse, hmarks] using hsettled

theorem parse_text_of_settled {v : Flagged} (h : Settled v.value.toList v.negated v.optional) :
    parse v.text = v := by
  obtain ⟨value, negated, optional⟩ := v
  cases negated <;> cases optional <;>
    simp [parse, text, takeMark_negation, takeMark_option, takeMark_of_settled h]

theorem parse_text_parse (t : String) : parse (parse t).text = parse t :=
  parse_text_of_settled (parse_settled t)

/-- The value has been read from a text. -/
def IsRead (v : Flagged) : Prop :=
  ∃ t, parse t = v

theorem IsRead.parse_text {v : Flagged} (h : v.IsRead) : parse v.text = v := by
  obtain ⟨t, rfl⟩ := h
  exact parse_text_parse t

theorem IsRead.text_inj {v w : Flagged} (hv : v.IsRead) (hw : w.IsRead) : v.text = w.text ↔ v = w :=
  ⟨fun h => by rw [← hv.parse_text, h, hw.parse_text], fun h => h ▸ rfl⟩

/-- The text goes on with no mark that could be taken for one more flag. -/
def IsUnambiguous (v : Flagged) : Prop :=
  match v.negated, v.optional with
  | true, true => True
  | true, false => v.value.toList.head? ≠ some '?'
  | false, true => v.value.toList.head? ≠ some '!'
  | false, false => v.value.toList.head? ≠ some '!' ∧ v.value.toList.head? ≠ some '?'

theorem isUnambiguous_iff {v : Flagged} :
    v.IsUnambiguous ↔ Settled v.value.toList v.negated v.optional := by
  obtain ⟨value, negated, optional⟩ := v
  cases negated <;> cases optional <;> simp [IsUnambiguous, Settled]

/-- Writing and reading gives back the unambiguous values, and what is read is among them. -/
theorem parse_text_eq_self_iff : (∀ v : Flagged, parse v.text = v ↔ v.IsUnambiguous) ∧
    (∀ t, (parse t).IsUnambiguous) ∧ ∀ t, parse (parse t).text = parse t := by
  have hread : ∀ t, (parse t).IsUnambiguous := fun t => isUnambiguous_iff.mpr (parse_settled t)
  refine ⟨fun v => ⟨fun h => ?_, fun h => ?_⟩, hread, parse_text_parse⟩
  · rw [← h]
    exact hread v.text
  · exact parse_text_of_settled (isUnambiguous_iff.mp h)

/-- A negated value that begins with the other mark comes back as an optional one. -/
example : parse (text ⟨"?x", true, false⟩) = ⟨"x", true, true⟩ := by
  decide

end Flagged
end RequestMatching
