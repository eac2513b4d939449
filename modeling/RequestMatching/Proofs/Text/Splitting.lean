import RequestMatching.Text.Blank

/-!
# Texts cut at separators

The parts of a text between separators are those of core, so joining parts without a separator in them
and splitting again changes nothing. A text is cut at its first separator.
-/

namespace RequestMatching

namespace Text

theorem splitChars_eq (sep : Char) (cs : List Char) : splitChars sep cs = cs.splitOn sep := by
  induction cs with
  | nil => rfl
  | cons c cs ih =>
    rw [splitChars, ih, List.splitOn_cons_eq_if_modifyHead]
    by_cases hc : c = sep
    · simp [hc]
    · obtain ⟨part, parts, hparts⟩ := List.exists_cons_of_ne_nil (List.splitOn_ne_nil sep cs)
      rw [if_neg hc, if_neg (by simpa using hc), hparts]
      rfl

theorem splitChars_intercalate {sep : Char} {parts : List (List Char)} (h : ∀ p ∈ parts, sep ∉ p)
    (hparts : parts ≠ []) : splitChars sep ([sep].intercalate parts) = parts := by
  rw [splitChars_eq, List.splitOn_intercalate sep h hparts]

theorem notMem_of_mem_splitChars {sep : Char} {cs part : List Char} (h : part ∈ splitChars sep cs) :
    sep ∉ part := by
  induction cs generalizing part with
  | nil =>
    cases List.mem_singleton.mp h
    exact List.not_mem_nil
  | cons c cs ih =>
    rw [splitChars] at h
    split at h
    · rcases List.mem_cons.mp h with rfl | h
      · exact List.not_mem_nil
      · exact ih h
    · rename_i hc
      split at h
      · cases List.mem_singleton.mp h
        simpa using Ne.symm hc
      · rename_i first parts hparts
        rw [hparts] at ih
        rcases List.mem_cons.mp h with rfl | h
        · rw [List.mem_cons, not_or]
          exact ⟨Ne.symm hc, ih (List.mem_cons_self ..)⟩
        · exact ih (List.mem_cons_of_mem _ h)

theorem cutChars_append {sep : Char} {before : List Char} (h : sep ∉ before) (after : List Char) :
    cutChars sep (before ++ sep :: after) = some (before, after) := by
  induction before with
  | nil => simp [cutChars]
  | cons c before ih =>
    rw [List.mem_cons, not_or] at h
    rw [List.cons_append, cutChars, if_neg (Ne.symm h.1), ih h.2]
    rfl

theorem eq_of_cutChars {sep : Char} {cs before after : List Char}
    (h : cutChars sep cs = some (before, after)) : cs = before ++ sep :: after := by
  induction cs generalizing before with
  | nil => cases h
  | cons c cs ih =>
    rw [cutChars] at h
    split at h
    · rename_i hc
      cases h
      rw [hc, List.nil_append]
    · obtain ⟨⟨first, rest⟩, hcut, heq⟩ := Option.map_eq_some_iff.mp h
      cases heq
      rw [ih hcut, List.cons_append]

end Text
end RequestMatching
