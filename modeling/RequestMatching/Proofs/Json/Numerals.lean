import Mathlib.Data.List.TakeDrop
import RequestMatching.Json.Source
import RequestMatching.Proofs.Outcome

/-!
# Numbers in their places

A number that is read back from its text alone is also read back where the text goes on as a list or
an object does, and its text holds no white space.
-/

namespace RequestMatching

namespace Source

/-- What may follow a value: nothing, a comma, or the end of what holds it. -/
def Follows (t : List Char) : Prop :=
  ∀ c u, t = c :: u → c = ',' ∨ c = ']' ∨ c = '}'

theorem follows_nil : Follows [] :=
  nofun

theorem follows_cons {c : Char} (hc : c = ',' ∨ c = ']' ∨ c = '}') (u : List Char) :
    Follows (c :: u) := by
  rintro d u' h
  cases h
  exact hc

/-! ## Numbers in their places -/

theorem exponentSign_append {cs : List Char} (hcs : cs ≠ []) (t : List Char) :
    exponentSign (cs ++ t) = ((exponentSign cs).1, (exponentSign cs).2 ++ t) := by
  rcases cs with - | ⟨c, cs⟩
  · exact absurd rfl hcs
  · by_cases hplus : c = '+'
    · subst hplus; rfl
    · by_cases hminus : c = '-'
      · subst hminus; rfl
      · simp [exponentSign, hplus, hminus]

section
variable {t : List Char} (ht : Follows t)
include ht

theorem spanDigits_append (cs : List Char) :
    spanDigits (cs ++ t) = ((spanDigits cs).1, (spanDigits cs).2 ++ t) := by
  have htake : t.takeWhile Char.isDigit = [] := by
    rcases t with - | ⟨c, u⟩
    · rfl
    · rcases ht c u rfl with rfl | rfl | rfl <;> rfl
  have hdrop : t.dropWhile Char.isDigit = t := by
    rcases t with - | ⟨c, u⟩
    · rfl
    · rcases ht c u rfl with rfl | rfl | rfl <;> rfl
  have hsplit := List.takeWhile_append_dropWhile (p := Char.isDigit) (l := cs)
  simp only [spanDigits, List.span_eq_takeWhile_dropWhile, List.takeWhile_append,
    List.dropWhile_append, htake, hdrop, List.append_nil]
  cases hrest : cs.dropWhile Char.isDigit with
  | nil =>
    rw [hrest, List.append_nil] at hsplit
    simp [hsplit]
  | cons c rest =>
    have hlength := congrArg List.length hsplit
    rw [List.length_append, hrest, List.length_cons] at hlength
    rw [if_neg (by omega)]
    simp

theorem someDigits_append {start : Option Char} {cs ds rest : List Char}
    (h : someDigits start cs = .ok (ds, rest)) : someDigits start (cs ++ t) = .ok (ds, rest ++ t) := by
  unfold someDigits at h ⊢
  rw [spanDigits_append ht]
  by_cases hds : (spanDigits cs).1.isEmpty
  · simp [hds] at h
  · simp only [hds] at h ⊢
    cases h
    rfl

theorem readWhole_append {start : Option Char} {cs ds rest : List Char}
    (h : readWhole start cs = .ok (ds, rest)) : readWhole start (cs ++ t) = .ok (ds, rest ++ t) := by
  cases hds : someDigits start cs with
  | error b => simp [readWhole, hds, bind, Except.bind] at h
  | ok q =>
    simp only [readWhole, hds, someDigits_append ht hds, bind, Except.bind] at h ⊢
    split at h
    · cases h
    · cases h
      rfl

theorem readFraction_append {start : Option Char} {cs rest : List Char} {ds : Option (List Char)}
    (h : readFraction start cs = .ok (ds, rest)) :
    readFraction start (cs ++ t) = .ok (ds, rest ++ t) := by
  rcases cs with - | ⟨c, cs⟩
  · cases h
    rcases t with - | ⟨c, u⟩
    · rfl
    · rcases ht c u rfl with rfl | rfl | rfl <;> rfl
  · by_cases hpoint : c = '.'
    · subst hpoint
      cases hds : someDigits start cs with
      | error b => simp [readFraction, hds, bind, Except.bind] at h
      | ok q =>
        simp only [readFraction, List.cons_append, hds, someDigits_append ht hds, bind,
          Except.bind] at h ⊢
        cases h
        rfl
    · have hnone : ∀ cs, readFraction start (c :: cs) = .ok (none, c :: cs) := fun cs => by
        simp [readFraction, hpoint]
      rw [hnone] at h
      cases h
      exact hnone (cs ++ t)

theorem readExponent_append {start : Option Char} {cs rest : List Char}
    {e : Option (Bool × List Char)} (h : readExponent start cs = .ok (e, rest)) :
    readExponent start (cs ++ t) = .ok (e, rest ++ t) := by
  rcases cs with - | ⟨c, cs⟩
  · cases h
    rcases t with - | ⟨c, u⟩
    · rfl
    · rcases ht c u rfl with rfl | rfl | rfl <;> rfl
  · simp only [readExponent, List.cons_append] at h ⊢
    split at h
    · rename_i hletter
      rw [if_pos hletter]
      have hcs : cs ≠ [] := by
        rintro rfl
        cases h
      obtain ⟨q, hds, h⟩ := ok_of_bind h
      cases h
      simp only [exponentSign_append hcs, someDigits_append ht hds, bind, Except.bind]
      rfl
    · rename_i hletter
      rw [if_neg hletter]
      cases h
      rfl

theorem readNumber_append {start : Option Char} {negative : Bool} {cs rest : List Char}
    {n : Except JsonFault JsonNumber} (h : readNumber start negative cs = .ok (n, rest)) :
    readNumber start negative (cs ++ t) = .ok (n, rest ++ t) := by
  unfold readNumber at h ⊢
  obtain ⟨q, hwhole, h⟩ := ok_of_bind h
  obtain ⟨r, hfraction, h⟩ := ok_of_bind h
  obtain ⟨e, hexponent, h⟩ := ok_of_bind h
  cases h
  simp only [readWhole_append ht hwhole, readFraction_append ht hfraction,
    readExponent_append ht hexponent, bind, Except.bind]
  rfl

end

theorem someDigits_suffix {start : Option Char} {cs ds rest : List Char}
    (h : someDigits start cs = .ok (ds, rest)) : rest <:+ cs := by
  simp only [someDigits, spanDigits, List.span_eq_takeWhile_dropWhile] at h
  split at h
  · cases h
  · cases h
    exact List.dropWhile_suffix _

theorem readWhole_suffix {start : Option Char} {cs ds rest : List Char}
    (h : readWhole start cs = .ok (ds, rest)) : rest <:+ cs := by
  obtain ⟨⟨ds, rest⟩, hds, h⟩ := ok_of_bind h
  dsimp only at h
  split at h
  · cases h
  · cases h
    exact someDigits_suffix hds

theorem readFraction_suffix {start : Option Char} {cs rest : List Char} {ds : Option (List Char)}
    (h : readFraction start cs = .ok (ds, rest)) : rest <:+ cs := by
  unfold readFraction at h
  split at h
  · obtain ⟨q, hds, h⟩ := ok_of_bind h
    cases h
    exact (someDigits_suffix hds).trans (List.suffix_cons _ _)
  · cases h
    exact List.suffix_refl _

theorem exponentSign_suffix (cs : List Char) : (exponentSign cs).2 <:+ cs := by
  unfold exponentSign
  split
  · exact List.suffix_cons _ _
  · exact List.suffix_cons _ _
  · exact List.suffix_refl _

theorem readExponent_suffix {start : Option Char} {cs rest : List Char}
    {e : Option (Bool × List Char)} (h : readExponent start cs = .ok (e, rest)) : rest <:+ cs := by
  rcases cs with - | ⟨c, cs⟩
  · cases h
    exact List.suffix_refl _
  · simp only [readExponent] at h
    split at h
    · obtain ⟨q, hds, h⟩ := ok_of_bind h
      cases h
      exact ((someDigits_suffix hds).trans (exponentSign_suffix cs)).trans (List.suffix_cons c cs)
    · cases h
      exact List.suffix_refl _

theorem readNumber_suffix {start : Option Char} {negative : Bool} {cs rest : List Char}
    {n : Except JsonFault JsonNumber} (h : readNumber start negative cs = .ok (n, rest)) :
    rest <:+ cs := by
  obtain ⟨q, hwhole, h⟩ := ok_of_bind h
  obtain ⟨r, hfraction, h⟩ := ok_of_bind h
  obtain ⟨e, hexponent, h⟩ := ok_of_bind h
  cases h
  exact ((readExponent_suffix hexponent).trans (readFraction_suffix hfraction)).trans
    (readWhole_suffix hwhole)

theorem readScalar_number {c : Char} {cs : List Char} {n : Except JsonFault JsonNumber}
    {rest : Option (List Char)} (h : readScalar c cs = (number n, rest)) :
    (c = '-' ∧ ∃ r, rest = some r ∧ readNumber (some c) true cs = .ok (n, r)) ∨
      (c.isDigit = true ∧ ∃ r, rest = some r ∧ readNumber (some c) false (c :: cs) = .ok (n, r)) := by
  unfold readScalar at h
  by_cases hnull : c = 'n'
  · simp only [if_pos hnull] at h
    split at h <;> cases h
  by_cases htrue : c = 't'
  · simp only [if_neg hnull, if_pos htrue] at h
    split at h <;> cases h
  by_cases hfalse : c = 'f'
  · simp only [if_neg hnull, if_neg htrue, if_pos hfalse] at h
    split at h <;> cases h
  simp only [if_neg hnull, if_neg htrue, if_neg hfalse] at h
  by_cases hminus : c = '-'
  · rw [if_pos hminus] at h
    cases hread : readNumber (some c) true cs with
    | error b => rw [hread] at h; cases h
    | ok q => rw [hread] at h; cases h; exact .inl ⟨hminus, _, rfl, rfl⟩
  · rw [if_neg hminus] at h
    by_cases hdigit : c.isDigit
    · rw [if_pos hdigit] at h
      cases hread : readNumber (some c) false (c :: cs) with
      | error b => rw [hread] at h; cases h
      | ok q => rw [hread] at h; cases h; exact .inr ⟨hdigit, _, rfl, rfl⟩
    · rw [if_neg hdigit] at h
      split at h
      · split at h <;> cases h
      · cases h

theorem readScalar_number_append {t : List Char} (ht : Follows t) {c : Char} {cs rest : List Char}
    {n : Except JsonFault JsonNumber} (h : readScalar c cs = (number n, some rest)) :
    readScalar c (cs ++ t) = (number n, some (rest ++ t)) := by
  rcases readScalar_number h with ⟨rfl, r, hr, hread⟩ | ⟨hdigit, r, hr, hread⟩
  · cases hr
    simp [readScalar, readNumber_append ht hread]
  · cases hr
    have happend : readNumber (some c) false (c :: (cs ++ t)) = .ok (n, rest ++ t) :=
      readNumber_append ht hread
    have hne : c ≠ 'n' ∧ c ≠ 't' ∧ c ≠ 'f' ∧ c ≠ '-' := by
      refine ⟨?_, ?_, ?_, ?_⟩ <;> (rintro rfl; cases hdigit)
    simp [readScalar, hne, hdigit, happend]

/-! ## Texts of numbers -/

theorem isGap_of_isDigit {c : Char} (h : c.isDigit = true) : isGap c = false := by
  have hne : c ≠ ' ' ∧ c ≠ '\n' ∧ c ≠ '\t' ∧ c ≠ '\r' := by
    refine ⟨?_, ?_, ?_, ?_⟩ <;> (rintro rfl; cases h)
  simp [isGap, hne]

theorem isGap_of_mem_all {c : Char} {cs : List Char} (hc : c ∈ cs)
    (h : cs.all (fun c => !isGap c) = true) : isGap c = false := by
  simpa using List.all_eq_true.mp h c hc

theorem isGap_of_mem_toDigits {n : Nat} {c : Char} (h : c ∈ Nat.toDigits 10 n) : isGap c = false :=
  isGap_of_isDigit (Nat.isDigit_of_mem_toDigits (by decide) (by decide) h)

theorem isGap_of_mem_positional {keepPoint : Bool} {digits : List Char} {before : Int}
    (hdigits : ∀ c ∈ digits, isGap c = false) :
    ∀ c ∈ DecimalLayout.positional keepPoint digits before, isGap c = false := by
  intro c hc
  simp only [DecimalLayout.positional] at hc
  split at hc
  · simp only [List.mem_cons, List.mem_append, List.mem_replicate] at hc
    rcases hc with rfl | rfl | ⟨-, rfl⟩ | hc
    · rfl
    · rfl
    · rfl
    · exact hdigits c hc
  · split at hc
    · simp only [List.mem_append, List.mem_replicate] at hc
      rcases hc with (hc | ⟨-, rfl⟩) | hc
      · exact hdigits c hc
      · rfl
      · cases keepPoint
        · cases hc
        · exact isGap_of_mem_all hc rfl
    · simp only [List.mem_append, List.mem_cons] at hc
      rcases hc with hc | rfl | hc
      · exact hdigits c (List.mem_of_mem_take hc)
      · rfl
      · exact hdigits c (List.mem_of_mem_drop hc)

theorem isGap_of_mem_scientific {digits : List Char} {exponent : Int}
    (hdigits : ∀ c ∈ digits, isGap c = false) :
    ∀ c ∈ DecimalLayout.scientific digits exponent, isGap c = false := by
  have hpower : ∀ c ∈ 'e' :: (if exponent < 0 then '-' else '+') ::
      Nat.toDigits 10 exponent.natAbs, isGap c = false := by
    intro c hc
    simp only [List.mem_cons] at hc
    rcases hc with rfl | rfl | hc
    · rfl
    · split <;> rfl
    · exact isGap_of_mem_toDigits hc
  intro c hc
  unfold DecimalLayout.scientific at hc
  rcases digits with - | ⟨d, - | ⟨d', ds⟩⟩
  · exact hpower c hc
  · rcases List.mem_cons.mp hc with rfl | hc
    · exact hdigits c (List.mem_cons_self ..)
    · exact hpower c hc
  · rcases List.mem_cons.mp hc with rfl | hc
    · exact hdigits c (List.mem_cons_self ..)
    · rcases List.mem_cons.mp hc with rfl | hc
      · rfl
      · rcases List.mem_append.mp hc with hc | hc
        · exact hdigits c (List.mem_cons_of_mem d hc)
        · exact hpower c hc

theorem isGap_of_mem_text (n : JsonNumber) {c : Char} (h : c ∈ n.text.toList) : isGap c = false := by
  rcases n with (n | n) | (- | negative | ⟨negative, units⟩)
  · rw [show (JsonNumber.integer (.ofNat n)).text = n.repr from rfl, Nat.toList_repr] at h
    exact isGap_of_mem_toDigits h
  · rw [show (JsonNumber.integer (.negSucc n)).text = "-" ++ (n + 1).repr from rfl,
      String.toList_append, Nat.toList_repr, List.mem_append] at h
    rcases h with h | h
    · exact isGap_of_mem_all h rfl
    · exact isGap_of_mem_toDigits h
  · exact isGap_of_mem_all (h : c ∈ "NaN".toList) rfl
  · cases negative
    · exact isGap_of_mem_all (h : c ∈ "inf".toList) rfl
    · exact isGap_of_mem_all (h : c ∈ "-inf".toList) rfl
  · simp only [JsonNumber.text, DecimalLayout.text, String.toList_ofList, List.mem_append] at h
    have hdigits : ∀ c ∈ Nat.toDigits 10 (Decimal.shortest units).digits, isGap c = false :=
      fun c => isGap_of_mem_toDigits
    rcases h with h | h
    · cases negative
      · cases h
      · exact isGap_of_mem_all h rfl
    · split at h
      · exact isGap_of_mem_positional hdigits c h
      · exact isGap_of_mem_scientific hdigits c h

/-- The number is read back from its text. -/
def ReadsBack (n : JsonNumber) : Prop :=
  Json.parse n.text = .ok (.number n)

theorem skipGap_eq_self {cs : List Char} (h : ∀ c ∈ cs, isGap c = false) : skipGap cs = cs := by
  cases cs with
  | nil => rfl
  | cons c cs => simp [skipGap, h c (List.mem_cons_self ..)]

theorem take_eq_number {s : Source} {depth : Nat} {n : JsonNumber}
    (h : s.take depth = .ok (.number n)) : s = number (.ok n) := by
  cases s with
  | null => cases h
  | bool b => cases h
  | number r =>
    obtain ⟨m, rfl, heq⟩ := ok_of_map h
    cases heq
    rfl
  | string r =>
    obtain ⟨s, -, heq⟩ := ok_of_map h
    cases heq
  | broken b => cases h
  | array items breach =>
    rw [take] at h
    split at h
    · cases h
    · obtain ⟨values, -, h⟩ := ok_of_bind h
      cases breach <;> cases h
  | object members breach =>
    rw [take] at h
    split at h
    · cases h
    · obtain ⟨values, -, h⟩ := ok_of_bind h
      cases breach <;> cases h

theorem readValue_of_parse {text : String} {n : JsonNumber}
    (h : Json.parse text = .ok (.number n)) : ∃ rest,
      readValue (3 * text.toList.length + 3) text.toList = (number (.ok n), rest) ∧
        ∀ r, rest = some r → skipGap r = [] := by
  unfold Json.parse ofText at h
  rcases hread : readValue (3 * text.toList.length + 3) text.toList with ⟨v, - | r⟩
  · simp only [hread] at h
    obtain ⟨value, htake, h⟩ := ok_of_bind h
    cases h
    rw [take_eq_number htake]
    exact ⟨none, rfl, nofun⟩
  · simp only [hread] at h
    obtain ⟨value, htake, h⟩ := ok_of_bind h
    cases hmore : skipGap r with
    | cons c cs =>
      rw [hmore] at h
      cases h
    | nil =>
      rw [hmore] at h
      cases h
      rw [take_eq_number htake]
      exact ⟨some r, rfl, fun r' hr' => by cases hr'; exact hmore⟩

theorem readsBack_scalar {n : JsonNumber} (h : ReadsBack n) : ∃ c cs, n.text.toList = c :: cs ∧
    (c = '-' ∨ c.isDigit = true) ∧ readScalar c cs = (number (.ok n), some []) := by
  have hgap : ∀ c ∈ n.text.toList, isGap c = false := fun c => isGap_of_mem_text n
  obtain ⟨rest, hread, hrest⟩ := readValue_of_parse h
  rw [readValue, skipGap_eq_self hgap] at hread
  cases htext : n.text.toList with
  | nil => rw [htext] at hread; cases hread
  | cons c cs =>
    rw [htext] at hread hgap
    have hscalar : readScalar c cs = (number (.ok n), rest) := by
      split at hread
      · cases hread
      · cases hread
      · cases hread
      · rename_i heq
        cases heq
        exact hread
    have hnil : ∀ r, rest = some r → r <:+ c :: cs → r = [] := by
      intro r hr hsuffix
      rw [← skipGap_eq_self fun d hd => hgap d (hsuffix.subset hd)]
      exact hrest r hr
    refine ⟨c, cs, rfl, ?_⟩
    rcases readScalar_number hscalar with ⟨hminus, r, rfl, hnumber⟩ | ⟨hdigit, r, rfl, hnumber⟩
    · obtain rfl := hnil r rfl ((readNumber_suffix hnumber).trans (List.suffix_cons c cs))
      exact ⟨.inl hminus, hscalar⟩
    · obtain rfl := hnil r rfl (readNumber_suffix hnumber)
      exact ⟨.inr hdigit, hscalar⟩

end Source
end RequestMatching
