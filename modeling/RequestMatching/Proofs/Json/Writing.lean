import RequestMatching.Proofs.Json.Numerals

/-!
# Written values read back

The text of a value is read as the tree of that value, if its numbers are read back.
-/

namespace RequestMatching

namespace Source

/-! ## Strings -/

theorem hexValue?_digitChar {d : Nat} (hd : d < 16) : hexValue? (Nat.digitChar d) = some d := by
  have hall : ∀ d, d < 16 → hexValue? (Nat.digitChar d) = some d := by decide
  exact hall d hd

theorem readString_escapeChar (start : Option Char) (c : Char) (acc : List Char) (n : Nat)
    (cs : List Char) : readString start (n + 1) none acc (Json.escapeChar c ++ cs) =
      readString start n none (c :: acc) cs := by
  unfold Json.escapeChar
  by_cases h₁ : c = '"'
  · subst h₁; rfl
  by_cases h₂ : c = '\\'
  · subst h₂; rfl
  by_cases h₃ : c = '\x08'
  · subst h₃; rfl
  by_cases h₄ : c = '\t'
  · subst h₄; rfl
  by_cases h₅ : c = '\n'
  · subst h₅; rfl
  by_cases h₆ : c = '\x0C'
  · subst h₆; rfl
  by_cases h₇ : c = '\r'
  · subst h₇; rfl
  by_cases h₈ : c.toNat < 32
  · have hhigh := hexValue?_digitChar (d := c.toNat / 16) (by omega)
    have hlow := hexValue?_digitChar (d := c.toNat % 16) (by omega)
    have hzero : hexValue? '0' = some 0 := rfl
    have hsum : ((0 * 16 + 0) * 16 + c.toNat / 16) * 16 + c.toNat % 16 = c.toNat := by omega
    have hchar : unicodeChar c.toNat cs = .ok c := by
      have hvalid : Char.ofNat c.toNat = c := Char.ofNat_toNat c
      unfold unicodeChar
      rw [if_neg (by simp; omega), if_pos (by simp; omega), hvalid]
    simp only [if_neg h₁, if_neg h₂, if_neg h₃, if_neg h₄, if_neg h₅, if_neg h₆, if_neg h₇, if_pos h₈,
      List.cons_append, List.nil_append, readString, hex4, hhigh, hlow, hzero, hsum, hchar]
    rw [if_neg (by decide), if_pos trivial, if_neg (by omega)]
  · simp only [if_neg h₁, if_neg h₂, if_neg h₃, if_neg h₄, if_neg h₅, if_neg h₆, if_neg h₇, if_neg h₈,
      List.cons_append, List.nil_append, readString]

theorem readString_escaped (start : Option Char) (s acc rest : List Char) {n : Nat}
    (hn : s.length < n) : readString start n none acc (s.flatMap Json.escapeChar ++ '"' :: rest) =
      .ok (.ok (.ofList (acc.reverse ++ s)), rest) := by
  induction s generalizing n acc with
  | nil =>
    obtain ⟨n, rfl⟩ : ∃ k, n = k + 1 := ⟨n - 1, by simp at hn; omega⟩
    simp [readString]
  | cons c s ih =>
    obtain ⟨n, rfl⟩ : ∃ k, n = k + 1 := ⟨n - 1, by simp at hn; omega⟩
    rw [List.flatMap_cons, List.append_assoc, readString_escapeChar,
      ih (c :: acc) (Nat.lt_of_succ_lt_succ hn)]
    simp

theorem length_le_escaped (s : List Char) : s.length ≤ (s.flatMap Json.escapeChar).length := by
  induction s with
  | nil => exact Nat.le_refl _
  | cons c s ih =>
    have hpos : 1 ≤ (Json.escapeChar c).length := by
      unfold Json.escapeChar
      repeat' split
      all_goals simp
    rw [List.flatMap_cons, List.length_append, List.length_cons]
    omega

theorem quote_toList (s : String) :
    (Json.quote s).toList = '"' :: (s.toList.flatMap Json.escapeChar ++ ['"']) := by
  simp [Json.quote]

theorem readString_quote (start : Option Char) (s : String) (rest : List Char) {cs : List Char}
    (hcs : (Json.quote s).toList ++ rest = '"' :: cs) :
    readString start (cs.length + 1) none [] cs = .ok (.ok s, rest) := by
  have hle := length_le_escaped s.toList
  obtain rfl : cs = s.toList.flatMap Json.escapeChar ++ '"' :: rest := by
    rw [quote_toList] at hcs
    simpa using (List.cons.inj hcs).2.symm
  rw [readString_escaped start s.toList [] rest (by rw [List.length_append, List.length_cons]; omega)]
  simp

/-! ## Values -/

mutual

def ofJson : Json → Source
  | .null => null
  | .bool b => bool b
  | .number n => number (.ok n)
  | .string s => string (.ok s)
  | .array items => array (ofItems items) none
  | .object members => object (ofMembers members) none

def ofItems : List Json → List Source
  | [] => []
  | v :: rest => ofJson v :: ofItems rest

def ofMembers : List (String × Json) → List (Except JsonFault String × Source)
  | [] => []
  | (n, v) :: rest => (.ok n, ofJson v) :: ofMembers rest

end

end Source

namespace Json

mutual

def numbers : Json → List JsonNumber
  | number n => [n]
  | array items => itemNumbers items
  | object members => memberNumbers members
  | _ => []

def itemNumbers : List Json → List JsonNumber
  | [] => []
  | v :: rest => numbers v ++ itemNumbers rest

def memberNumbers : List (String × Json) → List JsonNumber
  | [] => []
  | (_, v) :: rest => numbers v ++ memberNumbers rest

end

theorem itemTexts_eq_map (items : List Json) : itemTexts items = items.map text := by
  induction items with
  | nil => rfl
  | cons v rest ih => simp only [itemTexts, List.map_cons, ih]

theorem memberTexts_eq_map (members : List (String × Json)) :
    memberTexts members = members.map fun m => quote m.1 ++ ":" ++ text m.2 := by
  induction members with
  | nil => rfl
  | cons m rest ih => simp only [memberTexts, List.map_cons, ih]

theorem memberTexts_append (ms ns : List (String × Json)) :
    memberTexts (ms ++ ns) = memberTexts ms ++ memberTexts ns := by
  simp only [memberTexts_eq_map, List.map_append]

theorem itemNumbers_eq_flatMap (items : List Json) : itemNumbers items = items.flatMap numbers := by
  induction items with
  | nil => rfl
  | cons v rest ih => simp only [itemNumbers, List.flatMap_cons, ih]

theorem memberNumbers_eq_flatMap (members : List (String × Json)) :
    memberNumbers members = members.flatMap fun m => numbers m.2 := by
  induction members with
  | nil => rfl
  | cons m rest ih => simp only [memberNumbers, List.flatMap_cons, ih]

theorem memberNumbers_append (ms ns : List (String × Json)) :
    memberNumbers (ms ++ ns) = memberNumbers ms ++ memberNumbers ns := by
  simp only [memberNumbers_eq_flatMap, List.flatMap_append]

/-- All numbers of the value are read back from their texts. -/
def ReadsBack (v : Json) : Prop :=
  ∀ n ∈ v.numbers, Source.ReadsBack n

end Json

namespace Source

def tailText (texts : List String) : List Char :=
  texts.flatMap fun s => ',' :: s.toList

theorem intercalate_toList (s : String) (rest : List String) :
    (String.intercalate "," (s :: rest)).toList = s.toList ++ tailText rest := by
  induction rest generalizing s with
  | nil => simp [tailText]
  | cons s' rest ih =>
    rw [String.intercalate_cons_cons, String.toList_append, String.toList_append, ih]
    simp [tailText]

theorem follows_tailText (texts : List String) {c : Char} (hc : c = ']' ∨ c = '}') (t : List Char) :
    Follows (tailText texts ++ c :: t) := by
  cases texts with
  | nil => exact follows_cons (.inr hc) t
  | cons s rest => exact follows_cons (.inl rfl) _

/-- What a value may begin with. -/
abbrev Opens (c : Char) : Prop :=
  isGap c = false ∧ c ≠ ']' ∧ c ≠ ',' ∧ c ≠ '}'

theorem text_opens (v : Json) (hv : v.ReadsBack) : ∃ c cs, v.text.toList = c :: cs ∧ Opens c := by
  cases v with
  | null => exact ⟨'n', _, rfl, by decide⟩
  | bool b =>
    cases b
    · exact ⟨'f', _, rfl, by decide⟩
    · exact ⟨'t', _, rfl, by decide⟩
  | number n =>
    obtain ⟨c, cs, htext, hc, -⟩ := readsBack_scalar (hv n (by simp [Json.numbers]))
    refine ⟨c, cs, htext, ?_⟩
    rcases hc with rfl | hdigit
    · decide
    · refine ⟨isGap_of_isDigit hdigit, ?_, ?_, ?_⟩ <;> (rintro rfl; cases hdigit)
  | string s => exact ⟨'"', _, quote_toList s, by decide⟩
  | array items => exact ⟨'[', _, by simp [Json.text]; rfl, by decide⟩
  | object members => exact ⟨'{', _, by simp [Json.text]; rfl, by decide⟩

theorem skipGap_cons {c : Char} (hc : isGap c = false) (cs : List Char) :
    skipGap (c :: cs) = c :: cs := by
  simp [skipGap, hc]

/-- The items of a list go on with a value. -/
theorem readItems_value {n : Nat} {c : Char} (hc : Opens c) (cs : List Char) :
    readItems (n + 1) true (c :: cs) = readItem n (c :: cs) ∧
      readItems (n + 1) false (',' :: c :: cs) = readItem n (c :: cs) := by
  obtain ⟨hgap, hend, hcomma, -⟩ := hc
  constructor
  · rw [readItems, skipGap_cons hgap]
    split <;> simp_all
  · rw [readItems, skipGap_cons (by decide)]
    simp [skipGap_cons hgap, hend]

theorem readItem_of_value {n : Nat} {v : Source} {cs rest t : List Char} {items : List Source}
    (hv : readValue n cs = (v, some rest)) (hitems : readItems n false rest = (items, none, some t)) :
    readItem (n + 1) cs = (v :: items, none, some t) := by
  simp [readItem, hv, hitems]

theorem readMembers_member {n : Nat} (cs : List Char) :
    readMembers (n + 1) true ('"' :: cs) = readMember n '"' cs ∧
      readMembers (n + 1) false (',' :: '"' :: cs) = readMember n '"' cs := by
  constructor
  · rw [readMembers, skipGap_cons (by decide)]
    simp
  · rw [readMembers, skipGap_cons (by decide)]
    simp [skipGap_cons (show isGap '"' = false by decide)]

theorem readMember_of_value (name : String) {n : Nat} {v : Source} {cs inner rest t : List Char}
    {members : List (Except JsonFault String × Source)}
    (hname : (Json.quote name).toList ++ ':' :: inner = '"' :: cs)
    (hv : readValue n inner = (v, some rest))
    (hmembers : readMembers n false rest = (members, none, some t)) :
    readMember (n + 1) '"' cs = ((.ok name, v) :: members, none, some t) := by
  simp [readMember, readString_quote _ name _ hname, skipGap_cons (show isGap ':' = false by decide),
    hv, hmembers]

theorem text_array_cons (v : Json) (rest : List Json) : (Json.array (v :: rest)).text.toList =
    '[' :: (v.text.toList ++ (tailText (Json.itemTexts rest) ++ [']'])) := by
  simp [Json.text, Json.itemTexts, intercalate_toList, -String.toList_intercalate]

def memberText (name : String) (v : Json) : List Char :=
  (Json.quote name).toList ++ ':' :: v.text.toList

theorem text_object_cons (name : String) (v : Json) (rest : List (String × Json)) :
    (Json.object ((name, v) :: rest)).text.toList =
      '{' :: (memberText name v ++ (tailText (Json.memberTexts rest) ++ ['}'])) := by
  simp [Json.text, Json.memberTexts, intercalate_toList, memberText, -String.toList_intercalate]

mutual

theorem readValue_text : ∀ (v : Json), v.ReadsBack → ∀ {n : Nat} {t : List Char},
    3 * v.text.toList.length ≤ n → Follows t →
      readValue n (v.text.toList ++ t) = (ofJson v, some t)
  | .null, _, n, t, hn, _ => by
    obtain ⟨n, rfl⟩ : ∃ k, n = k + 1 := ⟨n - 1, by simp [Json.text] at hn; omega⟩
    rfl
  | .bool b, _, n, t, hn, _ => by
    obtain ⟨n, rfl⟩ : ∃ k, n = k + 1 := ⟨n - 1, by cases b <;> simp [Json.text] at hn <;> omega⟩
    cases b <;> rfl
  | .number m, hv, n, t, hn, ht => by
    obtain ⟨c, cs, htext, hc, hscalar⟩ := readsBack_scalar (hv m (by simp [Json.numbers]))
    have htext' : (Json.number m).text.toList = c :: cs := htext
    rw [htext'] at hn ⊢
    obtain ⟨n, rfl⟩ : ∃ k, n = k + 1 := ⟨n - 1, by simp at hn; omega⟩
    have hgap : isGap c = false := by
      rcases hc with rfl | hdigit
      · rfl
      · exact isGap_of_isDigit hdigit
    have hne : c ≠ '[' ∧ c ≠ '{' := by
      rcases hc with rfl | hdigit
      · decide
      · constructor <;> (rintro rfl; cases hdigit)
    rw [List.cons_append, readValue, skipGap_cons hgap]
    simp [hne, readScalar_number_append ht hscalar, ofJson]
  | .string s, _, n, t, hn, _ => by
    obtain ⟨n, rfl⟩ : ∃ k, n = k + 1 := ⟨n - 1, by simp [Json.text, quote_toList] at hn; omega⟩
    obtain ⟨cs, hcs⟩ : ∃ cs, (Json.string s).text.toList ++ t = '"' :: cs :=
      ⟨_, by rw [Json.text, quote_toList]; rfl⟩
    have hread := readString_quote (some '"') s t hcs
    rw [hcs, readValue, skipGap_cons (by decide)]
    simp [readScalar, hread, ofJson]
  | .array [], _, n, t, hn, _ => by
    obtain ⟨n, rfl⟩ : ∃ k, n = k + 2 := ⟨n - 2, by simp [Json.text, Json.itemTexts] at hn; omega⟩
    rfl
  | .array (v :: rest), hv, n, t, hn, _ => by
    have hhead : v.ReadsBack := fun m hm => hv m (List.mem_append_left _ hm)
    have hrest : ∀ m ∈ Json.itemNumbers rest, ReadsBack m :=
      fun m hm => hv m (List.mem_append_right _ hm)
    rw [text_array_cons] at hn ⊢
    simp only [List.length_cons, List.length_append] at hn
    obtain ⟨n, rfl⟩ : ∃ k, n = k + 3 := ⟨n - 3, by omega⟩
    obtain ⟨c, cs, htext, hopens⟩ := text_opens v hhead
    have hread := readValue_text v hhead (n := n) (t := tailText (Json.itemTexts rest) ++ ']' :: t)
      (by omega) (follows_tailText _ (.inl rfl) t)
    have hitems := readItem_of_value hread (readItems_texts rest hrest (n := n) (t := t) (by omega))
    rw [htext, List.cons_append] at hitems
    simp only [List.cons_append, List.append_assoc, List.nil_append, htext]
    rw [readValue, skipGap_cons (by decide)]
    simp only [(readItems_value hopens _).1, hitems]
    rfl
  | .object [], _, n, t, hn, _ => by
    obtain ⟨n, rfl⟩ : ∃ k, n = k + 2 := ⟨n - 2, by simp [Json.text, Json.memberTexts] at hn; omega⟩
    rfl
  | .object ((name, v) :: rest), hv, n, t, hn, _ => by
    have hhead : v.ReadsBack := fun m hm => hv m (List.mem_append_left _ hm)
    have hrest : ∀ m ∈ Json.memberNumbers rest, ReadsBack m :=
      fun m hm => hv m (List.mem_append_right _ hm)
    rw [text_object_cons] at hn ⊢
    simp only [List.length_cons, List.length_append, memberText] at hn
    obtain ⟨n, rfl⟩ : ∃ k, n = k + 3 := ⟨n - 3, by omega⟩
    have hread := readValue_text v hhead (n := n) (t := tailText (Json.memberTexts rest) ++ '}' :: t)
      (by omega) (follows_tailText _ (.inr rfl) t)
    have hmembers := readMembers_texts rest hrest (n := n) (t := t) (by omega)
    obtain ⟨cs, hcs⟩ : ∃ cs, memberText name v ++ (tailText (Json.memberTexts rest) ++ '}' :: t) =
        '"' :: cs := ⟨_, by rw [memberText, quote_toList]; rfl⟩
    have hmember := readMember_of_value name (by rw [← hcs]; simp [memberText]) hread hmembers
    simp only [List.cons_append, List.append_assoc, List.nil_append, hcs]
    rw [readValue, skipGap_cons (by decide)]
    simp only [(readMembers_member cs).1, hmember]
    rfl

theorem readItems_texts : ∀ (items : List Json), (∀ m ∈ Json.itemNumbers items, ReadsBack m) →
    ∀ {n : Nat} {t : List Char}, 3 * (tailText (Json.itemTexts items)).length + 1 ≤ n →
      readItems n false (tailText (Json.itemTexts items) ++ ']' :: t) = (ofItems items, none, some t)
  | [], _, n, t, hn => by
    obtain ⟨n, rfl⟩ : ∃ k, n = k + 1 := ⟨n - 1, by omega⟩
    rfl
  | v :: rest, hnumbers, n, t, hn => by
    have hv : v.ReadsBack := fun m hm => hnumbers m (List.mem_append_left _ hm)
    have hrest : ∀ m ∈ Json.itemNumbers rest, ReadsBack m :=
      fun m hm => hnumbers m (List.mem_append_right _ hm)
    have htail : tailText (Json.itemTexts (v :: rest)) =
        ',' :: (v.text.toList ++ tailText (Json.itemTexts rest)) := by
      simp [Json.itemTexts, tailText]
    rw [htail, List.length_cons, List.length_append] at hn
    obtain ⟨n, rfl⟩ : ∃ k, n = k + 2 := ⟨n - 2, by omega⟩
    obtain ⟨c, cs, htext, hopens⟩ := text_opens v hv
    have hread := readValue_text v hv (n := n) (t := tailText (Json.itemTexts rest) ++ ']' :: t)
      (by omega) (follows_tailText _ (.inl rfl) t)
    have hitems := readItems_texts rest hrest (n := n) (t := t) (by omega)
    rw [htail, List.cons_append, List.append_assoc, htext, List.cons_append,
      (readItems_value hopens _).2, ← List.cons_append, ← htext]
    exact readItem_of_value hread hitems

theorem readMembers_texts : ∀ (members : List (String × Json)),
    (∀ m ∈ Json.memberNumbers members, ReadsBack m) → ∀ {n : Nat} {t : List Char},
      3 * (tailText (Json.memberTexts members)).length + 1 ≤ n →
        readMembers n false (tailText (Json.memberTexts members) ++ '}' :: t) =
          (ofMembers members, none, some t)
  | [], _, n, t, hn => by
    obtain ⟨n, rfl⟩ : ∃ k, n = k + 1 := ⟨n - 1, by omega⟩
    rfl
  | (name, v) :: rest, hnumbers, n, t, hn => by
    have hv : v.ReadsBack := fun m hm => hnumbers m (List.mem_append_left _ hm)
    have hrest : ∀ m ∈ Json.memberNumbers rest, ReadsBack m :=
      fun m hm => hnumbers m (List.mem_append_right _ hm)
    have htail : tailText (Json.memberTexts ((name, v) :: rest)) =
        ',' :: (memberText name v ++ tailText (Json.memberTexts rest)) := by
      simp [Json.memberTexts, tailText, memberText]
    rw [htail] at hn ⊢
    simp only [List.length_cons, List.length_append, memberText] at hn
    obtain ⟨n, rfl⟩ : ∃ k, n = k + 2 := ⟨n - 2, by omega⟩
    have hread := readValue_text v hv (n := n) (t := tailText (Json.memberTexts rest) ++ '}' :: t)
      (by omega) (follows_tailText _ (.inr rfl) t)
    have hmembers := readMembers_texts rest hrest (n := n) (t := t) (by omega)
    obtain ⟨cs, hcs⟩ : ∃ cs, memberText name v ++ (tailText (Json.memberTexts rest) ++ '}' :: t) =
        '"' :: cs := ⟨_, by rw [memberText, quote_toList]; rfl⟩
    have hmember := readMember_of_value name (by rw [← hcs]; simp [memberText]) hread hmembers
    rw [List.cons_append, List.append_assoc, hcs, (readMembers_member cs).2, hmember]
    rfl

end

theorem ofText_text {v : Json} (hv : v.ReadsBack) : ofText v.text = (ofJson v, false) := by
  have hread := readValue_text v hv (n := 3 * v.text.toList.length + 3) (by omega) follows_nil
  rw [List.append_nil] at hread
  simp only [ofText, hread]
  rfl

end Source
end RequestMatching
