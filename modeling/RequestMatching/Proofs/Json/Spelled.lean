import RequestMatching.Proofs.Json.Parts
import RequestMatching.Proofs.Json.Taking
import RequestMatching.Proofs.Number.Scaling

/-!
# What texts spell

No text spells a number that is not one, and of members with the same name a text spells only the last:
the value of a text holds proper numbers and distinct names.
-/

namespace RequestMatching

namespace Source

theorem numberOf_ne_nan {negative : Bool} {whole : List Char} {fraction : Option (List Char)}
    {exponent : Option (Bool × List Char)} {n : JsonNumber}
    (h : numberOf negative whole fraction exponent = .ok n) : n ≠ .float .nan := by
  unfold numberOf at h
  dsimp only at h
  split at h
  · split at h
    · cases h
      exact JsonNumber.noConfusion
    split at h
    · cases h
      exact JsonNumber.noConfusion
    · cases h
      exact fun heq => Binary64.ofFraction_ne_nan _ _ _ (JsonNumber.float.inj heq)
  · obtain ⟨x, hx, rfl⟩ := ok_of_map h
    refine fun heq => absurd (JsonNumber.float.inj heq) ?_
    cases exponent with
    | none => exact scale_ne_nan hx
    | some e =>
      obtain ⟨minus, ds⟩ := e
      dsimp only at hx
      cases hds : exponentOf ds with
      | some e =>
        rw [hds] at hx
        exact scale_ne_nan hx
      | none =>
        rw [hds] at hx
        rw [eq_of_unless_error hx]
        exact Binary64.noConfusion

mutual

def numbers : Source → List JsonNumber
  | number n => n.toOption.toList
  | array items _ => itemNumbers items
  | object members _ => memberNumbers members
  | _ => []

def itemNumbers : List Source → List JsonNumber
  | [] => []
  | s :: rest => numbers s ++ itemNumbers rest

def memberNumbers : List (Except JsonFault String × Source) → List JsonNumber
  | [] => []
  | (_, s) :: rest => numbers s ++ memberNumbers rest

end

theorem readNumber_ne_nan {start : Option Char} {negative : Bool} {cs rest : List Char}
    {r : Except JsonFault JsonNumber} (h : readNumber start negative cs = .ok (r, rest)) :
    ∀ n ∈ (number r).numbers, n ≠ .float .nan := by
  unfold readNumber at h
  obtain ⟨_, -, h⟩ := ok_of_bind h
  obtain ⟨_, -, h⟩ := ok_of_bind h
  obtain ⟨_, -, h⟩ := ok_of_bind h
  obtain ⟨hr, -⟩ := Prod.mk.inj (Except.ok.inj h)
  cases r with
  | error f => exact List.forall_mem_nil _
  | ok n => exact List.forall_mem_singleton.mpr (numberOf_ne_nan hr)

theorem readScalar_ne_nan (c : Char) (cs : List Char) :
    ∀ n ∈ (readScalar c cs).1.numbers, n ≠ .float .nan := by
  unfold readScalar
  dsimp only
  -- words, then numbers with a minus and without, strings, and what is nothing of these
  split
  · split <;> exact List.forall_mem_nil _
  split
  · split <;> exact List.forall_mem_nil _
  split
  · split <;> exact List.forall_mem_nil _
  split
  · split
    · exact readNumber_ne_nan ‹_›
    · exact List.forall_mem_nil _
  split
  · split
    · exact readNumber_ne_nan ‹_›
    · exact List.forall_mem_nil _
  split
  · split <;> exact List.forall_mem_nil _
  · exact List.forall_mem_nil _

mutual

theorem readValue_ne_nan : ∀ (fuel : Nat) (cs : List Char),
    ∀ n ∈ (readValue fuel cs).1.numbers, n ≠ .float .nan
  | 0, _ => List.forall_mem_nil _
  | fuel + 1, cs => by
    unfold readValue
    split
    · exact List.forall_mem_nil _
    · exact readItems_ne_nan fuel true _
    · exact readMembers_ne_nan fuel true _
    · exact readScalar_ne_nan _ _

theorem readItems_ne_nan : ∀ (fuel : Nat) (first : Bool) (cs : List Char),
    ∀ n ∈ itemNumbers (readItems fuel first cs).1, n ≠ .float .nan
  | 0, _, _ => List.forall_mem_nil _
  | fuel + 1, first, cs => by
    unfold readItems
    split
    · exact List.forall_mem_nil _
    · exact List.forall_mem_nil _
    · split
      · exact readItem_ne_nan fuel _
      split
      · exact List.forall_mem_nil _
      · exact List.forall_mem_nil _
      · exact readItem_ne_nan fuel _
    · split
      · exact readItem_ne_nan fuel _
      · exact List.forall_mem_nil _

theorem readItem_ne_nan : ∀ (fuel : Nat) (cs : List Char),
    ∀ n ∈ itemNumbers (readItem fuel cs).1, n ≠ .float .nan
  | 0, _ => List.forall_mem_nil _
  | fuel + 1, cs => by
    have hvalue := readValue_ne_nan fuel cs
    unfold readItem
    split
    · rename_i heq
      rw [heq] at hvalue
      simpa [itemNumbers] using hvalue
    · rename_i rest heq
      rw [heq] at hvalue
      exact List.forall_mem_append.mpr ⟨hvalue, readItems_ne_nan fuel false rest⟩

theorem readMembers_ne_nan : ∀ (fuel : Nat) (first : Bool) (cs : List Char),
    ∀ n ∈ memberNumbers (readMembers fuel first cs).1, n ≠ .float .nan
  | 0, _, _ => List.forall_mem_nil _
  | fuel + 1, first, cs => by
    unfold readMembers
    split
    · exact List.forall_mem_nil _
    · exact List.forall_mem_nil _
    · split
      · exact List.forall_mem_nil _
      split
      · exact List.forall_mem_nil _
      · exact List.forall_mem_nil _
      · exact readMember_ne_nan fuel _ _
    · split
      · exact readMember_ne_nan fuel _ _
      · exact List.forall_mem_nil _

theorem readMember_ne_nan : ∀ (fuel : Nat) (c : Char) (cs : List Char),
    ∀ n ∈ memberNumbers (readMember fuel c cs).1, n ≠ .float .nan
  | 0, _, _ => List.forall_mem_nil _
  | fuel + 1, c, cs => by
    unfold readMember
    split
    · exact List.forall_mem_nil _
    split
    · exact List.forall_mem_nil _
    split
    · exact List.forall_mem_nil _
    · rename_i cs _
      have hvalue := readValue_ne_nan fuel cs
      split
      · rename_i heq
        rw [heq] at hvalue
        simpa [memberNumbers] using hvalue
      · rename_i rest heq
        rw [heq] at hvalue
        exact List.forall_mem_append.mpr ⟨hvalue, readMembers_ne_nan fuel false rest⟩
    · exact List.forall_mem_nil _

end

/-! ## Values that are taken -/

/-- Something that can be said of every value that is taken from a tree, numbers apart. -/
structure SaidOfTaken (said : Json → Bool) : Prop where
  null : said .null = true
  bool : ∀ b, said (.bool b) = true
  string : ∀ s, said (.string s) = true
  array : ∀ items, said (.array items) = true
  ofMembers : ∀ members, said (.ofMembers members) = true

section
variable {said : Json → Bool}

mutual

theorem take_every (hsaid : SaidOfTaken said) : ∀ {s : Source} {depth : Nat} {v : Json}, s.take depth = .ok v →
    (∀ n ∈ s.numbers, said (.number n) = true) → v.every said = true
  | null, _, _, h, _ => by
    cases h
    exact hsaid.null
  | bool b, _, _, h, _ => by
    cases h
    exact hsaid.bool b
  | string r, _, _, h, _ => by
    obtain ⟨s, -, rfl⟩ := ok_of_map h
    exact hsaid.string s
  | number r, _, _, h, hnumbers => by
    obtain ⟨n, rfl, rfl⟩ := ok_of_map h
    exact hnumbers n (List.mem_singleton_self n)
  | broken b, _, _, h, _ => by cases h
  | array items breach, depth, v, h, hnumbers => by
    rw [take] at h
    split at h
    · cases h
    · obtain ⟨values, hitems, h⟩ := ok_of_bind h
      cases breach with
      | some b => cases h
      | none =>
        cases h
        exact Json.every_array.mpr ⟨hsaid.array values, takeItems_every hsaid hitems hnumbers⟩
  | object members breach, depth, v, h, hnumbers => by
    rw [take] at h
    split at h
    · cases h
    · obtain ⟨values, hmembers, h⟩ := ok_of_bind h
      have hvalues := takeMembers_every hsaid hmembers hnumbers
      have hobject := hsaid.ofMembers values
      cases breach with
      | some b => cases h
      | none =>
        cases h
        rw [Json.ofMembers_eq] at hobject ⊢
        exact Json.every_object.mpr ⟨hobject, fun m hm => hvalues m (Decoder.mem_sortNames hm)⟩

theorem takeItems_every (hsaid : SaidOfTaken said) : ∀ {items : List Source} {depth : Nat} {values : List Json},
    takeItems depth items = .ok values → (∀ n ∈ itemNumbers items, said (.number n) = true) →
    ∀ v ∈ values, v.every said = true
  | [], _, _, h, _ => by
    cases h
    exact List.forall_mem_nil _
  | s :: rest, _, _, h, hnumbers => by
    rw [takeItems] at h
    obtain ⟨v, hs, h⟩ := ok_of_bind h
    obtain ⟨vs, hrest, h⟩ := ok_of_bind h
    cases h
    obtain ⟨hfirst, hmore⟩ := List.forall_mem_append.mp hnumbers
    exact List.forall_mem_cons.mpr ⟨take_every hsaid hs hfirst, takeItems_every hsaid hrest hmore⟩

theorem takeMembers_every (hsaid : SaidOfTaken said) : ∀ {members : List (Except JsonFault String × Source)} {depth : Nat}
    {values : List (String × Json)}, takeMembers depth members = .ok values →
    (∀ n ∈ memberNumbers members, said (.number n) = true) → ∀ m ∈ values, m.2.every said = true
  | [], _, _, h, _ => by
    cases h
    exact List.forall_mem_nil _
  | (key, s) :: rest, _, _, h, hnumbers => by
    rw [takeMembers] at h
    obtain ⟨n, -, h⟩ := ok_of_bind h
    obtain ⟨v, hs, h⟩ := ok_of_bind h
    obtain ⟨vs, hrest, h⟩ := ok_of_bind h
    cases h
    obtain ⟨hfirst, hmore⟩ := List.forall_mem_append.mp hnumbers
    exact List.forall_mem_cons.mpr ⟨take_every hsaid hs hfirst, takeMembers_every hsaid hrest hmore⟩

end

end

end Source

namespace Json

theorem take_of_parse {text : String} {v : Json} (h : parse text = .ok v) :
    (Source.ofText text).1.take 0 = .ok v := by
  obtain ⟨w, hw, h⟩ := ok_of_bind h
  rw [← eq_of_unless_error h] at hw
  exact hw

theorem numbers_ofText_ne_nan (text : String) :
    ∀ n ∈ (Source.ofText text).1.numbers, n ≠ .float .nan := by
  have hvalue := Source.readValue_ne_nan (3 * text.toList.length + 3) text.toList
  unfold Source.ofText
  dsimp only
  split <;> (rename_i heq; rw [heq] at hvalue; exact hvalue)

variable {text : String} {v : Json} (h : parse text = .ok v)
include h

theorem hasDistinctNames_of_parse : v.hasDistinctNames = true := by
  have hnames (members : List (String × Json)) : ((Decoder.sortNames members).map (·.1)).Nodup := by
    refine List.pairwise_map.mpr ((Decoder.sortNames_increase members).imp fun hlt heq => ?_)
    exact String.lt_irrefl _ (heq ▸ hlt)
  refine Source.take_every ⟨rfl, fun _ => rfl, fun _ => rfl, fun _ => rfl, fun members => ?_⟩
    (take_of_parse h) fun _ _ => rfl
  rw [ofMembers_eq]
  exact decide_eq_true (hnames members)

theorem hasProperNumbers_of_parse : v.hasProperNumbers = true := by
  refine Source.take_every ⟨rfl, fun _ => rfl, fun _ => rfl, fun _ => rfl, fun members => ?_⟩
    (take_of_parse h) fun n hn => decide_eq_true (numbers_ofText_ne_nan text n hn)
  rw [ofMembers_eq]

end Json
end RequestMatching
