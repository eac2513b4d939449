import RequestMatching.Pattern.Assignment

/-!
# Searching for a place

A search is told here by rules, without a bound on how many owners move one for the other; the bounded
search goes by them. It either finds a place, and then every other item keeps as many places as it had,
or it fails and leaves a closed set of tried places: whoever owns one of them has no choice outside.
-/

namespace RequestMatching

namespace Assignment

/-- A place was tried; beyond the last one there is nothing to try. -/
def Search.Tried (s : Search) (j : Nat) : Prop :=
  s.visited.getD j true = true

instance (s : Search) : DecidablePred s.Tried :=
  fun _ => inferInstanceAs (Decidable (_ = true))

def Search.untried (s : Search) : Nat :=
  s.visited.count false

def Search.Fits (s : Search) : Prop :=
  s.owner.length = s.visited.length

def Search.mark (s : Search) (j : Nat) : Search :=
  { s with visited := s.visited.set j true }

def Search.give (s : Search) (j i : Nat) : Search :=
  { s with owner := s.owner.set j (some i) }

/-- What every search leaves as it was. -/
structure Keeps (s t : Search) : Prop where
  fits : t.Fits
  places : t.visited.length = s.visited.length
  untried_le : t.untried ≤ s.untried
  tried : ∀ j, s.Tried j → t.Tried j

/-- Nothing moved, all choices were tried, and so were those of the owners met on the way. -/
structure Failed (edges : List (List Nat)) (choices : List Nat) (s t : Search) : Prop where
  owner_eq : t.owner = s.owner
  tried_choices : ∀ j ∈ choices, t.Tried j
  closed : ∀ j, t.Tried j → s.Tried j ∨
    ∃ k : Nat, s.owner[j]? = some (some k) ∧ ∀ m ∈ edges.getD k [], t.Tried m

/-- Item `i` has one place more than before and no other item has lost one. -/
structure Found (edges : List (List Nat)) (i : Nat) (s t : Search) : Prop where
  count_owner : ∀ l, t.owner.count (some l) = s.owner.count (some l) + if l = i then 1 else 0
  owner_of_tried : ∀ j, s.Tried j → t.owner[j]? = s.owner[j]?
  along : ∀ j l : Nat, t.owner[j]? = some (some l) →
    s.owner[j]? = some (some l) ∨ j ∈ edges.getD l []

theorem Found.mem_owner_iff {edges : List (List Nat)} {i l : Nat} {s t : Search}
    (h : Found edges i s t) (hl : l ≠ i) : some l ∈ t.owner ↔ some l ∈ s.owner := by
  rw [← List.count_pos_iff, ← List.count_pos_iff, h.count_owner l, if_neg hl, Nat.add_zero]

/-- How a search for item `i` among `choices` can end. -/
structure Ends (edges : List (List Nat)) (choices : List Nat) (i : Nat) (s : Search)
    (r : Bool × Search) : Prop where
  keeps : Keeps s r.2
  failed : r.1 = false → Failed edges choices s r.2
  found : r.1 = true → Found edges i s r.2

/-! ## Single steps -/

theorem owner_of_getD {owner : List (Option Nat)} {j k : Nat} (h : owner.getD j none = some k) :
    owner[j]? = some (some k) := by
  rw [List.getD_eq_getElem?_getD] at h
  cases ho : owner[j]? with
  | none => simp [ho] at h
  | some o => simpa [ho] using h

theorem free_of_getD {owner : List (Option Nat)} {j : Nat} (hj : j < owner.length)
    (h : owner.getD j none = none) : owner[j]? = some none := by
  rw [List.getD_eq_getElem?_getD, List.getElem?_eq_getElem hj] at h
  rw [List.getElem?_eq_getElem hj]
  exact congrArg some h

theorem lt_of_not_tried {s : Search} {j : Nat} (h : ¬ s.Tried j) : j < s.visited.length := by
  rcases Nat.lt_or_ge j s.visited.length with hj | hj
  · exact hj
  · exact absurd (by simp [Search.Tried, List.getD_eq_getElem?_getD, List.getElem?_eq_none hj]) h

theorem visited_of_not_tried {s : Search} {j : Nat} (h : ¬ s.Tried j)
    (hj : j < s.visited.length) : s.visited[j] = false := by
  simpa [Search.Tried, List.getD_eq_getElem?_getD, List.getElem?_eq_getElem hj] using h

theorem tried_mark {s : Search} {j m : Nat} : (s.mark j).Tried m ↔ m = j ∨ s.Tried m := by
  simp only [Search.Tried, Search.mark, List.getD_eq_getElem?_getD, List.getElem?_set]
  by_cases hm : j = m
  · subst hm
    rcases Nat.lt_or_ge j s.visited.length with hj | hj
    · simp [hj]
    · simp [Nat.not_lt.mpr hj]
  · simp [hm, Ne.symm hm]

theorem untried_mark {s : Search} {j : Nat} (h : ¬ s.Tried j) :
    (s.mark j).untried + 1 = s.untried := by
  have hj := lt_of_not_tried h
  have hv := visited_of_not_tried h hj
  have hpos : 0 < s.visited.count false :=
    List.count_pos_iff.mpr (hv ▸ List.getElem_mem hj)
  simp only [Search.untried, Search.mark, List.count_set hj, hv]
  simp
  omega

theorem Keeps.mark {s : Search} {j : Nat} (hs : s.Fits) (h : ¬ s.Tried j) : Keeps s (s.mark j) where
  fits := by simpa [Search.Fits, Search.mark] using hs
  places := by simp [Search.mark]
  untried_le := by have := untried_mark h; omega
  tried := fun _ hm => tried_mark.mpr (.inr hm)

theorem Keeps.trans {s t u : Search} (h₁ : Keeps s t) (h₂ : Keeps t u) : Keeps s u where
  fits := h₂.fits
  places := h₂.places.trans h₁.places
  untried_le := Nat.le_trans h₂.untried_le h₁.untried_le
  tried := fun j hj => h₂.tried j (h₁.tried j hj)

theorem Keeps.give {s t : Search} (h : Keeps s t) (j i : Nat) : Keeps s (t.give j i) where
  fits := by simpa [Search.Fits, Search.give] using h.fits
  places := h.places
  untried_le := h.untried_le
  tried := h.tried

theorem count_give {t : Search} {j i : Nat} {o : Option Nat} (ho : t.owner[j]? = some o) (l : Nat) :
    (t.give j i).owner.count (some l) + (if o = some l then 1 else 0) =
      t.owner.count (some l) + if l = i then 1 else 0 := by
  obtain ⟨hj, rfl⟩ := List.getElem?_eq_some_iff.mp ho
  simp only [Search.give, List.count_set hj, beq_iff_eq, Option.some.injEq, eq_comm (a := i)]
  by_cases hl : t.owner[j] = some l
  · have : 0 < t.owner.count (some l) := List.count_pos_iff.mpr (hl ▸ List.getElem_mem hj)
    simp only [hl, if_true]
    omega
  · simp [hl]

theorem owner_of_give {t : Search} {j i m l : Nat} (h : (t.give j i).owner[m]? = some (some l)) :
    (m = j ∧ l = i) ∨ t.owner[m]? = some (some l) := by
  simp only [Search.give, List.getElem?_set] at h
  by_cases hm : j = m
  · subst hm
    rw [if_pos rfl] at h
    split at h
    · cases h
      exact .inl ⟨rfl, rfl⟩
    · cases h
  · rw [if_neg hm] at h
    exact .inr h

/-! ## Whole searches -/

theorem Found.free {edges : List (List Nat)} {s : Search} {i j : Nat} (hj : ¬ s.Tried j)
    (hedge : j ∈ edges.getD i []) (ho : s.owner[j]? = some none) :
    Found edges i s ((s.mark j).give j i) where
  count_owner l := by
    have h := count_give (t := s.mark j) (i := i) ho l
    simpa [Search.mark] using h
  owner_of_tried m hm := by
    have hne : j ≠ m := fun e => hj (e ▸ hm)
    exact List.getElem?_set_ne hne
  along m l h := by
    rcases owner_of_give h with ⟨rfl, rfl⟩ | h
    · exact .inr hedge
    · exact .inl h

/-- A place whose owner `k` found another one goes to item `i`. -/
theorem Found.displaced {edges : List (List Nat)} {s t : Search} {i j k : Nat} (hj : ¬ s.Tried j)
    (hedge : j ∈ edges.getD i []) (ho : s.owner[j]? = some (some k))
    (ht : Found edges k (s.mark j) t) : Found edges i s (t.give j i) where
  count_owner l := by
    have hot : t.owner[j]? = some (some k) :=
      (ht.owner_of_tried j (tried_mark.mpr (.inl rfl))).trans ho
    have h₁ := count_give (i := i) hot l
    have h₂ : t.owner.count (some l) = s.owner.count (some l) + if l = k then 1 else 0 :=
      ht.count_owner l
    simp only [Option.some.injEq, eq_comm (a := k)] at h₁
    omega
  owner_of_tried m hm := by
    have hne : j ≠ m := fun e => hj (e ▸ hm)
    rw [Search.give, List.getElem?_set_ne hne]
    exact ht.owner_of_tried m (tried_mark.mpr (.inr hm))
  along m l h := by
    rcases owner_of_give h with ⟨rfl, rfl⟩ | h
    · exact .inr hedge
    · exact ht.along m l h

/-- The first choice is taken and cannot be had; the search goes on from `t` with the others. -/
theorem Failed.cons {edges : List (List Nat)} {choices : List Nat} {s t u : Search} {j k : Nat}
    (ho : s.owner[j]? = some (some k)) (ht : Failed edges (edges.getD k []) (s.mark j) t)
    (hu : Failed edges choices t u) (htu : Keeps t u) (hst : t.Tried j) :
    Failed edges (j :: choices) s u where
  owner_eq := hu.owner_eq.trans ht.owner_eq
  tried_choices m hm := by
    rcases List.mem_cons.mp hm with rfl | hm
    · exact htu.tried m hst
    · exact hu.tried_choices m hm
  closed m hm := by
    have hown : t.owner = s.owner := ht.owner_eq
    rcases hu.closed m hm with hm | ⟨l, hl, hc⟩
    · rcases ht.closed m hm with hm | ⟨l, hl, hc⟩
      · rcases tried_mark.mp hm with rfl | hm
        · exact .inr ⟨k, ho, fun p hp => htu.tried p (ht.tried_choices p hp)⟩
        · exact .inl hm
      · exact .inr ⟨l, hl, fun p hp => htu.tried p (hc p hp)⟩
    · exact .inr ⟨l, hown ▸ hl, hc⟩

theorem Found.of_failed {edges : List (List Nat)} {choices : List Nat} {s t u : Search} {i j : Nat}
    (ht : Failed edges choices (s.mark j) t) (hst : Keeps (s.mark j) t) (hu : Found edges i t u) :
    Found edges i s u where
  count_owner l := by
    have hown : t.owner = s.owner := ht.owner_eq
    rw [hu.count_owner l, hown]
  owner_of_tried m hm := by
    have hown : t.owner = s.owner := ht.owner_eq
    rw [hu.owner_of_tried m (hst.tried m (tried_mark.mpr (.inr hm))), hown]
  along m l h := by
    have hown : t.owner = s.owner := ht.owner_eq
    rw [← hown]
    exact hu.along m l h

/-- How a search for item `i` among choices goes, however many owners have to move one for the other. -/
inductive Searches (edges : List (List Nat)) : Nat → List Nat → Search → Bool × Search → Prop
  | nothingLeft {i s} : Searches edges i [] s (false, s)
  | alreadyTried {i j choices s r} : s.Tried j → Searches edges i choices s r →
      Searches edges i (j :: choices) s r
  | free {i j choices s} : ¬ s.Tried j → s.owner.getD j none = none →
      Searches edges i (j :: choices) s (true, (s.mark j).give j i)
  | moved {i j k choices s t} : ¬ s.Tried j → s.owner.getD j none = some k →
      Searches edges k (edges.getD k []) (s.mark j) (true, t) →
      Searches edges i (j :: choices) s (true, t.give j i)
  | stayed {i j k choices s t r} : ¬ s.Tried j → s.owner.getD j none = some k →
      Searches edges k (edges.getD k []) (s.mark j) (false, t) → Searches edges i choices t r →
      Searches edges i (j :: choices) s r

/-- The induction is on the rules: what an owner's search leaves is what the search that asked for it
goes on with. -/
theorem Searches.ends {edges : List (List Nat)} {i : Nat} {choices : List Nat} {s : Search}
    {r : Bool × Search} (h : Searches edges i choices s r) :
    s.Fits → (∀ j ∈ choices, j ∈ edges.getD i []) → Ends edges choices i s r := by
  induction h with
  | nothingLeft =>
    intro hs _
    exact ⟨⟨hs, rfl, Nat.le_refl _, fun _ h => h⟩, fun _ => ⟨rfl, by simp, fun _ h => .inl h⟩, nofun⟩
  | alreadyTried hj _ ih =>
    intro hs hc
    have hends := ih hs fun m hm => hc m (List.mem_cons_of_mem _ hm)
    refine ⟨hends.keeps, fun h => ⟨(hends.failed h).owner_eq, ?_, (hends.failed h).closed⟩, hends.found⟩
    intro m hm
    rcases List.mem_cons.mp hm with rfl | hm
    · exact hends.keeps.tried m hj
    · exact (hends.failed h).tried_choices m hm
  | free hj ho =>
    intro hs hc
    have hlt := hs ▸ lt_of_not_tried hj
    exact ⟨(Keeps.mark hs hj).give _ _, nofun,
      fun _ => .free hj (hc _ (List.mem_cons_self ..)) (free_of_getD hlt ho)⟩
  | moved hj ho _ ih =>
    intro hs hc
    have hmark := Keeps.mark hs hj
    have hk := ih hmark.fits fun _ h => h
    exact ⟨(hmark.trans hk.keeps).give _ _, nofun,
      fun _ => .displaced hj (hc _ (List.mem_cons_self ..)) (owner_of_getD ho) (hk.found rfl)⟩
  | @stayed i j k choices s t r hj ho _ _ ihk ih =>
    intro hs hc
    have hmark := Keeps.mark hs hj
    have hk := ihk hmark.fits fun _ h => h
    -- the owner keeps its place, and the other choices are tried in what its search left
    have hrest := ih hk.keeps.fits fun m hm => hc m (List.mem_cons_of_mem _ hm)
    have htj : t.Tried j := hk.keeps.tried j (tried_mark.mpr (.inl rfl))
    refine ⟨(hmark.trans hk.keeps).trans hrest.keeps, ?_, ?_⟩
    · exact fun h => .cons (owner_of_getD ho) (hk.failed rfl) (hrest.failed h) hrest.keeps htj
    · exact fun h => .of_failed (hk.failed rfl) hk.keeps (hrest.found h)

/-! ## Bounded searches -/

section
variable (displace : Nat → Search → Bool × Search) (i : Nat) {j : Nat} (choices : List Nat) {s : Search}

theorem takeFirst_tried (hj : s.Tried j) :
    takeFirst displace i (j :: choices) s = takeFirst displace i choices s := by
  rw [takeFirst]
  exact if_pos hj

theorem takeFirst_free (hj : ¬ s.Tried j) (ho : s.owner.getD j none = none) :
    takeFirst displace i (j :: choices) s = (true, (s.mark j).give j i) := by
  rw [takeFirst]
  refine (if_neg hj).trans ?_
  simp only [ho]
  rfl

theorem takeFirst_owned {k : Nat} {free : Bool} {t : Search} (hj : ¬ s.Tried j)
    (ho : s.owner.getD j none = some k) (hr : displace k (s.mark j) = (free, t)) :
    takeFirst displace i (j :: choices) s =
      if free then (true, t.give j i) else takeFirst displace i choices t := by
  rw [takeFirst]
  refine (if_neg hj).trans ?_
  simp only [Search.mark] at hr
  simp only [ho, hr]
  rfl

end

section
variable {edges : List (List Nat)} {depth i : Nat} {displace : Nat → Search → Bool × Search}

/-- If the searches of displaced owners go by the rules, so does a row of choices. Each choice that is
tried leaves one place less for the searches below it. -/
theorem takeFirst_searches
    (hd : ∀ k s, s.Fits → s.untried < depth → Searches edges k (edges.getD k []) s (displace k s)) :
    ∀ (choices : List Nat) (s : Search), s.Fits → s.untried ≤ depth →
      Searches edges i choices s (takeFirst displace i choices s)
  | [], _, _, _ => .nothingLeft
  | j :: choices, s, hs, hu => by
    by_cases hj : s.Tried j
    · rw [takeFirst_tried displace i choices hj]
      exact .alreadyTried hj (takeFirst_searches hd choices s hs hu)
    · have hfits := (Keeps.mark hs hj).fits
      have hless : (s.mark j).untried < depth := by have := untried_mark hj; omega
      cases ho : s.owner.getD j none with
      | none =>
        rw [takeFirst_free displace i choices hj ho]
        exact .free hj ho
      | some k =>
        have hk := hd k (s.mark j) hfits hless
        have hkept := (hk.ends hfits fun _ h => h).keeps
        rcases hr : displace k (s.mark j) with ⟨free, t⟩
        rw [hr] at hk hkept
        rw [takeFirst_owned displace i choices hj ho hr]
        cases free with
        | true => exact .moved hj ho hk
        | false =>
          have htu : t.untried ≤ depth := Nat.le_trans hkept.untried_le (Nat.le_of_lt hless)
          exact .stayed hj ho hk (takeFirst_searches hd choices t hkept.fits htu)

end

/-- The depth of a search is never reached while more moves are allowed than places are untried. -/
theorem augment_searches (edges : List (List Nat)) (depth : Nat) : ∀ (i : Nat) (s : Search), s.Fits →
    s.untried < depth → Searches edges i (edges.getD i []) s (augment edges depth i s) := by
  induction depth with
  | zero => intro i s _ hu; exact absurd hu (Nat.not_lt_zero _)
  | succ depth ih =>
    intro i s hs hu
    rw [augment]
    exact takeFirst_searches ih _ s hs (Nat.le_of_lt_succ hu)

end Assignment
end RequestMatching
