import RequestMatching.Proofs.Xsd.Names
import RequestMatching.Proofs.Xsd.Soundness

/-!
# What content goes on with

Content is matched without going back, so a run has to leave what the rest of the model still stands
for. Runs in a row do if each of them does, and rounds do if each of them leaves what is left after
it: as many more rounds as the bounds allow, and what follows.
-/

namespace RequestMatching

namespace Xsd

section
variable {α : Type} {l m k : Language α} {x : α} {v w : List α} {n count : Nat} {o : Occurs}

/-! ## Words that are not empty -/

theorem mem_mul_mono {l' k' : Language α} (hl : ∀ w ∈ l, w ∈ l') (hk : ∀ w ∈ k, w ∈ k')
    (h : w ∈ l * k) : w ∈ l' * k' := by
  obtain ⟨u, hu, v, hv, rfl⟩ := Language.mem_mul.mp h
  exact Language.append_mem_mul (hl u hu) (hk v hv)

theorem mem_mul_of_sub_one (h : w ∈ (l - 1) * k) : w ∈ l * k :=
  mem_mul_mono (fun _ h => h.1) (fun _ h => h) h

theorem cons_mem_sub_one : x :: w ∈ l - 1 ↔ x :: w ∈ l := by
  simp [Language.mem_sub, Language.mem_one]

theorem nil_notMem_sub_one_mul : [] ∉ (l - 1) * k := by
  rw [nil_mem_mul, Language.mem_sub]
  exact fun h => h.1.2 Language.nil_mem_one

theorem cons_mem_sub_one_mul :
    x :: w ∈ (l - 1) * k ↔ ∃ u v, x :: u ∈ l ∧ v ∈ k ∧ u ++ v = w := by
  rw [cons_mem_mul]
  simp [Language.mem_sub, Language.mem_one]

theorem mem_mul_cases (h : w ∈ l * k) : w ∈ (l - 1) * k ∨ [] ∈ l ∧ w ∈ k := by
  obtain ⟨a, ha, b, hb, rfl⟩ := Language.mem_mul.mp h
  cases a with
  | nil => exact .inr ⟨ha, hb⟩
  | cons x a => exact .inl (Language.append_mem_mul (cons_mem_sub_one.mpr ha) hb)

theorem cons_mem_single_mul {takes : α → Prop} :
    x :: w ∈ single takes * k ↔ takes x ∧ w ∈ k := by
  constructor
  · rintro ⟨_, ⟨y, hy, rfl⟩, v, hv, hsplit⟩
    cases hsplit
    exact ⟨hy, hv⟩
  · exact fun ⟨hx, hw⟩ => ⟨[x], ⟨x, hx, rfl⟩, w, hw, rfl⟩

theorem nil_notMem_single_mul {takes : α → Prop} : [] ∉ single takes * k := by
  rintro ⟨_, ⟨x, -, rfl⟩, v, -, hsplit⟩
  cases hsplit

theorem mul_sub_one_mul_cases (h : w ∈ (l * m - 1) * k) :
    w ∈ (l - 1) * (m * k) ∨ [] ∈ l ∧ w ∈ (m - 1) * k := by
  obtain ⟨a, ⟨hlm, hne⟩, b, hb, rfl⟩ := Language.mem_mul.mp h
  obtain ⟨c, hc, d, hd, rfl⟩ := Language.mem_mul.mp hlm
  cases c with
  | nil => exact .inr ⟨hc, Language.append_mem_mul ⟨hd, hne⟩ hb⟩
  | cons x c =>
    rw [List.append_assoc]
    exact .inl (Language.append_mem_mul (cons_mem_sub_one.mpr hc) (Language.append_mem_mul hd hb))

theorem add_sub_one_mul_cases (h : w ∈ (l + m - 1) * k) : w ∈ (l - 1) * k ∨ w ∈ (m - 1) * k := by
  obtain ⟨a, ⟨hlm, hne⟩, b, hb, rfl⟩ := Language.mem_mul.mp h
  rcases hlm with hl | hm
  · exact .inl (Language.append_mem_mul ⟨hl, hne⟩ hb)
  · exact .inr (Language.append_mem_mul ⟨hm, hne⟩ hb)

/-- The first round of some that takes anything. Those before it take nothing, so that there can be
as many after it. -/
theorem first_round : ∀ {n : Nat} {w : List α}, w ∈ l ^ n * k →
    w ∈ k ∨ ∃ i < n, (i + 1 < n → [] ∈ l) ∧ w ∈ (l - 1) * (l ^ i * k)
  | 0, w, h => by
    rw [pow_zero, one_mul] at h
    exact .inl h
  | n + 1, w, h => by
    rw [pow_succ', mul_assoc] at h
    rcases mem_mul_cases h with h | ⟨hl, h⟩
    · exact .inr ⟨n, Nat.lt_succ_self n, fun hn => absurd hn (Nat.lt_irrefl _), h⟩
    · rcases first_round h with h | ⟨i, hi, -, h⟩
      · exact .inl h
      · exact .inr ⟨i, Nat.lt_succ_of_lt hi, fun _ => hl, h⟩

theorem mem_pow_succ_sub_one (h : w ∈ l ^ (n + 1) - 1) : w ∈ (l - 1) * l ^ n := by
  obtain ⟨hw, hne⟩ := h
  rw [← mul_one (l ^ (n + 1))] at hw
  rcases first_round hw with h | ⟨i, hi, hl, h⟩
  · exact absurd h hne
  · rw [mul_one] at h
    rcases Nat.lt_or_ge i n with hin | hin
    · have hnil := hl (Nat.succ_lt_succ hin)
      exact mem_mul_mono (fun _ h => h) (fun _ h => mem_pow_of_le hnil hin.le h) h
    · rwa [Nat.le_antisymm (Nat.le_of_lt_succ hi) hin] at h

/-! ## Rounds that are left -/

namespace Occurs

/-- What is left after some rounds: as many more as the bounds allow, and what follows. -/
def remaining (o : Occurs) (l k : Language α) (count : Nat) : Language α :=
  {w | ∃ n, o.Allows (count + n) ∧ w ∈ l ^ n * k}

/-- Whether the bounds allow another round. -/
def HasRoom (o : Occurs) (count : Nat) : Prop :=
  ∀ most ∈ o.max, count < most

theorem powers_mul : o.powers l * k = o.remaining l k 0 := by
  ext w
  constructor
  · rintro ⟨u, ⟨n, hn, hu⟩, v, hv, rfl⟩
    exact ⟨n, by rwa [Nat.zero_add], Language.append_mem_mul hu hv⟩
  · rintro ⟨n, hn, u, hu, v, hv, rfl⟩
    rw [Nat.zero_add] at hn
    exact Language.append_mem_mul ⟨n, hn, hu⟩ hv

theorem mem_remaining_of_allows (hn : o.Allows count) (hw : w ∈ k) : w ∈ o.remaining l k count :=
  ⟨0, hn, by rwa [pow_zero, one_mul]⟩

/-- If a round may take nothing, or one is enough, there can be as many as the greatest number. -/
theorem mem_remaining_of_loose (ho : o.InOrder) (hl : o.min ≤ 1 ∨ [] ∈ l) (hpos : 0 < count + n)
    (hmost : ∀ most ∈ o.max, count + n ≤ most) (hw : w ∈ l ^ n * k) : w ∈ o.remaining l k count := by
  rcases hl with hmin | hnil
  · exact ⟨n, ⟨by omega, hmost⟩, hw⟩
  · refine ⟨n + (o.min - (count + n)), ⟨by omega, fun most hmax => ?_⟩, ?_⟩
    · have hmin := ho most hmax
      have hle := hmost most hmax
      omega
    · exact mem_mul_mono (fun _ h => mem_pow_of_le hnil (Nat.le_add_right _ _) h) (fun _ h => h) hw

theorem mem_remaining_of_follows (ho : o.InOrder) (hl : o.min ≤ 1 ∨ [] ∈ l) (hroom : o.HasRoom count)
    (hw : w ∈ k) : w ∈ o.remaining l k (count + 1) :=
  mem_remaining_of_loose (n := 0) ho hl (Nat.succ_pos count) hroom (by rwa [pow_zero, one_mul])

theorem Allows.lt_of_succ (h : o.Allows (count + (n + 1))) : o.HasRoom count :=
  fun most hmost => by have := h.2 most hmost; omega

theorem remaining_cases (h : w ∈ o.remaining l k count) :
    (o.Allows count ∧ w ∈ k) ∨ (o.HasRoom count ∧ w ∈ l * o.remaining l k (count + 1)) := by
  obtain ⟨n, hn, hw⟩ := h
  cases n with
  | zero =>
    rw [pow_zero, one_mul] at hw
    exact .inl ⟨hn, hw⟩
  | succ n =>
    rw [pow_succ', mul_assoc] at hw
    refine .inr ⟨hn.lt_of_succ, ?_⟩
    obtain ⟨u, hu, v, hv, rfl⟩ := Language.mem_mul.mp hw
    exact Language.append_mem_mul hu ⟨n, by rwa [Nat.add_assoc, Nat.add_comm 1], hv⟩

theorem InOrder.remaining_last (ho : o.InOrder) (hmax : o.max = some count) :
    o.remaining l k count = k := by
  ext w
  refine ⟨fun ⟨n, hn, hw⟩ => ?_, mem_remaining_of_allows ⟨ho count hmax, by simp [hmax]⟩⟩
  have hzero : n = 0 := by have := hn.2 count hmax; omega
  rwa [hzero, pow_zero, one_mul] at hw

theorem powers_sub_one_mul (h : w ∈ (o.powers l - 1) * k) :
    o.HasRoom 0 ∧ w ∈ (l - 1) * o.remaining l k 1 := by
  obtain ⟨u, ⟨⟨n, hn, hu⟩, hne⟩, v, hv, rfl⟩ := Language.mem_mul.mp h
  cases n with
  | zero => exact absurd hu hne
  | succ n =>
    refine ⟨Allows.lt_of_succ (by rwa [Nat.zero_add]), ?_⟩
    obtain ⟨a, ha, b, hb, rfl⟩ := Language.mem_mul.mp (mem_pow_succ_sub_one ⟨hu, hne⟩)
    rw [List.append_assoc]
    exact Language.append_mem_mul ha ⟨n, by rwa [Nat.add_comm], Language.append_mem_mul hb hv⟩

/-- Where rounds may take nothing, what is left is only what follows or it begins with a round that
takes something. -/
theorem remaining_cases_of_nil (hl : [] ∈ l) (h : w ∈ o.remaining l k count) :
    w ∈ k ∨ w ∈ (l - 1) * o.remaining l k count := by
  obtain ⟨n, hn, hw⟩ := h
  refine (first_round hw).imp id ?_
  rintro ⟨i, hi, -, hround⟩
  refine mem_mul_mono (fun _ h => h) (fun v hv => ⟨n, hn, ?_⟩) hround
  exact mem_mul_mono (fun _ h => mem_pow_of_le hl hi.le h) (fun _ h => h) hv

end Occurs

/-! ## Runs -/

/-- The run takes nothing but words of the language. -/
def TakesOnly (run : List α → Except String (List α)) (l : Language α) : Prop :=
  ∀ {cs rest}, run cs = .ok rest → Takes l cs rest

/-- The run takes a word of `l` off a row that begins with one and goes on as `k` says, such that it
goes on as `k` says again. It takes something if it can. -/
def Continues (run : List α → Except String (List α)) (l k : Language α) : Prop :=
  ∀ w ∈ l * k, ∃ rest ∈ k, run w = .ok rest ∧ (w ∈ (l - 1) * k → rest.length < w.length)

variable {run first second : List α → Except String (List α)}

theorem Continues.nothing : Continues .ok 1 k := by
  intro w hw
  rw [one_mul] at hw
  refine ⟨w, hw, rfl, fun h => ?_⟩
  obtain ⟨u, ⟨hu, hne⟩, -⟩ := Language.mem_mul.mp h
  exact absurd hu hne

theorem Continues.bind (hfirst : Continues first l (m * k)) (hsecond : Continues second m k)
    (htakes : TakesOnly first l) (htakes' : TakesOnly second m) :
    Continues (fun w => first w >>= second) (l * m) k := by
  intro w hw
  rw [mul_assoc] at hw
  obtain ⟨left, hleft, hrun, hless⟩ := hfirst w hw
  obtain ⟨rest, hrest, hrun', hless'⟩ := hsecond left hleft
  refine ⟨rest, hrest, ?_, fun h => ?_⟩
  · dsimp only
    rw [hrun]
    exact hrun'
  · have hle := (htakes' hrun').length_le
    rcases mul_sub_one_mul_cases h with h | ⟨-, h⟩
    · exact Nat.lt_of_le_of_lt hle (hless h)
    · by_cases hstill : left.length < w.length
      · exact Nat.lt_of_le_of_lt hle hstill
      · obtain rfl := (htakes hrun).eq_of_length hstill
        exact hless' h

end

/-! ## Rounds -/

section
variable {l k : Language XmlElement} {o : Occurs}
  {once : List XmlElement → Except String (List XmlElement)}

/-- Rounds leave what follows if each of them leaves what is left after it, and if, where enough are
done and no more are to come, a round either is possible all the same or takes nothing. -/
theorem repeated_continues (htakes : TakesOnly once l)
    (hround : ∀ {count}, o.HasRoom count → Continues once l (o.remaining l k (count + 1)))
    (hdone : ∀ {count}, o.Allows count → o.HasRoom count → ∀ w ∈ k,
      w ∈ l * o.remaining l k (count + 1) ∨ ∀ u v, u ∈ l → u ++ v = w → u = []) :
    ∀ {fuel count : Nat} {w : List XmlElement}, w.length < fuel → w ∈ o.remaining l k count →
      ∃ rest ∈ k, repeated o once fuel count w = .ok rest ∧ rest.length ≤ w.length ∧
        (o.HasRoom count → w ∈ (l - 1) * o.remaining l k (count + 1) → rest.length < w.length)
  | 0, _, _, hfuel, _ => absurd hfuel (Nat.not_lt_zero _)
  | fuel + 1, count, w, hfuel, hw => by
    unfold repeated
    by_cases hroom : o.HasRoom count
    · rw [if_pos (max_all_iff.mpr hroom)]
      by_cases hnext : w ∈ l * o.remaining l k (count + 1)
      · obtain ⟨left, hleft, hrun, hless⟩ := hround hroom w hnext
        rw [hrun]
        dsimp only
        by_cases hsome : left.length < w.length
        · obtain ⟨rest, hrest, hrun', hle, -⟩ :=
            repeated_continues htakes hround hdone (show left.length < fuel by omega) hleft
          rw [if_pos hsome]
          exact ⟨rest, hrest, hrun', by omega, fun _ _ => by omega⟩
        · obtain rfl := (htakes hrun).eq_of_length hsome
          rw [if_neg hsome]
          have hnil := takes_self.mp (htakes hrun)
          have hk := (Occurs.remaining_cases_of_nil hnil hleft).resolve_right
            fun h => hsome (hless h)
          exact ⟨left, hk, rfl, Nat.le_refl _, fun _ h => hless h⟩
      · obtain ⟨hcount, hk⟩ := (Occurs.remaining_cases hw).resolve_right fun h => hnext h.2
        have hnone := (hdone hcount hroom w hk).resolve_left hnext
        refine ⟨w, hk, ?_, Nat.le_refl _, fun _ h => absurd (mem_mul_of_sub_one h) hnext⟩
        cases hrun : once w with
        | ok left =>
          obtain ⟨u, hu, hsplit⟩ := htakes hrun
          obtain rfl := hnone u left hu hsplit
          obtain rfl : left = w := hsplit
          exact if_neg (Nat.lt_irrefl _)
        | error e => exact if_neg (Nat.not_lt.mpr hcount.1)
    · rw [if_neg fun h => hroom (max_all_iff.mp h)]
      obtain ⟨-, hk⟩ := (Occurs.remaining_cases hw).resolve_right fun h => hroom h.1
      exact ⟨w, hk, rfl, Nat.le_refl _, fun h => absurd h hroom⟩

theorem rounds_continue (htakes : TakesOnly once l)
    (hround : ∀ {count}, o.HasRoom count → Continues once l (o.remaining l k (count + 1)))
    (hdone : ∀ {count}, o.Allows count → o.HasRoom count → ∀ w ∈ k,
      w ∈ l * o.remaining l k (count + 1) ∨ ∀ u v, u ∈ l → u ++ v = w → u = []) :
    Continues (fun cs => repeated o once (cs.length + 1) 0 cs) (o.powers l) k := by
  intro w hw
  rw [Occurs.powers_mul] at hw
  obtain ⟨rest, hrest, hrun, -, hless⟩ :=
    repeated_continues htakes hround hdone (Nat.lt_succ_self w.length) hw
  exact ⟨rest, hrest, hrun, fun h => hless (Occurs.powers_sub_one_mul h).1 (Occurs.powers_sub_one_mul h).2⟩

end

end Xsd
end RequestMatching
