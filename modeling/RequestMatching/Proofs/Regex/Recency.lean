import Mathlib.Data.Finset.Card
import Mathlib.Data.List.Nodup
import RequestMatching.Regex.Cache

/-!
# What a cache remembers

A cache holds the sources that were asked for last, as many as it has room for, and gives up the one
that has not been asked for the longest. So a source is compiled again only if it had to leave in the
meantime or if the cache was cleared.
-/

namespace RequestMatching

namespace Regex.Cache

inductive Op where
  | compile (source : String)
  | isMatch (source text : String)
  | clear
  deriving DecidableEq

def Op.source? : Op → Option String
  | compile source | isMatch source _ => some source
  | clear => none

def apply (c : Cache) : Op → Cache
  | .compile source => (c.request source).2
  | .isMatch source text => (c.matchWhole source text).2
  | .clear => c.clear

def run (c : Cache) : List Op → Cache
  | [] => c
  | op :: ops => (c.apply op).run ops

/-- Puts what an operation asks for in front. -/
def remember (recent : List String) : Op → List String
  | .compile source | .isMatch source _ => source :: recent.filter (· ≠ source)
  | .clear => []

/-- The sources asked for since the cache was cleared, each once and the latest first. -/
def requested (recent : List String) : List Op → List String
  | [] => recent
  | op :: ops => requested (remember recent op) ops

/-! ## Rows without repetition -/

section
variable {α : Type} [DecidableEq α] {l : List α} {a : α}

theorem filter_ne_of_notMem (h : a ∉ l) : l.filter (· ≠ a) = l :=
  List.filter_eq_self.mpr fun _ hb => decide_eq_true fun hba => h (hba ▸ hb)

theorem take_filter_of_mem (hn : l.Nodup) : ∀ {n : Nat}, a ∈ l.take (n + 1) →
    (l.filter (· ≠ a)).take n = (l.take (n + 1)).filter (· ≠ a) := by
  induction l with
  | nil => simp
  | cons b l ih =>
    intro n h
    obtain ⟨hb, hl⟩ := List.nodup_cons.mp hn
    by_cases hba : b = a
    · subst hba
      have hrest : b ∉ l.take n := fun hm => hb (List.mem_of_mem_take hm)
      rw [List.take_succ_cons, List.filter_cons_of_neg (by simp), List.filter_cons_of_neg (by simp),
        filter_ne_of_notMem hb, filter_ne_of_notMem hrest]
    · have hmem : a ∈ l.take n := by
        simpa [List.take_succ_cons, Ne.symm hba] using h
      cases n with
      | zero => simp at hmem
      | succ n =>
        rw [List.take_succ_cons, List.filter_cons_of_pos (by simpa using hba),
          List.filter_cons_of_pos (by simpa using hba), List.take_succ_cons, ih hl hmem]

theorem take_filter_of_notMem : ∀ {n : Nat}, a ∉ l.take (n + 1) →
    (l.filter (· ≠ a)).take n = l.take n := by
  induction l with
  | nil => simp
  | cons b l ih =>
    intro n h
    simp only [List.take_succ_cons, List.mem_cons, not_or] at h
    rw [List.filter_cons_of_pos (by simpa using Ne.symm h.1)]
    cases n with
    | zero => rfl
    | succ n => rw [List.take_succ_cons, List.take_succ_cons, ih h.2]

end

theorem remember_nodup {recent : List String} (h : recent.Nodup) (op : Op) :
    (remember recent op).Nodup := by
  cases op with
  | compile source => exact List.nodup_cons.mpr ⟨by simp, h.filter _⟩
  | isMatch source text => exact List.nodup_cons.mpr ⟨by simp, h.filter _⟩
  | clear => exact List.nodup_nil

/-! ## The entry that is given up -/

theorem oldest_spec : ∀ (entries : List CacheEntry), entries ≠ [] →
    ∃ o, oldest entries = some o ∧ o ∈ entries ∧ ∀ e ∈ entries, o.used ≤ e.used
  | [], h => absurd rfl h
  | [e], _ => ⟨e, rfl, List.mem_cons_self, by simp⟩
  | e :: f :: rest, _ => by
    obtain ⟨o, ho, hmem, hle⟩ := oldest_spec (f :: rest) (List.cons_ne_nil f rest)
    rw [oldest, ho]
    by_cases heo : e.used ≤ o.used
    · refine ⟨e, by simp [heo], List.mem_cons_self, fun x hx => ?_⟩
      rcases List.mem_cons.mp hx with rfl | hx
      · exact Nat.le_refl _
      · exact Nat.le_trans heo (hle x hx)
    · refine ⟨o, by simp [heo], List.mem_cons_of_mem e hmem, fun x hx => ?_⟩
      rcases List.mem_cons.mp hx with rfl | hx
      · omega
      · exact hle x hx

theorem withoutOldest_perm {entries front : List CacheEntry} {last : CacheEntry}
    (hperm : entries.Perm (front ++ [last]))
    (hdesc : (front ++ [last]).Pairwise fun a b => b.used < a.used)
    (hn : (entries.map (·.source)).Nodup) : (withoutOldest entries).Perm front := by
  have hne : entries ≠ [] := fun h => by simp [h] at hperm
  obtain ⟨o, ho, hmem, hle⟩ := oldest_spec entries hne
  have hlast : o = last := by
    rcases List.mem_append.mp (hperm.mem_iff.mp hmem) with hfront | hlast
    · have hlt := (List.pairwise_append.mp hdesc).2.2 o hfront last List.mem_cons_self
      have hge := hle last (hperm.mem_iff.mpr (by simp))
      omega
    · exact List.mem_singleton.mp hlast
  have hn' : ((front ++ [last]).map (·.source)).Nodup := (hperm.map _).nodup_iff.mp hn
  have hother : ∀ e ∈ front, e.source ≠ last.source := by
    intro e he hsame
    rw [List.map_append, List.nodup_append] at hn'
    exact hn'.2.2 e.source (List.mem_map_of_mem he) last.source (by simp) hsame
  rw [withoutOldest, ho, hlast]
  refine (hperm.filter _).trans (List.Perm.of_eq ?_)
  rw [List.filter_append, List.filter_eq_self.mpr fun e he => by simpa using hother e he]
  simp

/-! ## Steps -/

/-- A cache holds the latest of the sources that were asked for; `row` are its entries, the one used
last in front. -/
structure Tracks (c : Cache) (recent : List String) (row : List CacheEntry) : Prop where
  perm : c.entries.Perm row
  descending : row.Pairwise fun a b => b.used < a.used
  sources : row.map (·.source) = recent.take c.capacity
  nodup : recent.Nodup
  used : ∀ e ∈ c.entries, e.used ≤ c.requests
  compiled : ∀ e ∈ c.entries, e.compiled ≤ c.requests
  positive : 0 < c.capacity

section
variable {c : Cache} {recent : List String} {row : List CacheEntry} {source : String}

theorem Tracks.sources_nodup (h : Tracks c recent row) : (row.map (·.source)).Nodup :=
  h.sources ▸ h.nodup.sublist (List.take_sublist ..)

theorem Tracks.mem_take_iff (h : Tracks c recent row) (source : String) :
    source ∈ recent.take c.capacity ↔ ∃ e ∈ c.entries, e.source = source := by
  rw [← h.sources, List.mem_map]
  simp only [h.perm.mem_iff]

theorem Tracks.find?_isSome (h : Tracks c recent row) (source : String) :
    (c.find? source).isSome ↔ source ∈ recent.take c.capacity := by
  rw [h.mem_take_iff, find?, List.find?_isSome]
  simp

theorem mem_of_find? {e : CacheEntry} (h : c.find? source = some e) :
    e ∈ c.entries ∧ e.source = source :=
  ⟨List.mem_of_find?_eq_some h, by simpa using List.find?_some h⟩

theorem touch_of_ne (request : Nat) {entries : List CacheEntry}
    (h : ∀ e ∈ entries, e.source ≠ source) : touch source request entries = entries :=
  (List.map_congr_left fun e he => if_neg (h e he)).trans (List.map_id' entries)

theorem mem_touch {request : Nat} {entries : List CacheEntry} {x : CacheEntry}
    (hx : x ∈ touch source request entries) : ∃ e ∈ entries,
      x.source = e.source ∧ x.compiled = e.compiled ∧ (x.used = e.used ∨ x.used = request) := by
  obtain ⟨e, he, rfl⟩ := List.mem_map.mp hx
  refine ⟨e, he, ?_⟩
  split
  · exact ⟨rfl, rfl, .inr rfl⟩
  · exact ⟨rfl, rfl, .inl rfl⟩

theorem request_hit {e : CacheEntry} (he : c.find? source = some e) : c.request source =
    (e, { c with requests := c.requests + 1, entries := touch source (c.requests + 1) c.entries }) := by
  simp [Cache.request, he]

/-- A source that the cache holds comes to the front. -/
theorem Tracks.hit (h : Tracks c recent row) {e : CacheEntry} (he : c.find? source = some e) :
    ∃ row', Tracks (c.request source).2 (source :: recent.filter (· ≠ source)) row' := by
  obtain ⟨hmem, hsource⟩ := mem_of_find? he
  have hrow : e ∈ row := h.perm.mem_iff.mp hmem
  obtain ⟨l₁, l₂, rfl⟩ := List.append_of_mem hrow
  have hsplit := h.sources_nodup
  simp only [List.map_append, List.map_cons] at hsplit
  have hother : ∀ x ∈ l₁ ++ l₂, x.source ≠ source := by
    intro x hx hxs
    have hnot := (List.nodup_cons.mp (List.nodup_middle.mp hsplit)).1
    exact hnot (by simpa [hsource, ← hxs] using List.mem_map_of_mem (f := (·.source)) hx)
  have hmem_take : source ∈ recent.take c.capacity := (h.mem_take_iff source).mpr ⟨e, hmem, hsource⟩
  obtain ⟨n, hn⟩ : ∃ n, c.capacity = n + 1 := ⟨c.capacity - 1, by have := h.positive; omega⟩
  rw [hn] at hmem_take
  rw [request_hit he]
  refine ⟨{ e with used := c.requests + 1 } :: (l₁ ++ l₂), ?_, ?_, ?_, ?_, ?_, ?_, h.positive⟩
  · -- the entry is moved to the front of the row after it has been touched
    have htouch : touch source (c.requests + 1) (l₁ ++ e :: l₂) =
        l₁ ++ { e with used := c.requests + 1 } :: l₂ := by
      have h₁ := touch_of_ne (c.requests + 1) fun x hx => hother x (List.mem_append_left l₂ hx)
      have h₂ := touch_of_ne (c.requests + 1) fun x hx => hother x (List.mem_append_right l₁ hx)
      simp only [touch] at h₁ h₂ ⊢
      rw [List.map_append, List.map_cons, h₁, h₂, if_pos hsource]
    have hmoved := h.perm.map fun x => if x.source = source then { x with used := c.requests + 1 } else x
    exact (hmoved.trans (List.Perm.of_eq htouch)).trans List.perm_middle
  · refine List.pairwise_cons.mpr ⟨fun x hx => ?_, ?_⟩
    · have hx' : x ∈ c.entries := h.perm.mem_iff.mpr (by
        rcases List.mem_append.mp hx with hx | hx <;> simp [hx])
      exact Nat.lt_succ_of_le (h.used x hx')
    · exact h.descending.sublist (by simp)
  · have hsources : (l₁ ++ l₂).map (·.source) = (recent.take (n + 1)).filter (· ≠ source) := by
      rw [← hn, ← h.sources, List.map_append, List.map_append, List.map_cons, hsource,
        List.filter_append, List.filter_cons_of_neg (by simp), ← List.filter_append, ← List.map_append]
      refine (List.filter_eq_self.mpr fun x hx => ?_).symm
      obtain ⟨y, hy, rfl⟩ := List.mem_map.mp hx
      simpa using hother y hy
    rw [List.map_cons, hsources, hsource]
    simp only [hn]
    rw [List.take_succ_cons, take_filter_of_mem h.nodup hmem_take]
  · exact List.nodup_cons.mpr ⟨by simp, h.nodup.filter _⟩
  · intro x hx
    obtain ⟨y, hy, -, -, hused | hused⟩ := mem_touch hx
    · exact hused ▸ Nat.le_succ_of_le (h.used y hy)
    · exact Nat.le_of_eq hused
  · intro x hx
    obtain ⟨y, hy, -, hcompiled, -⟩ := mem_touch hx
    exact hcompiled ▸ Nat.le_succ_of_le (h.compiled y hy)

theorem request_miss (he : c.find? source = none) : ∃ new, new.source = source ∧
    new.compiled = c.requests + 1 ∧ new.used = c.requests + 1 ∧ c.request source =
      (new, { c with
        requests := c.requests + 1
        entries := new :: if c.capacity ≤ c.size then withoutOldest c.entries else c.entries }) := by
  refine ⟨⟨source, compileWhole source, c.requests + 1, c.requests + 1, rfl⟩, rfl, rfl, rfl, ?_⟩
  simp [Cache.request, he]

theorem Tracks.kept (h : Tracks c recent row) {n : Nat} (hn : c.capacity = n + 1) :
    ∃ kept, (if c.capacity ≤ c.size then withoutOldest c.entries else c.entries).Perm kept ∧
      kept.Sublist row ∧ kept.map (·.source) = recent.take n := by
  have hsize : c.size = row.length := h.perm.length_eq
  have hlength : row.length = min (n + 1) recent.length := by
    rw [← hn, ← List.length_take, ← h.sources, List.length_map]
  by_cases hfull : c.capacity ≤ c.size
  · -- a full row gives up its last entry
    have hne : row ≠ [] := fun hnil => by simp [hnil] at hsize; omega
    obtain ⟨front, last, rfl⟩ : ∃ front last, row = front ++ [last] :=
      ⟨row.dropLast, row.getLast hne, (List.dropLast_append_getLast hne).symm⟩
    rw [if_pos hfull]
    refine ⟨front, withoutOldest_perm h.perm h.descending ?_, List.sublist_append_left .., ?_⟩
    · exact (h.perm.map _).nodup_iff.mpr h.sources_nodup
    · have hfront : front.length = n := by
        simp only [List.length_append, List.length_singleton] at hlength hsize
        omega
      have hsources := congrArg (List.take n) h.sources
      rw [hn, List.take_take, Nat.min_eq_left (Nat.le_succ n), List.map_append] at hsources
      rwa [List.take_left' (by simpa using hfront)] at hsources
  · rw [if_neg hfull]
    refine ⟨row, h.perm, List.Sublist.refl row, ?_⟩
    have hshort : recent.length ≤ n := by omega
    rw [h.sources, hn, List.take_of_length_le hshort, List.take_of_length_le (Nat.le_succ_of_le hshort)]

/-- A source that the cache does not hold is compiled, and the latest of the others stay. -/
theorem Tracks.miss (h : Tracks c recent row) (he : c.find? source = none) :
    ∃ row', Tracks (c.request source).2 (source :: recent.filter (· ≠ source)) row' := by
  obtain ⟨n, hn⟩ : ∃ n, c.capacity = n + 1 := ⟨c.capacity - 1, by have := h.positive; omega⟩
  have hnot : source ∉ recent.take (n + 1) := by
    rw [← hn, ← h.find?_isSome, he]
    simp
  obtain ⟨kept, hperm, hsub, hsources⟩ := h.kept hn
  obtain ⟨new, hsource, hcompiled, hused, hrequest⟩ := request_miss he
  have hold : ∀ e ∈ kept, e ∈ c.entries := fun e hk => h.perm.mem_iff.mpr (hsub.subset hk)
  rw [hrequest]
  refine ⟨new :: kept, hperm.cons new, ?_, ?_, ?_, ?_, ?_, h.positive⟩
  · refine List.pairwise_cons.mpr ⟨fun e hk => ?_, h.descending.sublist hsub⟩
    rw [hused]
    exact Nat.lt_succ_of_le (h.used e (hold e hk))
  · rw [List.map_cons, hsource, hsources]
    simp only [hn]
    rw [List.take_succ_cons, take_filter_of_notMem hnot]
  · exact List.nodup_cons.mpr ⟨by simp, h.nodup.filter _⟩
  · intro e hmem
    rcases List.mem_cons.mp hmem with rfl | hmem
    · exact Nat.le_of_eq hused
    · exact Nat.le_succ_of_le (h.used e (hold e (hperm.mem_iff.mp hmem)))
  · intro e hmem
    rcases List.mem_cons.mp hmem with rfl | hmem
    · exact Nat.le_of_eq hcompiled
    · exact Nat.le_succ_of_le (h.compiled e (hold e (hperm.mem_iff.mp hmem)))

theorem Tracks.request (h : Tracks c recent row) (source : String) :
    ∃ row', Tracks (c.request source).2 (source :: recent.filter (· ≠ source)) row' := by
  cases he : c.find? source with
  | none => exact h.miss he
  | some e => exact h.hit he

theorem Tracks.apply (h : Tracks c recent row) (op : Op) :
    ∃ row', Tracks (c.apply op) (remember recent op) row' := by
  cases op with
  | compile source => exact h.request source
  | isMatch source text => exact h.request source
  | clear =>
    refine ⟨[], .nil, .nil, ?_, .nil, ?_, ?_, h.positive⟩
    · simp [remember]
    · simp [Cache.apply, clear]
    · simp [Cache.apply, clear]

theorem Tracks.run (ops : List Op) : ∀ {c : Cache} {recent : List String} {row : List CacheEntry},
    Tracks c recent row → ∃ row', Tracks (c.run ops) (requested recent ops) row' := by
  induction ops with
  | nil => exact fun h => ⟨_, h⟩
  | cons op ops ih =>
    intro c recent row h
    obtain ⟨row', h'⟩ := h.apply op
    exact ih h'

theorem ofSize_tracks (n : Nat) : Tracks (ofSize n) [] [] :=
  ⟨.nil, .nil, by simp, .nil, by simp [ofSize], by simp [ofSize], by simp [ofSize]⟩

end

theorem request_capacity (c : Cache) (source : String) : (c.request source).2.capacity = c.capacity := by
  unfold Cache.request
  split <;> rfl

theorem run_capacity (ops : List Op) : ∀ c : Cache, (c.run ops).capacity = c.capacity := by
  induction ops with
  | nil => exact fun _ => rfl
  | cons op ops ih =>
    intro c
    rw [run, ih]
    cases op with
    | compile source => exact request_capacity c source
    | isMatch source text => exact request_capacity c source
    | clear => rfl

theorem le_run_requests (ops : List Op) : ∀ c : Cache, c.requests ≤ (c.run ops).requests := by
  induction ops with
  | nil => exact fun _ => Nat.le_refl _
  | cons op ops ih =>
    intro c
    refine Nat.le_trans ?_ (ih (c.apply op))
    have hrequest : ∀ source, c.requests ≤ (c.request source).2.requests := by
      intro source
      unfold Cache.request
      split <;> exact Nat.le_succ _
    cases op with
    | compile source => exact hrequest source
    | isMatch source text => exact hrequest source
    | clear => exact Nat.le_refl _

/-! ## The place of a source that is not asked for -/

section
variable {source : String} {ops : List Op}

theorem notMem_requested (hops : ∀ op ∈ ops, op.source? ≠ some source) :
    ∀ {recent : List String}, source ∉ recent → source ∉ requested recent ops := by
  induction ops with
  | nil => exact fun h => h
  | cons op ops ih =>
    intro recent h
    refine ih (fun op hop => hops op (List.mem_cons_of_mem _ hop)) ?_
    have hop := hops op List.mem_cons_self
    have hfront : ∀ other, other ≠ source → source ∉ other :: recent.filter (· ≠ other) := by
      intro other hne
      simp [h, hne.symm]
    cases op with
    | compile other => exact hfront other fun heq => hop (congrArg some heq)
    | isMatch other text => exact hfront other fun heq => hop (congrArg some heq)
    | clear => exact List.not_mem_nil

theorem notMem_requested_of_clear (hops : ∀ op ∈ ops, op.source? ≠ some source)
    (hclear : .clear ∈ ops) : ∀ recent, source ∉ requested recent ops := by
  induction ops with
  | nil => simp at hclear
  | cons op ops ih =>
    intro recent
    have hrest : ∀ op ∈ ops, op.source? ≠ some source :=
      fun op hop => hops op (List.mem_cons_of_mem _ hop)
    rcases List.mem_cons.mp hclear with rfl | hclear
    · exact notMem_requested hrest List.not_mem_nil
    · exact ih hrest hclear (remember recent op)

theorem requested_split (hops : ∀ op ∈ ops, op.source? ≠ some source) (hclear : .clear ∉ ops) :
    ∀ front rest : List String, ∃ front' rest',
      requested (front ++ source :: rest) ops = front' ++ source :: rest' ∧
        front'.toFinset = front.toFinset ∪ (ops.filterMap Op.source?).toFinset := by
  induction ops with
  | nil => exact fun front rest => ⟨front, rest, rfl, by simp⟩
  | cons op ops ih =>
    intro front rest
    have hstep : ∀ other, other ≠ source → op.source? = some other →
        remember (front ++ source :: rest) op = other :: (front ++ source :: rest).filter (· ≠ other) →
        ∃ front' rest', requested (front ++ source :: rest) (op :: ops) = front' ++ source :: rest' ∧
          front'.toFinset = front.toFinset ∪ ((op :: ops).filterMap Op.source?).toFinset := by
      intro other hne hother hremember
      obtain ⟨front', rest', hrequested, hset⟩ :=
        ih (fun op hop => hops op (List.mem_cons_of_mem _ hop))
          (fun h => hclear (List.mem_cons_of_mem _ h))
          (other :: front.filter (· ≠ other)) (rest.filter (· ≠ other))
      refine ⟨front', rest', ?_, ?_⟩
      · rw [requested, hremember, List.filter_append, List.filter_cons_of_pos (by simpa using hne.symm)]
        exact hrequested
      · rw [hset, List.filterMap_cons_some hother]
        ext x
        by_cases hx : x = other <;> simp [hx]
    have hop := hops op List.mem_cons_self
    cases op with
    | compile other => exact hstep other (fun h => hop (congrArg some h)) rfl rfl
    | isMatch other text => exact hstep other (fun h => hop (congrArg some h)) rfl rfl
    | clear => simp at hclear

theorem requested_nodup (ops : List Op) : ∀ {recent : List String}, recent.Nodup →
    (requested recent ops).Nodup := by
  induction ops with
  | nil => exact fun h => h
  | cons op ops ih => exact fun h => ih (remember_nodup h op)

theorem mem_take_split {α : Type} {front rest : List α} {a : α} (h : a ∉ front) (n : Nat) :
    a ∈ (front ++ a :: rest).take n ↔ front.length < n := by
  constructor
  · intro hmem
    by_contra hle
    rw [List.take_append_of_le_length (Nat.le_of_not_lt hle)] at hmem
    exact h (List.mem_of_mem_take hmem)
  · intro hlt
    obtain ⟨k, rfl⟩ := Nat.exists_eq_add_of_lt hlt
    rw [Nat.add_assoc, List.take_length_add_append]
    simp

/-- A source is among the latest `n` exactly if fewer than `n` others have been asked for since, and
nothing was cleared. -/
theorem mem_take_requested_iff (hops : ∀ op ∈ ops, op.source? ≠ some source) {rest : List String}
    (hn : (source :: rest).Nodup) (n : Nat) : source ∈ (requested (source :: rest) ops).take n ↔
      .clear ∉ ops ∧ (ops.filterMap Op.source?).toFinset.card < n := by
  by_cases hclear : Op.clear ∈ ops
  · have hnot := notMem_requested_of_clear hops hclear (source :: rest)
    simpa [hclear] using fun h => hnot (List.mem_of_mem_take h)
  · obtain ⟨front, rest', hrequested, hset⟩ := requested_split hops hclear [] rest
    rw [List.nil_append] at hrequested
    have hnodup := requested_nodup ops hn
    rw [hrequested] at hnodup ⊢
    obtain ⟨hfront, -, hdisjoint⟩ := List.nodup_append.mp hnodup
    have hsource : source ∉ front := fun hs => hdisjoint source hs source List.mem_cons_self rfl
    rw [mem_take_split hsource, ← List.toFinset_card_of_nodup hfront, hset]
    simp [hclear]

end

/-! ## The object that is returned -/

/-- All that the cache holds of a source was compiled at one request. -/
def IsStamped (source : String) (stamp : Nat) (c : Cache) : Prop :=
  ∀ e ∈ c.entries, e.source = source → e.compiled = stamp

section
variable {c : Cache} {source : String} {stamp : Nat}

theorem mem_of_mem_withoutOldest {entries : List CacheEntry} {e : CacheEntry}
    (h : e ∈ withoutOldest entries) : e ∈ entries := by
  unfold withoutOldest at h
  split at h
  · exact h
  · exact (List.mem_filter.mp h).1

theorem IsStamped.request (h : IsStamped source stamp c) {other : String} (hne : other ≠ source) :
    IsStamped source stamp (c.request other).2 := by
  intro e he hes
  cases hfound : c.find? other with
  | some found =>
    rw [request_hit hfound] at he
    obtain ⟨x, hx, hsource, hcompiled, -⟩ := mem_touch he
    rw [hcompiled]
    exact h x hx (hsource ▸ hes)
  | none =>
    obtain ⟨new, hsource, -, -, hrequest⟩ := request_miss hfound
    rw [hrequest] at he
    rcases List.mem_cons.mp he with rfl | he
    · exact absurd (hsource.symm.trans hes) hne
    · split at he
      · exact h e (mem_of_mem_withoutOldest he) hes
      · exact h e he hes

theorem IsStamped.run {ops : List Op} (hops : ∀ op ∈ ops, op.source? ≠ some source) :
    ∀ {c : Cache}, IsStamped source stamp c → IsStamped source stamp (c.run ops) := by
  induction ops with
  | nil => exact fun h => h
  | cons op ops ih =>
    intro c h
    refine ih (fun op hop => hops op (List.mem_cons_of_mem _ hop)) ?_
    have hop := hops op List.mem_cons_self
    cases op with
    | compile other => exact h.request fun heq => hop (congrArg some heq)
    | isMatch other text => exact h.request fun heq => hop (congrArg some heq)
    | clear => exact fun e he => absurd he List.not_mem_nil

theorem Tracks.request_isStamped {recent : List String} {row : List CacheEntry}
    (h : Tracks c recent row) (source : String) :
    IsStamped source (c.request source).1.compiled (c.request source).2 := by
  intro e he hes
  cases hfound : c.find? source with
  | some found =>
    obtain ⟨hmem, hsource⟩ := mem_of_find? hfound
    rw [request_hit hfound] at he ⊢
    obtain ⟨x, hx, hxs, hcompiled, -⟩ := mem_touch he
    have hnodup : (c.entries.map (·.source)).Nodup := (h.perm.map _).nodup_iff.mpr h.sources_nodup
    rw [hcompiled, List.inj_on_of_nodup_map hnodup hx hmem (hxs.symm.trans (hes.trans hsource.symm))]
  | none =>
    obtain ⟨new, hsource, -, -, hrequest⟩ := request_miss hfound
    rw [hrequest] at he ⊢
    have hnone : ∀ x ∈ c.entries, x.source ≠ source := by simpa [find?] using hfound
    rcases List.mem_cons.mp he with rfl | he
    · rfl
    · split at he
      · exact absurd hes (hnone e (mem_of_mem_withoutOldest he))
      · exact absurd hes (hnone e he)

theorem Tracks.request_compiled_le {recent : List String} {row : List CacheEntry}
    (h : Tracks c recent row) (source : String) :
    (c.request source).1.compiled ≤ (c.request source).2.requests := by
  cases hfound : c.find? source with
  | some found =>
    rw [request_hit hfound]
    exact Nat.le_succ_of_le (h.compiled found (mem_of_find? hfound).1)
  | none =>
    obtain ⟨new, -, hcompiled, -, hrequest⟩ := request_miss hfound
    rw [hrequest]
    exact Nat.le_of_eq hcompiled

theorem IsStamped.request_eq_iff (h : IsStamped source stamp c) (hstamp : stamp ≤ c.requests) :
    (c.request source).1.compiled = stamp ↔ (c.find? source).isSome := by
  cases hfound : c.find? source with
  | some found =>
    obtain ⟨hmem, hsource⟩ := mem_of_find? hfound
    simp [request_hit hfound, h found hmem hsource]
  | none =>
    obtain ⟨new, -, hcompiled, -, hrequest⟩ := request_miss hfound
    rw [hrequest, hcompiled]
    simp only [Option.isSome_none, Bool.false_eq_true, iff_false]
    omega

end

/-- Whatever a cache has gone through, its answers are those of a fresh compilation, it holds the latest
sources, and it returns the object that it returned before exactly if it has not been cleared and fewer
other sources have been asked for since than it has room for. -/
theorem run_keeps_latest (n : Nat) (ops : List Op) :
    let c := (ofSize n).run ops
    let recent := requested [] ops
    (∀ source text, (c.request source).1.regex = compileWhole source ∧
      (c.matchWhole source text).1 = (compileWhole source).any (·.isMatch text)) ∧
    recent.Nodup ∧ (c.entries.map (·.source)).Perm (recent.take (max n 1)) ∧
    ∀ source later, (∀ op ∈ later, op.source? ≠ some source) →
      ((((c.request source).2.run later).request source).1.compiled = (c.request source).1.compiled ↔
        .clear ∉ later ∧ (later.filterMap Op.source?).toFinset.card < max n 1) := by
  intro c recent
  obtain ⟨row, htracks⟩ : ∃ row, Tracks c recent row := (ofSize_tracks n).run ops
  have hcapacity : c.capacity = max n 1 := run_capacity ops (ofSize n)
  refine ⟨fun source text => ?_, htracks.nodup, ?_, fun source later hlater => ?_⟩
  · have hsource : (c.request source).1.source = source := by
      cases hfound : c.find? source with
      | some e => rw [request_hit hfound, (mem_of_find? hfound).2]
      | none =>
        obtain ⟨new, hnew, -, -, hrequest⟩ := request_miss hfound
        rw [hrequest, hnew]
    have hregex := (c.request source).1.sound
    rw [hsource] at hregex
    refine ⟨hregex, ?_⟩
    rw [← hregex]
    rfl
  · rw [← hcapacity, ← htracks.sources]
    exact htracks.perm.map _
  · obtain ⟨_, hfirst⟩ := htracks.request source
    obtain ⟨_, hlast⟩ := hfirst.run later
    have hstamped := (htracks.request_isStamped source).run hlater
    have hle := Nat.le_trans (htracks.request_compiled_le source) (le_run_requests later _)
    rw [hstamped.request_eq_iff hle, hlast.find?_isSome, run_capacity, request_capacity, hcapacity]
    exact mem_take_requested_iff hlater hfirst.nodup _

/-- A cache for two sources: the third one makes the second leave, since the first has been asked for
again. -/
example : requested [] [.compile "a", .compile "b", .isMatch "a" "a", .compile "c"] =
    ["c", "a", "b"] := by decide

end Regex.Cache
end RequestMatching
