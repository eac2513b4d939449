import Mathlib.Tactic.Common
import RequestMatching.Text.Utf8

/-!
# Texts and their bytes

The bytes of a character are those that core gives it. Reading them gives the character back, whatever
bytes come after; bytes are the bytes of a text exactly if they are read without a malformed stretch, so
a text is read from its own bytes only.
-/

namespace RequestMatching

namespace Utf8

/-! ## The bytes of a character -/

section
variable {c : Char}

theorem toNat_lt (c : Char) : c.toNat < 0x110000 := by
  rcases c.valid with h | h
  · exact Nat.lt_trans h (by decide)
  · exact h.2

theorem not_surrogate (c : Char) : c.toNat < 0xD800 ∨ 0xDFFF < c.toNat := by
  rcases c.valid with h | h
  · exact .inl h
  · exact .inr h.1

theorem encodeChar_one (h : c.toNat < 0x80) : encodeChar c = [.ofNat c.toNat] := by
  simp [encodeChar, h]

theorem encodeChar_two (h : 0x80 ≤ c.toNat) (h' : c.toNat < 0x800) :
    encodeChar c = [.ofNat (0xC0 + c.toNat / 64), .ofNat (0x80 + c.toNat % 64)] := by
  simp only [encodeChar, if_neg (Nat.not_lt.mpr h), if_pos h', Nat.div_one]

theorem encodeChar_three (h : 0x800 ≤ c.toNat) (h' : c.toNat < 0x10000) :
    encodeChar c = [.ofNat (0xE0 + c.toNat / 4096), .ofNat (0x80 + c.toNat / 64 % 64),
      .ofNat (0x80 + c.toNat % 64)] := by
  have h1 : ¬ c.toNat < 0x80 := by omega
  simp only [encodeChar, if_neg h1, if_neg (Nat.not_lt.mpr h), if_pos h', Nat.div_one]

theorem encodeChar_four (h : 0x10000 ≤ c.toNat) :
    encodeChar c = [.ofNat (0xF0 + c.toNat / 262144), .ofNat (0x80 + c.toNat / 4096 % 64),
      .ofNat (0x80 + c.toNat / 64 % 64), .ofNat (0x80 + c.toNat % 64)] := by
  have h1 : ¬ c.toNat < 0x80 := by omega
  have h2 : ¬ c.toNat < 0x800 := by omega
  simp only [encodeChar, if_neg h1, if_neg h2, if_neg (Nat.not_lt.mpr h), Nat.div_one]

theorem byte_congr {m n : Nat} (h : m = n) : UInt8.ofNat m = UInt8.ofNat n :=
  congrArg UInt8.ofNat h

theorem encodeChar_eq (c : Char) : encodeChar c = String.utf8EncodeChar c := by
  have hc := toNat_lt c
  unfold String.utf8EncodeChar
  change encodeChar c = if c.toNat ≤ 127 then [.ofNat c.toNat]
    else if c.toNat ≤ 2047 then [.ofNat (c.toNat / 64 % 32 + 192), .ofNat (c.toNat % 64 + 128)]
    else if c.toNat ≤ 65535 then [.ofNat (c.toNat / 4096 % 16 + 224), .ofNat (c.toNat / 64 % 64 + 128),
      .ofNat (c.toNat % 64 + 128)]
    else [.ofNat (c.toNat / 262144 % 8 + 240), .ofNat (c.toNat / 4096 % 64 + 128),
      .ofNat (c.toNat / 64 % 64 + 128), .ofNat (c.toNat % 64 + 128)]
  split
  · exact encodeChar_one (by omega)
  split
  · rw [encodeChar_two (by omega) (by omega), List.cons.injEq, List.cons.injEq]
    exact ⟨byte_congr (by omega), byte_congr (by omega), rfl⟩
  split
  · rw [encodeChar_three (by omega) (by omega), List.cons.injEq, List.cons.injEq, List.cons.injEq]
    exact ⟨byte_congr (by omega), byte_congr (by omega), byte_congr (by omega), rfl⟩
  · rw [encodeChar_four (by omega), List.cons.injEq, List.cons.injEq, List.cons.injEq,
      List.cons.injEq]
    exact ⟨byte_congr (by omega), byte_congr (by omega), byte_congr (by omega), byte_congr (by omega),
      rfl⟩

end

/-! ## Reading the bytes of a character -/

section
variable {b : Nat}

theorem lead?_two (h : 0xC2 ≤ b) (h' : b ≤ 0xDF) : lead? b = some ⟨1, 0x80, 0xBF, b - 0xC0⟩ := by
  simp [lead?, h, h']

theorem lead?_three (h : 0xE0 ≤ b) (h' : b ≤ 0xEF) : lead? b =
    some ⟨2, if b = 0xE0 then 0xA0 else 0x80, if b = 0xED then 0x9F else 0xBF, b - 0xE0⟩ := by
  have hrange : ¬ b ≤ 0xDF := by omega
  by_cases h0 : b = 0xE0
  · simp [lead?, h0]
  by_cases hD : b = 0xED
  · simp [lead?, hD]
  · have h1 : 0xE1 ≤ b := by omega
    simp [lead?, hrange, h0, hD, h1, h']

theorem lead?_four (h : 0xF0 ≤ b) (h' : b ≤ 0xF4) : lead? b =
    some ⟨3, if b = 0xF0 then 0x90 else 0x80, if b = 0xF4 then 0x8F else 0xBF, b - 0xF0⟩ := by
  obtain rfl | rfl | rfl | rfl | rfl : b = 0xF0 ∨ b = 0xF1 ∨ b = 0xF2 ∨ b = 0xF3 ∨ b = 0xF4 := by omega
  all_goals rfl

theorem lead?_eq_none (h : b < 0xC2 ∨ 0xF4 < b) : lead? b = none := by
  unfold lead?
  grind

end

theorem follow_cons_eq_ok_iff {bits k low high n taken : Nat} {b : UInt8} {bs : Bytes} :
    follow bits (k + 1) low high (b :: bs) = .ok (n, taken) ↔
      (low ≤ b.toNat ∧ b.toNat ≤ high) ∧
        ∃ less, follow (bits * 64 + b.toNat % 64) k 0x80 0xBF bs = .ok (n, less) ∧ taken = less + 1 := by
  rw [follow]
  generalize follow (bits * 64 + b.toNat % 64) k 0x80 0xBF bs = rest
  by_cases hb : low ≤ b.toNat ∧ b.toNat ≤ high
  · rw [if_pos (by simpa using hb)]
    cases rest with
    | error e => simp
    | ok p => grind
  · rw [if_neg (by simpa using hb)]
    simp [hb]

theorem follow_eq_ok_iff {bits k low high n taken : Nat} {bs : Bytes} :
    follow bits (k + 1) low high bs = .ok (n, taken) ↔
      ∃ b rest, bs = b :: rest ∧ (low ≤ b.toNat ∧ b.toNat ≤ high) ∧
        ∃ less, follow (bits * 64 + b.toNat % 64) k 0x80 0xBF rest = .ok (n, less) ∧
          taken = less + 1 := by
  cases bs with
  | nil => simp [follow]
  | cons b rest => rw [follow_cons_eq_ok_iff]; grind

theorem follow_zero_eq_ok_iff {bits low high n taken : Nat} {bs : Bytes} :
    follow bits 0 low high bs = .ok (n, taken) ↔ n = bits ∧ taken = 0 := by
  simp [follow, eq_comm]

theorem scan_lead {b : UInt8} {bs : Bytes} {l : Lead} {n t : Nat} (hb : 0x80 ≤ b.toNat)
    (hl : lead? b.toNat = some l) (hbs : follow l.bits l.follow l.low l.high bs = .ok (n, t)) :
    scan 0 (b :: bs) = some (Char.ofNat n) :: scan t bs := by
  rw [scan, if_neg (Nat.not_lt.mpr hb), hl]
  simp only [hbs]

section
variable {a b c d : UInt8} {bs : Bytes}

theorem scan_two (ha : 0xC2 ≤ a.toNat) (ha' : a.toNat ≤ 0xDF)
    (hb : 0x80 ≤ b.toNat ∧ b.toNat ≤ 0xBF) :
    scan 0 (a :: b :: bs) =
      some (Char.ofNat ((a.toNat - 0xC0) * 64 + b.toNat % 64)) :: scan 0 bs := by
  refine scan_lead (t := 1) (by omega) (lead?_two ha ha') ?_
  exact follow_cons_eq_ok_iff.mpr ⟨hb, 0, rfl, rfl⟩

theorem scan_three (ha : 0xE0 ≤ a.toNat) (ha' : a.toNat ≤ 0xEF)
    (hb : (if a.toNat = 0xE0 then 0xA0 else 0x80) ≤ b.toNat ∧
      b.toNat ≤ if a.toNat = 0xED then 0x9F else 0xBF)
    (hc : 0x80 ≤ c.toNat ∧ c.toNat ≤ 0xBF) :
    scan 0 (a :: b :: c :: bs) =
      some (Char.ofNat (((a.toNat - 0xE0) * 64 + b.toNat % 64) * 64 + c.toNat % 64)) :: scan 0 bs := by
  refine scan_lead (t := 2) (by omega) (lead?_three ha ha') ?_
  exact follow_cons_eq_ok_iff.mpr ⟨hb, 1, follow_cons_eq_ok_iff.mpr ⟨hc, 0, rfl, rfl⟩, rfl⟩

theorem scan_four (ha : 0xF0 ≤ a.toNat) (ha' : a.toNat ≤ 0xF4)
    (hb : (if a.toNat = 0xF0 then 0x90 else 0x80) ≤ b.toNat ∧
      b.toNat ≤ if a.toNat = 0xF4 then 0x8F else 0xBF)
    (hc : 0x80 ≤ c.toNat ∧ c.toNat ≤ 0xBF) (hd : 0x80 ≤ d.toNat ∧ d.toNat ≤ 0xBF) :
    scan 0 (a :: b :: c :: d :: bs) =
      some (Char.ofNat ((((a.toNat - 0xF0) * 64 + b.toNat % 64) * 64 + c.toNat % 64) * 64 +
        d.toNat % 64)) :: scan 0 bs := by
  refine scan_lead (t := 3) (by omega) (lead?_four ha ha') ?_
  exact follow_cons_eq_ok_iff.mpr ⟨hb, 2, follow_cons_eq_ok_iff.mpr ⟨hc, 1,
    follow_cons_eq_ok_iff.mpr ⟨hd, 0, rfl, rfl⟩, rfl⟩, rfl⟩

end

theorem toNat_byte {n : Nat} (h : n < 256) : (UInt8.ofNat n).toNat = n := by
  rw [UInt8.toNat_ofNat']
  exact Nat.mod_eq_of_lt h

theorem scan_encodeChar (c : Char) (bs : Bytes) :
    scan 0 (encodeChar c ++ bs) = some c :: scan 0 bs := by
  have hc := toNat_lt c
  have hs := not_surrogate c
  have hchar : Char.ofNat c.toNat = c := Char.ofNat_toNat c
  -- one case for each number of bytes
  generalize hn : c.toNat = n at hc hs hchar
  by_cases h1 : n < 0x80
  · rw [encodeChar_one (by omega), hn, List.cons_append, scan, toNat_byte (by omega), if_pos h1, hchar]
    rfl
  by_cases h2 : n < 0x800
  · have ha : (UInt8.ofNat (0xC0 + n / 64)).toNat = 0xC0 + n / 64 := toNat_byte (by omega)
    have hb : (UInt8.ofNat (0x80 + n % 64)).toNat = 0x80 + n % 64 := toNat_byte (by omega)
    rw [encodeChar_two (by omega) (by omega), hn]
    refine (scan_two (by omega) (by omega) (by omega)).trans ?_
    rw [ha, hb, ← hchar]
    congr 4
    omega
  by_cases h3 : n < 0x10000
  · have ha : (UInt8.ofNat (0xE0 + n / 4096)).toNat = 0xE0 + n / 4096 := toNat_byte (by omega)
    have hb : (UInt8.ofNat (0x80 + n / 64 % 64)).toNat = 0x80 + n / 64 % 64 := toNat_byte (by omega)
    have hb' : (UInt8.ofNat (0x80 + n % 64)).toNat = 0x80 + n % 64 := toNat_byte (by omega)
    rw [encodeChar_three (by omega) (by omega), hn]
    refine (scan_three (by omega) (by omega) ?_ (by omega)).trans ?_
    · rw [ha, hb]
      constructor <;> split <;> omega
    rw [ha, hb, hb', ← hchar]
    congr 4
    omega
  · have ha : (UInt8.ofNat (0xF0 + n / 262144)).toNat = 0xF0 + n / 262144 := toNat_byte (by omega)
    have hb : (UInt8.ofNat (0x80 + n / 4096 % 64)).toNat = 0x80 + n / 4096 % 64 :=
      toNat_byte (by omega)
    have hb' : (UInt8.ofNat (0x80 + n / 64 % 64)).toNat = 0x80 + n / 64 % 64 := toNat_byte (by omega)
    have hd : (UInt8.ofNat (0x80 + n % 64)).toNat = 0x80 + n % 64 := toNat_byte (by omega)
    rw [encodeChar_four (by omega), hn]
    refine (scan_four (by omega) (by omega) ?_ (by omega) (by omega)).trans ?_
    · rw [ha, hb]
      constructor <;> split <;> omega
    rw [ha, hb, hb', hd, ← hchar]
    congr 4
    omega

theorem le_of_mem_encodeChar {c : Char} (hc : 0x80 ≤ c.toNat) :
    ∀ b ∈ encodeChar c, 0x80 ≤ b.toNat := by
  have hlt := toNat_lt c
  have hbyte : ∀ {n : Nat}, 0x80 ≤ n → n < 256 → 0x80 ≤ (UInt8.ofNat n).toNat := fun hn hn' =>
    (toNat_byte hn').symm ▸ hn
  by_cases h2 : c.toNat < 0x800
  · rw [encodeChar_two hc h2]
    simp only [List.forall_mem_cons]
    exact ⟨hbyte (by omega) (by omega), hbyte (by omega) (by omega), nofun⟩
  by_cases h3 : c.toNat < 0x10000
  · rw [encodeChar_three (by omega) h3]
    simp only [List.forall_mem_cons]
    exact ⟨hbyte (by omega) (by omega), hbyte (by omega) (by omega), hbyte (by omega) (by omega), nofun⟩
  · rw [encodeChar_four (by omega)]
    simp only [List.forall_mem_cons]
    exact ⟨hbyte (by omega) (by omega), hbyte (by omega) (by omega), hbyte (by omega) (by omega),
      hbyte (by omega) (by omega), nofun⟩

theorem eq_of_mem_encodeChar {c : Char} {b : UInt8} (h : b ∈ encodeChar c) (hb : b.toNat < 0x80) :
    encodeChar c = [b] ∧ c.toNat = b.toNat := by
  have hc : c.toNat < 0x80 := by
    by_contra hc
    have := le_of_mem_encodeChar (by omega) b h
    omega
  rw [encodeChar_one hc, List.mem_singleton] at h
  rw [encodeChar_one hc, h, toNat_byte (by omega)]
  exact ⟨rfl, rfl⟩

/-! ## Bytes that are a text -/

theorem toNat_ofNat {n : Nat} (h : n.isValidChar) : (Char.ofNat n).toNat = n := by
  rw [Char.ofNat, dif_pos h]
  rfl

theorem byte_eq {n : Nat} {b : UInt8} (h : n = b.toNat) : UInt8.ofNat n = b := by
  subst h
  exact UInt8.ofNat_toNat

section
variable {a b c d : UInt8}

theorem encodeChar_ofNat_one (ha : a.toNat < 0x80) : encodeChar (Char.ofNat a.toNat) = [a] := by
  have hn : (Char.ofNat a.toNat).toNat = a.toNat := toNat_ofNat (.inl (by omega))
  rw [encodeChar_one (by omega), byte_eq hn]

theorem encodeChar_ofNat_two (ha : 0xC2 ≤ a.toNat) (ha' : a.toNat ≤ 0xDF)
    (hb : 0x80 ≤ b.toNat ∧ b.toNat ≤ 0xBF) :
    encodeChar (Char.ofNat ((a.toNat - 0xC0) * 64 + b.toNat % 64)) = [a, b] := by
  generalize hm : (a.toNat - 0xC0) * 64 + b.toNat % 64 = m
  have hn : (Char.ofNat m).toNat = m := toNat_ofNat (.inl (by omega))
  rw [encodeChar_two (by omega) (by omega), hn, byte_eq (b := a) (by omega),
    byte_eq (b := b) (by omega)]

theorem encodeChar_ofNat_three (ha : 0xE0 ≤ a.toNat) (ha' : a.toNat ≤ 0xEF)
    (hb : (if a.toNat = 0xE0 then 0xA0 else 0x80) ≤ b.toNat ∧
      b.toNat ≤ if a.toNat = 0xED then 0x9F else 0xBF)
    (hc : 0x80 ≤ c.toNat ∧ c.toNat ≤ 0xBF) :
    encodeChar (Char.ofNat (((a.toNat - 0xE0) * 64 + b.toNat % 64) * 64 + c.toNat % 64)) =
      [a, b, c] := by
  -- the narrower second byte keeps the number clear of shorter forms and of surrogates
  have hb' : 0x80 ≤ b.toNat ∧ b.toNat ≤ 0xBF ∧ (a.toNat = 0xE0 → 0xA0 ≤ b.toNat) ∧
      (a.toNat = 0xED → b.toNat ≤ 0x9F) := by grind
  generalize hm : ((a.toNat - 0xE0) * 64 + b.toNat % 64) * 64 + c.toNat % 64 = m
  have hn : (Char.ofNat m).toNat = m := toNat_ofNat (by unfold Nat.isValidChar; omega)
  rw [encodeChar_three (by omega) (by omega), hn, byte_eq (b := a) (by omega),
    byte_eq (b := b) (by omega), byte_eq (b := c) (by omega)]

theorem encodeChar_ofNat_four (ha : 0xF0 ≤ a.toNat) (ha' : a.toNat ≤ 0xF4)
    (hb : (if a.toNat = 0xF0 then 0x90 else 0x80) ≤ b.toNat ∧
      b.toNat ≤ if a.toNat = 0xF4 then 0x8F else 0xBF)
    (hc : 0x80 ≤ c.toNat ∧ c.toNat ≤ 0xBF) (hd : 0x80 ≤ d.toNat ∧ d.toNat ≤ 0xBF) :
    encodeChar (Char.ofNat ((((a.toNat - 0xF0) * 64 + b.toNat % 64) * 64 + c.toNat % 64) * 64 +
      d.toNat % 64)) = [a, b, c, d] := by
  -- here it also keeps the number below the end of the characters
  have hb' : 0x80 ≤ b.toNat ∧ b.toNat ≤ 0xBF ∧ (a.toNat = 0xF0 → 0x90 ≤ b.toNat) ∧
      (a.toNat = 0xF4 → b.toNat ≤ 0x8F) := by grind
  generalize hm : (((a.toNat - 0xF0) * 64 + b.toNat % 64) * 64 + c.toNat % 64) * 64 + d.toNat % 64 = m
  have hn : (Char.ofNat m).toNat = m := toNat_ofNat (by unfold Nat.isValidChar; omega)
  rw [encodeChar_four (by omega), hn, byte_eq (b := a) (by omega), byte_eq (b := b) (by omega),
    byte_eq (b := c) (by omega), byte_eq (b := d) (by omega)]

end

theorem follow_of_scan {b : UInt8} {bs : Bytes} {c : Char} {l : Lead} {more : List (Option Char)}
    (hb : 0x80 ≤ b.toNat) (hl : lead? b.toNat = some l) (h : scan 0 (b :: bs) = some c :: more) :
    ∃ n taken, follow l.bits l.follow l.low l.high bs = .ok (n, taken) ∧ c = Char.ofNat n := by
  rw [scan, if_neg (Nat.not_lt.mpr hb), hl] at h
  dsimp only at h
  split at h
  · rename_i n taken hfollow
    exact ⟨n, taken, hfollow, (Option.some.inj (List.cons.inj h).1).symm⟩
  · cases (List.cons.inj h).1

theorem encodeChar_of_scan {b : UInt8} {c : Char} {bs : Bytes} {more : List (Option Char)}
    (h : scan 0 (b :: bs) = some c :: more) : ∃ rest, b :: bs = encodeChar c ++ rest := by
  by_cases h1 : b.toNat < 0x80
  · rw [scan, if_pos h1] at h
    cases (List.cons.inj h).1
    exact ⟨bs, by rw [encodeChar_ofNat_one h1]; rfl⟩
  by_cases hlead : b.toNat < 0xC2 ∨ 0xF4 < b.toNat
  · rw [scan, if_neg h1, lead?_eq_none hlead] at h
    cases (List.cons.inj h).1
  by_cases h2 : b.toNat ≤ 0xDF
  · obtain ⟨n, taken, hn, rfl⟩ := follow_of_scan (by omega) (lead?_two (by omega) h2) h
    obtain ⟨b1, rest, rfl, hb1, _, hn, -⟩ := follow_eq_ok_iff.mp hn
    obtain ⟨rfl, -⟩ := follow_zero_eq_ok_iff.mp hn
    exact ⟨rest, by rw [encodeChar_ofNat_two (by omega) h2 hb1]; rfl⟩
  by_cases h3 : b.toNat ≤ 0xEF
  · obtain ⟨n, taken, hn, rfl⟩ := follow_of_scan (by omega) (lead?_three (by omega) h3) h
    obtain ⟨b1, rest, rfl, hb1, _, hn, -⟩ := follow_eq_ok_iff.mp hn
    obtain ⟨b2, rest, rfl, hb2, _, hn, -⟩ := follow_eq_ok_iff.mp hn
    obtain ⟨rfl, -⟩ := follow_zero_eq_ok_iff.mp hn
    exact ⟨rest, by rw [encodeChar_ofNat_three (by omega) h3 hb1 hb2]; rfl⟩
  · obtain ⟨n, taken, hn, rfl⟩ := follow_of_scan (by omega) (lead?_four (by omega) (by omega)) h
    obtain ⟨b1, rest, rfl, hb1, _, hn, -⟩ := follow_eq_ok_iff.mp hn
    obtain ⟨b2, rest, rfl, hb2, _, hn, -⟩ := follow_eq_ok_iff.mp hn
    obtain ⟨b3, rest, rfl, hb3, _, hn, -⟩ := follow_eq_ok_iff.mp hn
    obtain ⟨rfl, -⟩ := follow_zero_eq_ok_iff.mp hn
    exact ⟨rest, by rw [encodeChar_ofNat_four (by omega) (by omega) hb1 hb2 hb3]; rfl⟩

theorem scan_cons_ne_nil (b : UInt8) (bs : Bytes) : scan 0 (b :: bs) ≠ [] := by
  rw [scan]
  split
  · exact List.cons_ne_nil _ _
  split
  · exact List.cons_ne_nil _ _
  split <;> exact List.cons_ne_nil _ _

theorem scan_eq_map_some_iff {bs : Bytes} {cs : List Char} :
    scan 0 bs = cs.map some ↔ bs = cs.flatMap encodeChar := by
  induction cs generalizing bs with
  | nil =>
    cases bs with
    | nil => exact iff_of_true rfl rfl
    | cons b bs => exact iff_of_false (scan_cons_ne_nil b bs) (List.cons_ne_nil b bs)
  | cons c cs ih =>
    constructor
    · intro h
      cases bs with
      | nil => cases h
      | cons b bs =>
        obtain ⟨rest, hrest⟩ := encodeChar_of_scan h
        rw [hrest, scan_encodeChar, List.map_cons, List.cons.injEq] at h
        rw [hrest, ih.mp h.2, List.flatMap_cons]
    · rintro rfl
      rw [List.flatMap_cons, scan_encodeChar, ih.mpr rfl, List.map_cons]

theorem mapM_id_eq_some_iff {read : List (Option Char)} {cs : List Char} :
    read.mapM id = some cs ↔ read = cs.map some := by
  induction read generalizing cs with
  | nil => cases cs <;> simp
  | cons c read ih =>
    cases c with
    | none => cases cs <;> simp
    | some c => cases cs <;> simp [Option.bind_eq_some_iff, ih, and_comm]

theorem decode?_eq_some_iff {bs : Bytes} {s : String} : decode? bs = some s ↔ bs = encode s := by
  rw [decode?, encode, ← scan_eq_map_some_iff, ← mapM_id_eq_some_iff, Option.map_eq_some_iff]
  constructor
  · rintro ⟨cs, hcs, rfl⟩
    rwa [String.toList_ofList]
  · intro h
    exact ⟨s.toList, h, String.ofList_toList⟩

end Utf8
end RequestMatching
