import Mathlib.Tactic.Common
import RequestMatching.Proofs.Text.Utf8
import RequestMatching.Xsd.SimpleType

/-!
# Dates with time zones

A time zone is taken off a date by the bytes of the text: a `Z` at its end, or six bytes after ten that
begin with a sign. The cut never falls inside a character. What is taken off is a time zone in its form,
or just any five bytes after the sign.
-/

namespace RequestMatching

namespace Xsd

def bytesOf (cs : List Char) : Bytes :=
  cs.flatMap String.utf8EncodeChar

/-- Where the date ends in the bytes of a text. -/
def dateEnd (bs : Bytes) : Nat :=
  if bs.getLast? = some 'Z'.toUInt8 then bs.length - 1
  else if bs.length = 16 ∧ (bs[10]? = some '+'.toUInt8 ∨ bs[10]? = some '-'.toUInt8) then 10
  else bs.length

def IsSign (c : Char) : Prop :=
  c = '+' ∨ c = '-'

/-- A time zone as it should be written. -/
inductive IsZone : List Char → Prop
  | utc : IsZone ['Z']
  | offset {sign h h' m m' : Char} (hsign : IsSign sign) (hh : h.isDigit = true)
      (hh' : h'.isDigit = true) (hm : m.isDigit = true) (hm' : m'.isDigit = true) :
      IsZone [sign, h, h', ':', m, m']

/-- What is taken for a time zone after a date of ten bytes: a sign and five bytes. -/
def IsLooseZone (date zone : List Char) : Prop :=
  (bytesOf date).length = 10 ∧ ∃ sign rest, IsSign sign ∧ zone = sign :: rest ∧
    (bytesOf rest).length = 5

def IsDate (cs : List Char) : Prop :=
  (CivilTime.ofDateText cs).isOk = true

/-! ## Cuts between bytes -/

theorem bytesOf_eq (cs : List Char) : bytesOf cs = cs.flatMap Utf8.encodeChar := by
  rw [bytesOf, funext Utf8.encodeChar_eq]

theorem bytesOf_nil : bytesOf [] = [] :=
  rfl

theorem bytesOf_cons (c : Char) (cs : List Char) :
    bytesOf (c :: cs) = Utf8.encodeChar c ++ bytesOf cs := by
  rw [bytesOf_eq, bytesOf_eq, List.flatMap_cons]

theorem bytesOf_append (as bs : List Char) : bytesOf (as ++ bs) = bytesOf as ++ bytesOf bs :=
  List.flatMap_append

theorem length_encodeChar_pos (c : Char) : 0 < (Utf8.encodeChar c).length := by
  rw [Utf8.encodeChar_eq]
  exact List.length_pos_iff.mpr String.utf8EncodeChar_ne_nil

theorem byteSize_eq (cs : List Char) : byteSize cs = (bytesOf cs).length := by
  have hfold : ∀ n, cs.foldl (fun n c => n + (Utf8.encodeChar c).length) n =
      n + (bytesOf cs).length := by
    induction cs with
    | nil => exact fun n => rfl
    | cons c cs ih =>
      intro n
      rw [List.foldl_cons, ih, bytesOf_cons, List.length_append, Nat.add_assoc]
  rw [byteSize, hfold, Nat.zero_add]

theorem cutBytes_append (date rest : List Char) :
    cutBytes (bytesOf date).length (date ++ rest) = some (date, rest) := by
  induction date with
  | nil => rw [bytesOf_nil, List.length_nil, List.nil_append, cutBytes]
  | cons c date ih =>
    have hc := length_encodeChar_pos c
    rw [bytesOf_cons, List.length_append]
    obtain ⟨n, hn⟩ := Nat.exists_eq_succ_of_ne_zero
      (Nat.ne_of_gt (Nat.add_pos_left hc (bytesOf date).length))
    rw [hn, List.cons_append, cutBytes, if_pos (by omega)]
    have hrest : n + 1 - (Utf8.encodeChar c).length = (bytesOf date).length := by omega
    rw [hrest, ih]
    rfl

theorem cutBytes_eq_some {n : Nat} {cs date rest : List Char} (h : cutBytes n cs = some (date, rest)) :
    cs = date ++ rest ∧ (bytesOf date).length = n := by
  induction cs generalizing n date with
  | nil =>
    cases n with
    | zero => cases h; exact ⟨rfl, rfl⟩
    | succ n => cases h
  | cons c cs ih =>
    cases n with
    | zero => cases h; exact ⟨rfl, rfl⟩
    | succ n =>
      rw [cutBytes] at h
      dsimp only at h
      split at h
      · rename_i hsize
        obtain ⟨⟨a, b⟩, hab, heq⟩ := Option.map_eq_some_iff.mp h
        cases heq
        obtain ⟨rfl, hlength⟩ := ih hab
        refine ⟨rfl, ?_⟩
        rw [bytesOf_cons, List.length_append, hlength]
        omega
      · cases h

theorem exists_split_of_byte {cs : List Char} {n : Nat} {b : UInt8} (h : (bytesOf cs)[n]? = some b)
    (hb : b.toNat < 0x80) : ∃ date c rest, cs = date ++ c :: rest ∧ c.toNat = b.toNat ∧
      Utf8.encodeChar c = [b] ∧ (bytesOf date).length = n := by
  -- a byte below 128 is never inside a longer character, so the place is between characters
  induction cs generalizing n with
  | nil => cases h
  | cons c cs ih =>
    rw [bytesOf_cons] at h
    rcases Nat.lt_or_ge n (Utf8.encodeChar c).length with hn | hn
    · rw [List.getElem?_append_left hn] at h
      obtain ⟨hbytes, hc⟩ := Utf8.eq_of_mem_encodeChar (List.mem_of_getElem? h) hb
      refine ⟨[], c, cs, rfl, hc, hbytes, ?_⟩
      rw [hbytes] at hn
      exact (Nat.lt_one_iff.mp hn).symm
    · rw [List.getElem?_append_right hn] at h
      obtain ⟨date, d, rest, rfl, hd, hbytes, hlength⟩ := ih h
      refine ⟨c :: date, d, rest, rfl, hd, hbytes, ?_⟩
      rw [bytesOf_cons, List.length_append, hlength]
      omega

/-! ## Taking a time zone off -/

theorem IsSign.encodeChar_length {c : Char} (h : IsSign c) : (Utf8.encodeChar c).length = 1 := by
  rcases h with rfl | rfl <;> rfl

theorem length_bytesOf_loose {date zone : List Char} (h : IsLooseZone date zone) :
    (bytesOf (date ++ zone)).length = 16 := by
  obtain ⟨hdate, sign, rest, hsign, rfl, hrest⟩ := h
  rw [bytesOf_append, bytesOf_cons, List.length_append, List.length_append, hdate, hrest,
    hsign.encodeChar_length]

theorem withoutZone_utc (date : List Char) : withoutZone (date ++ ['Z']) = date := by
  simp [withoutZone]

theorem withoutZone_loose {date zone : List Char} (h : IsLooseZone date zone)
    (hlast : (date ++ zone).getLast? ≠ some 'Z') : withoutZone (date ++ zone) = date := by
  have hsize := length_bytesOf_loose h
  obtain ⟨hdate, sign, rest, hsign, rfl, -⟩ := h
  have hcut := cutBytes_append date (sign :: rest)
  rw [hdate] at hcut
  rw [withoutZone, if_neg hlast, byteSize_eq, if_pos hsize, hcut]
  rcases hsign with rfl | rfl <;> rfl

theorem withoutZone_of_neither {cs : List Char} (hlast : cs.getLast? ≠ some 'Z')
    (hloose : ∀ date zone, cs = date ++ zone → ¬ IsLooseZone date zone) : withoutZone cs = cs := by
  rw [withoutZone, if_neg hlast, byteSize_eq]
  split
  · rename_i hsize
    split
    · rename_i date c rest hcut
      obtain ⟨rfl, hdate⟩ := cutBytes_eq_some hcut
      refine if_neg fun hc => ?_
      have hsign : IsSign c := by simpa [IsSign] using hc
      rw [bytesOf_append, bytesOf_cons, List.length_append, List.length_append, hdate,
        hsign.encodeChar_length] at hsize
      exact hloose date (c :: rest) rfl ⟨hdate, c, rest, hsign, rfl, by omega⟩
    · rfl
  · rfl

theorem withoutZone_cases (cs : List Char) :
    (∃ date, cs = date ++ ['Z'] ∧ withoutZone cs = date) ∨
    (cs.getLast? ≠ some 'Z' ∧ ∃ date zone, cs = date ++ zone ∧ IsLooseZone date zone ∧
      withoutZone cs = date) ∨
    cs.getLast? ≠ some 'Z' ∧ (∀ date zone, cs = date ++ zone → ¬ IsLooseZone date zone) ∧
      withoutZone cs = cs := by
  by_cases hlast : cs.getLast? = some 'Z'
  · obtain ⟨date, rfl⟩ := List.getLast?_eq_some_iff.mp hlast
    exact .inl ⟨date, rfl, withoutZone_utc date⟩
  by_cases hloose : ∃ date zone, cs = date ++ zone ∧ IsLooseZone date zone
  · obtain ⟨date, zone, rfl, h⟩ := hloose
    exact .inr (.inl ⟨hlast, date, zone, rfl, h, withoutZone_loose h hlast⟩)
  · have hneither : ∀ date zone, cs = date ++ zone → ¬ IsLooseZone date zone :=
      fun date zone hcs h => hloose ⟨date, zone, hcs, h⟩
    exact .inr (.inr ⟨hlast, hneither, withoutZone_of_neither hlast hneither⟩)

theorem withoutZone_begins (cs : List Char) : withoutZone cs <+: cs := by
  obtain ⟨date, rfl, h⟩ | ⟨-, date, zone, rfl, -, h⟩ | ⟨-, -, h⟩ := withoutZone_cases cs
  · rw [h]
    exact List.prefix_append _ _
  · rw [h]
    exact List.prefix_append _ _
  · simp only [h, List.prefix_rfl]

/-! ## The same by bytes -/

theorem eq_of_toNat_eq {c d : Char} (h : c.toNat = d.toNat) : c = d := by
  rw [← Char.ofNat_toNat c, h, Char.ofNat_toNat]

theorem getLast?_of_bytesOf {cs : List Char} {b : UInt8} (h : (bytesOf cs).getLast? = some b)
    (hb : b.toNat < 0x80) : ∃ c, cs.getLast? = some c ∧ c.toNat = b.toNat := by
  rcases List.eq_nil_or_concat cs with rfl | ⟨date, c, rfl⟩
  · cases h
  · have hc := List.length_pos_iff.mp (length_encodeChar_pos c)
    rw [List.concat_eq_append, bytesOf_append, bytesOf_cons, bytesOf_nil, List.append_nil,
      List.getLast?_append, List.getLast?_eq_some_getLast hc, Option.some_or] at h
    have hmem : b ∈ Utf8.encodeChar c := Option.some.inj h ▸ List.getLast_mem hc
    exact ⟨c, by simp, (Utf8.eq_of_mem_encodeChar hmem hb).2⟩

theorem exists_loose_of_byte {cs : List Char} (hsize : (bytesOf cs).length = 16)
    (hbyte : (bytesOf cs)[10]? = some '+'.toUInt8 ∨ (bytesOf cs)[10]? = some '-'.toUInt8) :
    ∃ date zone, cs = date ++ zone ∧ IsLooseZone date zone := by
  obtain ⟨b, hb, hascii, hchar⟩ : ∃ b, (bytesOf cs)[10]? = some b ∧ b.toNat < 0x80 ∧
      ∀ c : Char, c.toNat = b.toNat → IsSign c := by
    rcases hbyte with hbyte | hbyte
    · exact ⟨_, hbyte, by decide, fun c hc => .inl (eq_of_toNat_eq hc)⟩
    · exact ⟨_, hbyte, by decide, fun c hc => .inr (eq_of_toNat_eq hc)⟩
  obtain ⟨date, c, rest, rfl, hc, hbytes, hdate⟩ := exists_split_of_byte hb hascii
  rw [bytesOf_append, bytesOf_cons, hbytes, List.length_append, hdate] at hsize
  have hrest : (bytesOf rest).length = 5 := by
    simp only [List.length_append, List.length_singleton] at hsize
    omega
  exact ⟨date, c :: rest, rfl, hdate, c, rest, hchar c hc, rfl, hrest⟩

theorem bytesOf_withoutZone (cs : List Char) :
    bytesOf (withoutZone cs) = (bytesOf cs).take (dateEnd (bytesOf cs)) := by
  have hz : (bytesOf cs).getLast? = some 'Z'.toUInt8 → cs.getLast? = some 'Z' := by
    intro h
    obtain ⟨c, hc, hbyte⟩ := getLast?_of_bytesOf h (by decide)
    rw [hc, eq_of_toNat_eq (d := 'Z') hbyte]
  obtain ⟨date, rfl, h⟩ | ⟨hlast, date, zone, rfl, hloose, h⟩ | ⟨hlast, hneither, h⟩ :=
    withoutZone_cases cs
  · have hbytes : bytesOf (date ++ ['Z']) = bytesOf date ++ ['Z'.toUInt8] := bytesOf_append _ _
    rw [h, dateEnd, hbytes, if_pos (List.getLast?_concat ..)]
    simp
  · have hsize := length_bytesOf_loose hloose
    obtain ⟨hdate, sign, rest, hsign, rfl, -⟩ := hloose
    have hbyte : (bytesOf (date ++ sign :: rest))[10]? = some '+'.toUInt8 ∨
        (bytesOf (date ++ sign :: rest))[10]? = some '-'.toUInt8 := by
      rw [bytesOf_append, List.getElem?_append_right (by omega), hdate, bytesOf_cons]
      rcases hsign with rfl | rfl
      · exact .inl rfl
      · exact .inr rfl
    rw [h, dateEnd, if_neg (mt hz hlast), if_pos ⟨hsize, hbyte⟩, bytesOf_append]
    exact (List.take_left' hdate).symm
  · have hend : ¬ ((bytesOf cs).length = 16 ∧ ((bytesOf cs)[10]? = some '+'.toUInt8 ∨
        (bytesOf cs)[10]? = some '-'.toUInt8)) := fun hloose => by
      obtain ⟨date, zone, hcs, h⟩ := exists_loose_of_byte hloose.1 hloose.2
      exact hneither date zone hcs h
    rw [h, dateEnd, if_neg (mt hz hlast), if_neg hend, List.take_length]

/-! ## What is accepted as a date -/

theorem check_date_eq (cs : List Char) : BuiltIn.check .date cs = true ↔ IsDate (withoutZone cs) :=
  Iff.rfl

theorem encodeChar_of_isDigit {c : Char} (h : c.isDigit = true) :
    (Utf8.encodeChar c).length = 1 := by
  have hc : c.toNat ≤ '9'.toNat := by
    rw [Char.isDigit, Bool.and_eq_true, decide_eq_true_eq, decide_eq_true_eq] at h
    exact h.2
  rw [Utf8.encodeChar_one (Nat.lt_of_le_of_lt hc (by decide)), List.length_singleton]

theorem IsZone.cases {zone : List Char} (h : IsZone zone) :
    zone = ['Z'] ∨ zone.getLast? ≠ some 'Z' ∧
      ∃ sign rest, IsSign sign ∧ zone = sign :: rest ∧ (bytesOf rest).length = 5 := by
  cases h with
  | utc => exact .inl rfl
  | @offset sign a b c d hsign ha hb hc hd =>
    refine .inr ⟨?_, sign, _, hsign, rfl, ?_⟩
    · rintro h
      cases Option.some.inj h
      cases hd
    · have hcolon : (Utf8.encodeChar ':').length = 1 := rfl
      simp only [bytesOf_cons, bytesOf_nil, List.length_append, List.length_nil, hcolon,
        encodeChar_of_isDigit ha, encodeChar_of_isDigit hb, encodeChar_of_isDigit hc,
        encodeChar_of_isDigit hd]

/-- The cut that takes a time zone off falls between characters. What stands behind the date of a text
that is accepted is nothing, a time zone in its form, or any five bytes after the sign that comes after
ten; and each date may have a `Z` behind it, each one of ten bytes any time zone. -/
theorem check_date_ends (cs : List Char) :
    (withoutZone cs <+: cs ∧
      bytesOf (withoutZone cs) = (bytesOf cs).take (dateEnd (bytesOf cs))) ∧
    (BuiltIn.check .date cs = true → ∃ date zone, cs = date ++ zone ∧ IsDate date ∧
      (zone = [] ∨ IsZone zone ∨ IsLooseZone date zone)) ∧
    ∀ date zone, cs = date ++ zone → IsDate date → IsZone zone →
      (zone = ['Z'] ∨ (bytesOf date).length = 10) → BuiltIn.check .date cs = true := by
  refine ⟨⟨withoutZone_begins cs, bytesOf_withoutZone cs⟩, fun h => ?_, ?_⟩
  · rw [check_date_eq] at h
    obtain ⟨date, rfl, hdate⟩ | ⟨-, date, zone, rfl, hloose, hdate⟩ | ⟨-, -, hdate⟩ :=
      withoutZone_cases cs
    · exact ⟨date, ['Z'], rfl, hdate ▸ h, .inr (.inl .utc)⟩
    · exact ⟨date, zone, rfl, hdate ▸ h, .inr (.inr hloose)⟩
    · exact ⟨cs, [], (List.append_nil cs).symm, hdate ▸ h, .inl rfl⟩
  · rintro date zone rfl hdate hzone hsize
    rw [check_date_eq]
    rcases hzone.cases with rfl | ⟨hlast, sign, rest, hsign, rfl, hrest⟩
    · rwa [withoutZone_utc]
    · have hten : (bytesOf date).length = 10 := hsize.resolve_left fun hz => by
        cases hz
        exact absurd rfl hlast
      have hend : (date ++ sign :: rest).getLast? ≠ some 'Z' := by
        rwa [List.getLast?_append, List.getLast?_cons, Option.some_or, ← List.getLast?_cons]
      rwa [withoutZone_loose ⟨hten, sign, rest, hsign, rfl, hrest⟩ hend]

/-- Five bytes that are no time zone are taken for one. -/
theorem not_check_date_ends : ¬ ∀ cs, BuiltIn.check .date cs = true → ∃ date zone,
    cs = date ++ zone ∧ IsDate date ∧ (zone = [] ∨ IsZone zone) := by
  intro h
  have haccepted : BuiltIn.check .date "2024-01-01+ab:cd".toList = true := by decide +kernel
  obtain ⟨date, zone, heq, hdate, hnil | hzone⟩ := h _ haccepted
  · rw [hnil, List.append_nil] at heq
    have hnone : ¬ IsDate "2024-01-01+ab:cd".toList := by unfold IsDate; decide +kernel
    exact hnone (heq ▸ hdate)
  · have hsplit : "2024-01-01+ab:cd".toList = "2024-01-01".toList ++ "+ab:cd".toList := by decide
    cases hzone with
    | utc =>
      have hlast := congrArg List.getLast? heq
      rw [List.getLast?_concat] at hlast
      exact absurd hlast (by decide)
    | offset _ hdigit =>
      have hzone := (List.append_inj' (hsplit.symm.trans heq) rfl).2
      cases hzone
      cases hdigit

end Xsd
end RequestMatching
