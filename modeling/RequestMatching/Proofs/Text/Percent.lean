import Mathlib.Data.List.Forall2
import RequestMatching.Proofs.Text.Utf8
import RequestMatching.Text.Percent

/-!
# Bytes in hex

A percent sign with two hex digits stands for a byte, each other character for its own bytes. What is
undone is exactly this.
-/

namespace RequestMatching

def IsHexDigit (n : Nat) (d : Char) : Prop :=
  d = n.digitChar ∨ d = n.digitChar.toUpper

def IsEscape (b : UInt8) (text : List Char) : Prop :=
  ∃ x y, IsHexDigit (b.toNat / 16) x ∧ IsHexDigit (b.toNat % 16) y ∧ text = ['%', x, y]

/-- The bytes that a text stands for. -/
inductive StandsFor : List Char → Bytes → Prop
  | nil : StandsFor [] []
  | escape {b : UInt8} {text cs : List Char} {bs : Bytes} (h : IsEscape b text)
      (hcs : StandsFor cs bs) : StandsFor (text ++ cs) (b :: bs)
  | char {c : Char} {cs : List Char} {bs : Bytes}
      (h : ∀ b text rest, IsEscape b text → c :: cs ≠ text ++ rest) (hcs : StandsFor cs bs) :
      StandsFor (c :: cs) (String.utf8EncodeChar c ++ bs)

theorem hexValue?_of_isHexDigit {n : Nat} {d : Char} (hn : n < 16) (h : IsHexDigit n d) :
    hexValue? d = some n := by
  have hdigits : ∀ n < 16, hexValue? n.digitChar = some n ∧ hexValue? n.digitChar.toUpper = some n := by
    decide
  rcases h with rfl | rfl
  · exact (hdigits n hn).1
  · exact (hdigits n hn).2

theorem isHexDigit_of_hexValue? {n : Nat} {d : Char} (h : hexValue? d = some n) :
    n < 16 ∧ IsHexDigit n d := by
  have hdigits : ∀ k < 128, (hexValue? (Char.ofNat k)).all fun n =>
      n < 16 && (Char.ofNat k == n.digitChar || Char.ofNat k == n.digitChar.toUpper) := by decide
  by_cases hd : d.toNat < 128
  · have hall := hdigits d.toNat hd
    rw [Char.ofNat_toNat, h] at hall
    simpa [IsHexDigit] using hall
  · have hbeyond : ∀ e : Char, e.toNat < 128 → ¬ d ≤ e := fun e he hle =>
      hd (Nat.lt_of_le_of_lt (UInt32.le_iff_toNat_le.mp hle) he)
    simp [hexValue?, hbeyond] at h

theorem notMem_of_isEscape {b : UInt8} {text : List Char} {mark : Char} (h : IsEscape b text)
    (hmark : mark ≠ '%') (hvalue : hexValue? mark = none) : mark ∉ text := by
  obtain ⟨x, y, hx, hy, rfl⟩ := h
  have hb := b.toNat_lt
  have hne : ∀ {n d}, n < 16 → IsHexDigit n d → mark ≠ d := by
    rintro n d hn hd rfl
    rw [hexValue?_of_isHexDigit hn hd] at hvalue
    cases hvalue
  simp [hmark, hne (by omega) hx, hne (by omega) hy]

theorem notMem_of_escapes {bs : Bytes} {parts : List (List Char)} {mark : Char}
    (h : List.Forall₂ IsEscape bs parts) (hmark : mark ≠ '%') (hvalue : hexValue? mark = none) :
    mark ∉ parts.flatten := by
  induction h with
  | nil => exact List.not_mem_nil
  | cons hb _ ih =>
    rw [List.flatten_cons, List.mem_append, not_or]
    exact ⟨notMem_of_isEscape hb hmark hvalue, ih⟩

namespace Percent

theorem bytes_escape {b : UInt8} {text : List Char} (h : IsEscape b text) (rest : List Char) :
    bytes (text ++ rest) = b :: bytes rest := by
  obtain ⟨x, y, hx, hy, rfl⟩ := h
  have hb := b.toNat_lt
  have hbyte : b.toNat / 16 * 16 + b.toNat % 16 = b.toNat := Nat.div_add_mod' b.toNat 16
  simp only [List.cons_append, List.nil_append, bytes, hexValue?_of_isHexDigit (by omega) hx,
    hexValue?_of_isHexDigit (by omega) hy, hbyte, UInt8.ofNat_toNat]

theorem isEscape_of_hexValue? {x y : Char} {m n : Nat} (hx : hexValue? x = some m)
    (hy : hexValue? y = some n) : IsEscape (UInt8.ofNat (m * 16 + n)) ['%', x, y] := by
  obtain ⟨hm, hx⟩ := isHexDigit_of_hexValue? hx
  obtain ⟨hn, hy⟩ := isHexDigit_of_hexValue? hy
  have hbyte : (UInt8.ofNat (m * 16 + n)).toNat = m * 16 + n := Utf8.toNat_byte (by omega)
  have hhigh : (m * 16 + n) / 16 = m := by omega
  have hlow : (m * 16 + n) % 16 = n := by omega
  exact ⟨x, y, by rwa [hbyte, hhigh], by rwa [hbyte, hlow], rfl⟩

theorem head_of_isEscape {b : UInt8} {text cs rest : List Char} {c : Char} (h : IsEscape b text)
    (hcs : c :: cs = text ++ rest) : ∃ x y m n, c = '%' ∧ cs = x :: y :: rest ∧
      hexValue? x = some m ∧ hexValue? y = some n := by
  obtain ⟨x, y, hx, hy, rfl⟩ := h
  have hb := b.toNat_lt
  obtain ⟨rfl, rfl⟩ := List.cons.inj hcs
  exact ⟨x, y, _, _, rfl, rfl, hexValue?_of_isHexDigit (by omega) hx,
    hexValue?_of_isHexDigit (by omega) hy⟩

theorem bytes_char {c : Char} {cs : List Char}
    (h : ∀ b text rest, IsEscape b text → c :: cs ≠ text ++ rest) :
    bytes (c :: cs) = Utf8.encodeChar c ++ bytes cs := by
  rw [bytes.eq_def]
  split
  · rename_i x y rest hcs
    obtain ⟨rfl, rfl⟩ := List.cons.inj hcs
    split
    · rename_i m n hx hy
      exact absurd rfl (h _ _ rest (isEscape_of_hexValue? hx hy))
    · rfl
  · rename_i hcs
    obtain ⟨rfl, rfl⟩ := List.cons.inj hcs
    rfl
  · rename_i hcs
    cases hcs

theorem bytes_cons {c : Char} (h : c ≠ '%') (rest : List Char) :
    bytes (c :: rest) = Utf8.encodeChar c ++ bytes rest := by
  refine bytes_char fun b text more hescape heq => ?_
  obtain ⟨-, -, -, -, hc, -⟩ := head_of_isEscape hescape heq
  exact h hc

theorem standsFor_bytes (cs : List Char) : StandsFor cs (bytes cs) := by
  fun_induction bytes cs with
  | case1 a b cs x y hy hx ih => exact .escape (isEscape_of_hexValue? hx hy) ih
  | case2 a b cs h ih =>
    rw [Utf8.encodeChar_eq]
    refine .char (fun byte text rest hescape heq => ?_) ih
    obtain ⟨x, y, m, n, -, heq, hx, hy⟩ := head_of_isEscape hescape heq
    cases heq
    exact h m n hx hy
  | case3 c cs h ih =>
    rw [Utf8.encodeChar_eq]
    refine .char (fun byte text rest hescape heq => ?_) ih
    obtain ⟨x, y, m, n, rfl, rfl, -, -⟩ := head_of_isEscape hescape heq
    exact h x y rest rfl rfl
  | case4 => exact .nil

/-- What is undone is what the text stands for. -/
theorem standsFor_iff {cs : List Char} {bs : Bytes} : StandsFor cs bs ↔ bs = bytes cs := by
  constructor
  · intro h
    induction h with
    | nil => rfl
    | escape h _ ih => rw [bytes_escape h, ih]
    | char h _ ih => rw [bytes_char h, ih, Utf8.encodeChar_eq]
  · rintro rfl
    exact standsFor_bytes cs

theorem bytes_escapes {bs : Bytes} {parts : List (List Char)} (h : List.Forall₂ IsEscape bs parts)
    (rest : List Char) : bytes (parts.flatten ++ rest) = bs ++ bytes rest := by
  induction h with
  | nil => rfl
  | cons hb _ ih => rw [List.flatten_cons, List.append_assoc, bytes_escape hb, ih, List.cons_append]

end Percent

end RequestMatching
