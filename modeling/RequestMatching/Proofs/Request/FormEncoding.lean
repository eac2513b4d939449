import RequestMatching.Proofs.Text.Percent
import RequestMatching.Proofs.Text.Splitting
import RequestMatching.Request.Query

/-!
# Form encoding

A name or a value can be written in many ways: each character as it is, where it does not mean something
else, or as its bytes in hex, and a blank also as a plus. A query string holds written pairs between
ampersands, and any number of empty items. Reading it gives the pairs in their order, whichever way they
are written.
-/

namespace RequestMatching

/-- The ways to write a character where those that satisfy `kept` may stay as they are. -/
inductive WritesChar (kept : Char → Prop) : Char → List Char → Prop
  | same {c : Char} (h : kept c) : WritesChar kept c [c]
  | blank : WritesChar kept ' ' ['+']
  | escaped {c : Char} {parts : List (List Char)}
      (h : List.Forall₂ IsEscape (String.utf8EncodeChar c) parts) : WritesChar kept c parts.flatten

def WritesText (kept : Char → Prop) (text : String) (written : List Char) : Prop :=
  ∃ parts, List.Forall₂ (WritesChar kept) text.toList parts ∧ written = parts.flatten

/-- The characters that a value may keep. -/
def IsKept (c : Char) : Prop :=
  c ≠ '%' ∧ c ≠ '+' ∧ c ≠ '&'

/-- The characters that a name may keep. -/
def IsKeptInName (c : Char) : Prop :=
  IsKept c ∧ c ≠ '='

/-- Items that stand for pairs, with empty ones anywhere among them. -/
inductive WritesItems : List (String × String) → List (List Char) → Prop
  | nil : WritesItems [] []
  | gap {pairs : List (String × String)} {items : List (List Char)} (h : WritesItems pairs items) :
      WritesItems pairs ([] :: items)
  | pair {pairs : List (String × String)} {items : List (List Char)} {name value : String}
      {n v : List Char} (hname : WritesText IsKeptInName name n) (hvalue : WritesText IsKept value v)
      (h : WritesItems pairs items) : WritesItems ((name, value) :: pairs) ((n ++ '=' :: v) :: items)

def WritesQuery (pairs : List (String × String)) (query : String) : Prop :=
  ∃ items, WritesItems pairs items ∧ query.toList = ['&'].intercalate items

/-! ## Escaping everything -/

def escapeByte (b : UInt8) : List Char :=
  ['%', (b.toNat / 16).digitChar, (b.toNat % 16).digitChar]

theorem isEscape_escapeByte (b : UInt8) : IsEscape b (escapeByte b) :=
  ⟨_, _, .inl rfl, .inl rfl, rfl⟩

theorem exists_writesText (kept : Char → Prop) (text : String) :
    ∃ written, WritesText kept text written := by
  refine ⟨_, text.toList.map fun c => ((String.utf8EncodeChar c).map escapeByte).flatten, ?_, rfl⟩
  refine List.forall₂_map_right_iff.mpr (List.forall₂_same.mpr fun c _ => .escaped ?_)
  exact List.forall₂_map_right_iff.mpr (List.forall₂_same.mpr fun b _ => isEscape_escapeByte b)

theorem exists_writesItems : ∀ pairs, ∃ items, WritesItems pairs items
  | [] => ⟨[], .nil⟩
  | (name, value) :: pairs => by
    obtain ⟨n, hn⟩ := exists_writesText IsKeptInName name
    obtain ⟨v, hv⟩ := exists_writesText IsKept value
    obtain ⟨items, hitems⟩ := exists_writesItems pairs
    exact ⟨_, .pair hn hv hitems⟩

theorem exists_writesQuery (pairs : List (String × String)) : ∃ query, WritesQuery pairs query := by
  obtain ⟨items, hitems⟩ := exists_writesItems pairs
  exact ⟨.ofList (['&'].intercalate items), items, hitems, String.toList_ofList⟩

/-! ## Written texts -/

theorem notMem_of_writesText {kept : Char → Prop} {mark : Char} {text : String} {written : List Char}
    (h : WritesText kept text written) (hkept : ¬ kept mark) (hmark : mark ≠ '%') (hplus : mark ≠ '+')
    (hvalue : hexValue? mark = none) : mark ∉ written := by
  obtain ⟨parts, hparts, rfl⟩ := h
  generalize text.toList = cs at hparts
  induction hparts with
  | nil => exact List.not_mem_nil
  | cons hc _ ih =>
    rw [List.flatten_cons, List.mem_append, not_or]
    refine ⟨?_, ih⟩
    cases hc with
    | same hc => exact fun hmem => hkept (List.mem_singleton.mp hmem ▸ hc)
    | blank => exact fun hmem => hplus (List.mem_singleton.mp hmem)
    | escaped hc => exact notMem_of_escapes hc hmark hvalue

namespace Query

def unplus (c : Char) : Char :=
  if c = '+' then ' ' else c

theorem map_unplus_eq_self {cs : List Char} (h : '+' ∉ cs) : cs.map unplus = cs := by
  refine (List.map_congr_left fun c hc => ?_).trans (List.map_id cs)
  exact if_neg fun hplus : c = '+' => h (hplus ▸ hc)

theorem decodeComponent_eq (cs : List Char) : decodeComponent cs =
    (Utf8.decode? (Percent.bytes (cs.map unplus))).getD (.ofList (cs.map unplus)) := by
  rw [decodeComponent, Percent.decode?, String.toList_ofList]
  rfl

theorem bytes_writesChar {kept : Char → Prop} (hkept : ∀ {c}, kept c → IsKept c) {c : Char}
    {written : List Char} (h : WritesChar kept c written) (rest : List Char) :
    Percent.bytes (written.map unplus ++ rest) = Utf8.encodeChar c ++ Percent.bytes rest := by
  cases h with
  | same hc =>
    obtain ⟨hpercent, hplus, -⟩ := hkept hc
    rw [List.map_singleton, unplus, if_neg hplus]
    exact Percent.bytes_cons hpercent rest
  | blank => exact Percent.bytes_cons (by decide) rest
  | escaped hc =>
    rw [map_unplus_eq_self (notMem_of_escapes hc (by decide) (by decide)), Percent.bytes_escapes hc,
      Utf8.encodeChar_eq]

theorem bytes_writesText {kept : Char → Prop} (hkept : ∀ {c}, kept c → IsKept c) {text : String}
    {written : List Char} (h : WritesText kept text written) :
    Percent.bytes (written.map unplus) = Utf8.encode text := by
  obtain ⟨parts, hparts, rfl⟩ := h
  rw [Utf8.encode]
  generalize text.toList = cs at hparts
  induction hparts with
  | nil => rfl
  | cons hc _ ih =>
    rw [List.flatten_cons, List.map_append, bytes_writesChar hkept hc, ih, List.flatMap_cons]

theorem decodeComponent_writesText {kept : Char → Prop} (hkept : ∀ {c}, kept c → IsKept c)
    {text : String} {written : List Char} (h : WritesText kept text written) :
    decodeComponent written = text := by
  rw [decodeComponent_eq, bytes_writesText hkept h, Utf8.decode?_eq_some_iff.mpr rfl]
  rfl

/-! ## Items -/

def readItem (item : List Char) : String × String :=
  (decodeComponent (splitPair item).1, decodeComponent (splitPair item).2)

theorem readItem_written {name value : String} {n v : List Char}
    (hname : WritesText IsKeptInName name n) (hvalue : WritesText IsKept value v) :
    readItem (n ++ '=' :: v) = (name, value) := by
  have hequals : '=' ∉ n :=
    notMem_of_writesText hname (fun h => h.2 rfl) (by decide) (by decide) (by decide)
  have hsplit : splitPair (n ++ '=' :: v) = (n, v) := by
    rw [splitPair, Text.cutChars_append hequals, Option.getD_some]
  rw [readItem, hsplit, decodeComponent_writesText And.left hname,
    decodeComponent_writesText id hvalue]

theorem notMem_of_writesItems {pairs : List (String × String)} {items : List (List Char)}
    (h : WritesItems pairs items) : ∀ item ∈ items, '&' ∉ item := by
  induction h with
  | nil => exact fun _ hmem => nomatch hmem
  | gap _ ih => exact List.forall_mem_cons.mpr ⟨List.not_mem_nil, ih⟩
  | pair hname hvalue _ ih =>
    refine List.forall_mem_cons.mpr ⟨?_, ih⟩
    rw [List.mem_append, List.mem_cons, not_or, not_or]
    exact ⟨notMem_of_writesText hname (fun h => h.1.2.2 rfl) (by decide) (by decide) (by decide),
      by decide, notMem_of_writesText hvalue (fun h => h.2.2 rfl) (by decide) (by decide) (by decide)⟩

theorem map_readItem {pairs : List (String × String)} {items : List (List Char)}
    (h : WritesItems pairs items) : (items.filter fun item => !item.isEmpty).map readItem = pairs := by
  induction h with
  | nil => rfl
  | gap _ ih => exact ih
  | pair hname hvalue _ ih =>
    rw [List.filter_cons_of_pos (by simp), List.map_cons, readItem_written hname hvalue, ih]

theorem parse_eq (query : String) : parse query =
    ((Text.splitChars '&' query.toList).filter fun item => !item.isEmpty).map readItem :=
  rfl

theorem parse_written {pairs : List (String × String)} {query : String}
    (h : WritesQuery pairs query) : parse query = pairs := by
  obtain ⟨items, hitems, hquery⟩ := h
  rw [parse_eq, hquery]
  by_cases hnil : items = []
  · subst hnil
    cases hitems
    rfl
  · rw [Text.splitChars_intercalate (notMem_of_writesItems hitems) hnil, map_readItem hitems]

/-- All pairs can be written as a query string. Whichever way they are written, they are read from it in
their order, repeats and empty texts with them. -/
theorem parse_of_writesQuery (pairs : List (String × String)) :
    (∃ query, WritesQuery pairs query) ∧ ∀ query, WritesQuery pairs query → parse query = pairs :=
  ⟨exists_writesQuery pairs, fun _ => parse_written⟩

theorem parse_of_writesQuery_of_mixed :
    WritesQuery [("a b", "é"), ("", ""), ("a b", "=")] "&a+b=%c3%A9&&=&a%20b==" ∧
      parse "&a+b=%c3%A9&&=&a%20b==" = [("a b", "é"), ("", ""), ("a b", "=")] := by
  have ha : IsKeptInName 'a' := ⟨⟨by decide, by decide, by decide⟩, by decide⟩
  have hb : IsKeptInName 'b' := ⟨⟨by decide, by decide, by decide⟩, by decide⟩
  have hequals : IsKept '=' := ⟨by decide, by decide, by decide⟩
  have hempty (kept : Char → Prop) : WritesText kept "" [] := ⟨[], .nil, rfl⟩
  have hplus : WritesText IsKeptInName "a b" "a+b".toList :=
    ⟨[['a'], ['+'], ['b']], .cons (.same ha) (.cons .blank (.cons (.same hb) .nil)), rfl⟩
  have hblank : List.Forall₂ IsEscape (String.utf8EncodeChar ' ') ["%20".toList] :=
    .cons ⟨'2', '0', .inl rfl, .inl rfl, rfl⟩ .nil
  have hhex : WritesText IsKeptInName "a b" "a%20b".toList :=
    ⟨[['a'], _, ['b']], .cons (.same ha) (.cons (.escaped hblank) (.cons (.same hb) .nil)), rfl⟩
  have haccent : List.Forall₂ IsEscape (String.utf8EncodeChar 'é') ["%c3".toList, "%A9".toList] :=
    .cons ⟨'c', '3', .inl rfl, .inl rfl, rfl⟩ (.cons ⟨'A', '9', .inr rfl, .inl rfl, rfl⟩ .nil)
  have hbytes : WritesText IsKept "é" "%c3%A9".toList := ⟨[_], .cons (.escaped haccent) .nil, rfl⟩
  have hsame : WritesText IsKept "=" ['='] := ⟨[['=']], .cons (.same hequals) .nil, rfl⟩
  have hquery : WritesQuery [("a b", "é"), ("", ""), ("a b", "=")] "&a+b=%c3%A9&&=&a%20b==" :=
    ⟨_, .gap (.pair hplus hbytes (.gap (.pair (hempty _) (hempty _) (.pair hhex hsame .nil)))), rfl⟩
  exact ⟨hquery, (parse_of_writesQuery _).2 _ hquery⟩

end Query
end RequestMatching
