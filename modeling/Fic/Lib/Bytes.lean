import Mathlib

/-!
# Byte strings

A `std::string` is a list of bytes.  This file holds the few operations of
the C++ string class that text formats are parsed and rendered with, and the
lemmas proofs about such formats use:

* `lit` embeds a string literal; two literals are equal exactly when the
  strings are, so `simp` decides comparisons of markers and field names;
* `find` is `std::string::find`.  `find_isSome_iff` reads it as the infix
  relation, and `find_append_delimiter` locates a delimiter behind a token
  that does not hold the delimiter's first byte;
* the `infix` lemmas say when a word can occur in a concatenation, which is
  how a renderer shows that no reserved word appears by accident.
-/

namespace Fic.Lib

/-- The bytes of a `std::string`. -/
abbrev Bytes := List UInt8

variable {hay needle : Bytes}

/-- `UInt8` ordered by value: the order `std::string` comparison uses. -/
instance byteOrder : LinearOrder UInt8 where
  le_refl := UInt8.le_refl
  le_trans _ _ _ := UInt8.le_trans
  lt_iff_le_not_ge _ _ := by
    simp only [UInt8.lt_iff_toNat_lt, UInt8.le_iff_toNat_le]
    omega
  le_antisymm _ _ := UInt8.le_antisymm
  le_total := UInt8.le_total
  toDecidableLE := inferInstance

/-- The equality test of byte strings that membership tests use. -/
instance lawfulBEqBytes : LawfulBEq Bytes := inferInstance

/-- The bytes of a string literal. -/
def lit (s : String) : Bytes := s.toUTF8.data.toList

@[simp] theorem lit_inj {s t : String} : lit s = lit t ↔ s = t := by
  constructor
  · intro h
    have hdata : s.toUTF8.data = t.toUTF8.data := Array.toList_inj.mp h
    have hbytes : s.toUTF8 = t.toUTF8 := ByteArray.ext hdata
    exact String.toByteArray_inj.mp hbytes
  · rintro rfl
    rfl

/-! ## Character classes of the "C" locale -/

/-- `std::isspace`: blank, tab, line feed, vertical tab, form feed, carriage
return. -/
def isSpace (b : UInt8) : Bool := b == 32 || (9 ≤ b && b ≤ 13)

/-- `std::isalnum`. -/
def isAlnum (b : UInt8) : Bool :=
  (48 ≤ b && b ≤ 57) || (65 ≤ b && b ≤ 90) || (97 ≤ b && b ≤ 122)

/-- `std::tolower`. -/
def lowerAscii (c : UInt8) : UInt8 :=
  if 'A'.toUInt8 ≤ c && c ≤ 'Z'.toUInt8 then c - 'A'.toUInt8 + 'a'.toUInt8 else c

theorem not_mem_of_all {p : UInt8 → Bool} {text : Bytes} {b : UInt8}
    (h : text.all p = true) (hb : p b = false) : b ∉ text := by
  intro hmem
  rw [List.all_eq_true.mp h b hmem] at hb
  contradiction

namespace Bytes

/-! ## Searching -/

/-- `std::string::find`: the offset of the first occurrence of `needle`. -/
def find (needle : Bytes) : Bytes → Option Nat
  | [] => if needle = [] then some 0 else none
  | b :: rest =>
    if needle.isPrefixOf (b :: rest) then some 0
    else (find needle rest).map (· + 1)

/-- `find` returned a position. -/
def hasWord (needle hay : Bytes) : Bool := (find needle hay).isSome

theorem find_isSome_iff : (find needle hay).isSome ↔ needle <:+: hay := by
  induction hay with
  | nil =>
    simp only [find]
    split_ifs with h <;> simp [h]
  | cons b rest ih =>
    simp only [find]
    split_ifs with h
    · simp only [Option.isSome_some, true_iff]
      exact (List.isPrefixOf_iff_prefix.mp h).isInfix
    · rw [Option.isSome_map, ih, List.infix_cons_iff]
      rw [List.isPrefixOf_iff_prefix] at h
      simp [h]

theorem hasWord_iff : hasWord needle hay = true ↔ needle <:+: hay :=
  find_isSome_iff

theorem hasWord_eq_false_iff : hasWord needle hay = false ↔ ¬ needle <:+: hay := by
  rw [← hasWord_iff, Bool.not_eq_true]

theorem find_eq_none_iff : find needle hay = none ↔ ¬ needle <:+: hay := by
  rw [← find_isSome_iff, Bool.not_eq_true, Option.isSome_eq_false_iff,
    Option.isNone_iff_eq_none]

/-- A found word stands at the returned offset. -/
theorem find_eq_some_append {i : Nat} (h : find needle hay = some i) :
    hay = hay.take i ++ needle ++ hay.drop (i + needle.length) := by
  induction hay generalizing i with
  | nil =>
    simp only [find] at h
    split_ifs at h with hn
    cases h
    simp [hn]
  | cons b rest ih =>
    simp only [find] at h
    split_ifs at h with hn
    · cases h
      obtain ⟨t, ht⟩ := List.isPrefixOf_iff_prefix.mp hn
      simp [← ht]
    · obtain ⟨j, hj, rfl⟩ := Option.map_eq_some_iff.mp h
      have := ih hj
      rw [List.take_succ_cons, Nat.add_right_comm, List.drop_succ_cons,
        List.cons_append, List.cons_append, ← this]

/-- A delimiter is found right behind a token that does not contain the
delimiter's first byte. -/
theorem find_append_delimiter {c : UInt8} {token rest : Bytes} (h : c ∉ token) :
    find (c :: needle) (token ++ c :: (needle ++ rest)) =
      some token.length := by
  induction token with
  | nil => simp [find, List.isPrefixOf_iff_prefix]
  | cons b token ih =>
    have hb : c ≠ b := fun e => h (e ▸ List.mem_cons_self)
    have htail : c ∉ token := fun m => h (List.mem_cons_of_mem _ m)
    simp [find, List.isPrefixOf, hb, ih htail]

theorem find_eq_none_of_not_mem {c : UInt8} (h : c ∉ hay) : find (c :: needle) hay = none := by
  rw [find_eq_none_iff]
  intro hin
  exact h (hin.subset List.mem_cons_self)

end Bytes

/-! ## Occurrences in concatenations -/

/-- A word cannot span a byte it does not contain. -/
theorem infix_append_cons {α : Type*} {word a b : List α} {c : α}
    (hc : c ∉ word) (h : word <:+: a ++ c :: b) :
    word <:+: a ∨ word <:+: b := by
  obtain ⟨s, t, hst⟩ := h
  rw [List.append_assoc] at hst
  rcases List.append_eq_append_iff.mp hst with ⟨u, hu, hv⟩ | ⟨u, hu, hv⟩
  · -- the word starts inside `a`
    rcases List.append_eq_append_iff.mp hv with ⟨w, hw, _⟩ | ⟨w, hw, hw'⟩
    · exact .inl ⟨s, w, by rw [hu, hw, List.append_assoc]⟩
    · -- it would have to cover `c`
      cases w with
      | nil => exact .inl ⟨s, [], by simp [hu, hw]⟩
      | cons d w =>
        rw [List.cons_append, List.cons.injEq] at hw'
        exact absurd (by simp [hw, hw'.1]) hc
  · -- the word starts at or behind `c`
    cases u with
    | nil =>
      cases word with
      | nil => exact .inl List.nil_infix
      | cons d word =>
        simp only [List.nil_append, List.cons_append, List.cons.injEq] at hv
        exact absurd (by simp [hv.1]) hc
    | cons d u =>
      rw [List.cons_append, List.cons.injEq] at hv
      exact .inr ⟨u, t, by rw [hv.2, List.append_assoc]⟩

/-- A word without `c` occurs in `a ++ [c]` only if it occurs in `a`. -/
theorem infix_of_infix_concat {α : Type*} {word a : List α} {c : α}
    (hc : c ∉ word) (h : word <:+: a ++ [c]) : word <:+: a := by
  rcases infix_append_cons hc h with h | h
  · exact h
  · rw [List.infix_nil.mp h]
    exact List.nil_infix

end Fic.Lib
