import Fic.Lib.Bytes

/-!
# Decimal text of machine integers

`toDecimal` is `std::to_string` on an unsigned integer and `ofDecimal` the
value `std::from_chars` computes from a run of digits, before the range check
of the target type.  `ofDecimal_toDecimal` and `toDecimal_ofDecimal` are the
round trips; the other lemmas give the shape of the written text, which is
what strict parsers of decimal fields check: only digits, no leading zero, at
most twenty bytes for a 64-bit value.
-/

namespace Fic.Lib

variable {d n : Nat} {b : UInt8} {text : Bytes}

/-- `std::isdigit` in the "C" locale. -/
def isDigit (b : UInt8) : Bool := 48 ≤ b && b ≤ 57

theorem isSpace_of_isDigit (h : isDigit b = true) : isSpace b = false := by
  simp only [isDigit, isSpace] at h ⊢
  grind

def digitByte (d : Nat) : UInt8 := UInt8.ofNat (48 + d)

/-- `std::to_string` of an unsigned integer. -/
def toDecimal (n : Nat) : Bytes :=
  if n = 0 then [digitByte 0] else ((Nat.digits 10 n).map digitByte).reverse

/-- The value of a run of digits, most significant first. -/
def ofDecimal (text : Bytes) : Nat :=
  text.foldl (fun acc b => acc * 10 + (b.toNat - 48)) 0

theorem digitByte_toNat (h : d < 10) : (digitByte d).toNat = 48 + d := by
  rw [digitByte, UInt8.toNat_ofNat_of_lt']
  change 48 + d < 256
  omega

theorem isDigit_digitByte (h : d < 10) : isDigit (digitByte d) = true := by
  have := digitByte_toNat h
  simp only [isDigit, Bool.and_eq_true, decide_eq_true_eq, UInt8.le_iff_toNat_le, this]
  exact ⟨Nat.le_add_right 48 d, by change 48 + d ≤ 57; omega⟩

theorem digitByte_of_isDigit (h : isDigit b = true) :
    digitByte (b.toNat - 48) = b ∧ b.toNat - 48 < 10 := by
  simp only [isDigit, Bool.and_eq_true, decide_eq_true_eq, UInt8.le_iff_toNat_le] at h
  obtain ⟨hlow, hhigh⟩ := h
  change 48 ≤ b.toNat at hlow
  change b.toNat ≤ 57 at hhigh
  have hd : b.toNat - 48 < 10 := by omega
  refine ⟨UInt8.toNat_inj.mp ?_, hd⟩
  rw [digitByte_toNat hd]
  omega

theorem toDecimal_isDigit (h : b ∈ toDecimal n) : isDigit b = true := by
  unfold toDecimal at h
  split_ifs at h with hn
  · rw [List.mem_singleton.mp h]
    exact isDigit_digitByte (by omega)
  · rw [List.mem_reverse, List.mem_map] at h
    obtain ⟨d, hd, rfl⟩ := h
    exact isDigit_digitByte (Nat.digits_lt_base (by omega) hd)

theorem toDecimal_ne_nil (n : Nat) : toDecimal n ≠ [] := by
  unfold toDecimal
  split_ifs with hn
  · simp
  · simp [Nat.digits_ne_nil_iff_ne_zero, hn]

private theorem foldr_digits_eq_ofDigits (ds : List Nat) (h : ∀ d ∈ ds, d < 10) :
    (ds.map digitByte).foldr (fun b acc => acc * 10 + (b.toNat - 48)) 0 =
      Nat.ofDigits 10 ds := by
  induction ds with
  | nil => rfl
  | cons d ds ih =>
    have hd : (digitByte d).toNat = 48 + d := digitByte_toNat (h d List.mem_cons_self)
    have htail := ih fun e he => h e (List.mem_cons_of_mem _ he)
    rw [List.map_cons, List.foldr_cons, htail, hd, Nat.ofDigits_cons]
    omega

theorem ofDecimal_toDecimal (n : Nat) : ofDecimal (toDecimal n) = n := by
  unfold toDecimal
  split_ifs with hn
  · rw [hn]
    rfl
  · rw [ofDecimal, List.foldl_reverse,
      foldr_digits_eq_ofDigits _ fun d hd => Nat.digits_lt_base (by omega) hd]
    exact Nat.ofDigits_digits 10 n

/-- A non-zero number is written without a leading zero. -/
theorem toDecimal_head?_ne_zero (hn : n ≠ 0) : (toDecimal n).head? ≠ some (digitByte 0) := by
  rw [toDecimal, if_neg hn, List.head?_reverse, List.getLast?_map]
  have hne : Nat.digits 10 n ≠ [] := Nat.digits_ne_nil_iff_ne_zero.mpr hn
  rw [List.getLast?_eq_some_getLast hne]
  intro h
  have hdigit : (Nat.digits 10 n).getLast hne < 10 :=
    Nat.digits_lt_base (by omega) (List.getLast_mem hne)
  have hval := congrArg UInt8.toNat (Option.some.inj h)
  rw [digitByte_toNat hdigit, digitByte_toNat (by omega)] at hval
  exact Nat.getLast_digit_ne_zero 10 hn (by omega)

/-- Digits without a leading zero are the text of their value. -/
theorem toDecimal_ofDecimal (h : text.all isDigit = true) (hne : text ≠ [])
    (hzero : text.head? ≠ some (digitByte 0)) :
    toDecimal (ofDecimal text) = text ∧ ofDecimal text ≠ 0 := by
  obtain ⟨ds, hds, rfl⟩ : ∃ ds : List Nat, (∀ d ∈ ds, d < 10) ∧
      text = (ds.map digitByte).reverse := by
    refine ⟨text.reverse.map fun b => b.toNat - 48, ?_, ?_⟩
    · intro d hd
      obtain ⟨b, hb, rfl⟩ := List.mem_map.mp hd
      exact (digitByte_of_isDigit (List.all_eq_true.mp h b (List.mem_reverse.mp hb))).2
    · rw [List.map_map, ← List.map_reverse, List.reverse_reverse]
      refine (List.map_id text).symm.trans (List.map_congr_left fun b hb => ?_)
      exact (digitByte_of_isDigit (List.all_eq_true.mp h b hb)).1.symm
  have hlast : ∀ hds : ds ≠ [], ds.getLast hds ≠ 0 := by
    intro hds hlast
    rw [List.head?_reverse, List.getLast?_map, List.getLast?_eq_some_getLast hds, hlast] at hzero
    exact hzero rfl
  rw [ofDecimal, List.foldl_reverse, foldr_digits_eq_ofDigits ds hds]
  have hdigits := Nat.digits_ofDigits 10 (by omega) ds hds hlast
  have hpos : Nat.ofDigits 10 ds ≠ 0 := by
    intro hnil
    rw [hnil, Nat.digits_zero] at hdigits
    simp [← hdigits] at hne
  exact ⟨by rw [toDecimal, if_neg hpos, hdigits], hpos⟩

/-- Twenty digits hold every 64-bit value. -/
theorem toDecimal_length_le (h : n < 2 ^ 64) : (toDecimal n).length ≤ 20 := by
  unfold toDecimal
  split_ifs with hn
  · simp
  · rw [List.length_reverse, List.length_map,
      Nat.digits_length_le_iff (by omega)]
    omega

end Fic.Lib
