import Fic.Lib.Bytes

/-!
# Cutting and trimming

A list is cut at the first occurrence of an element, and trimmed at both of its ends.
-/

namespace Fic.Lib

section Cut

variable {key rest : Bytes} {stop : UInt8}

theorem takeWhile_cut (h : stop ∉ key) : (key ++ stop :: rest).takeWhile (· ≠ stop) = key := by
  rw [List.takeWhile_append_of_pos fun b hb => by simpa using ne_of_mem_of_not_mem hb h]
  simp

theorem dropWhile_cut (h : stop ∉ key) :
    (key ++ stop :: rest).dropWhile (· ≠ stop) = stop :: rest := by
  rw [List.dropWhile_append_of_pos fun b hb => by simpa using ne_of_mem_of_not_mem hb h]
  simp

theorem drop_cut (head tail : Bytes) (c : UInt8) :
    (head ++ c :: tail).drop (head.length + 1) = tail := by
  rw [← List.drop_drop, List.drop_left]
  rfl

end Cut

variable {α : Type} {p : α → Bool} {c : α}

theorem rdropWhile_append_cons (hc : p c = false) (a b : List α) :
    (a ++ c :: b).rdropWhile p = a ++ c :: b.rdropWhile p := by
  unfold List.rdropWhile
  rw [List.reverse_append, List.reverse_cons, List.append_assoc, List.dropWhile_append]
  split_ifs with hall
  · simp [List.isEmpty_iff.mp hall, hc]
  · simp

theorem rtakeWhile_append_cons (hc : p c = false) (a b : List α) :
    (a ++ c :: b).rtakeWhile p = b.rtakeWhile p := by
  unfold List.rtakeWhile
  rw [List.reverse_append, List.reverse_cons, List.append_assoc, List.takeWhile_append]
  split_ifs with hall
  · rw [(List.takeWhile_prefix p).eq_of_length hall]
    simp [hc]
  · rfl

/-- The list without such elements at its ends. -/
def trim (p : α → Bool) (l : List α) : List α := (l.dropWhile p).rdropWhile p

theorem rdropWhile_append_of_pos {b : List α} (h : ∀ x ∈ b, p x = true) (a : List α) :
    (a ++ b).rdropWhile p = a.rdropWhile p := by
  rw [List.rdropWhile, List.reverse_append,
    List.dropWhile_append_of_pos fun x hx => h x (List.mem_reverse.mp hx), List.rdropWhile]

theorem trim_sublist (l : List α) : (trim p l).Sublist l :=
  (List.rdropWhile_prefix p _).sublist.trans (List.dropWhile_suffix p).sublist

theorem trim_eq_self {l : List α} (h : ∀ x ∈ l, p x = false) : trim p l = l := by
  have hdrop : l.dropWhile p = l :=
    List.dropWhile_eq_self_iff.mpr fun _ => by simp [h _ (List.getElem_mem _)]
  rw [trim, hdrop, List.rdropWhile_eq_self_iff]
  exact fun hne => by simp [h _ (List.getLast_mem hne)]

theorem dropWhile_rdropWhile (l : List α) :
    (l.rdropWhile p).dropWhile p = (l.dropWhile p).rdropWhile p := by
  induction l using List.reverseRecOn with
  | nil => rfl
  | append_singleton l c ih =>
    rw [List.rdropWhile_concat, List.dropWhile_append]
    split_ifs with hc hall hall
    · simp [ih, List.isEmpty_iff.mp hall, hc]
    · rw [ih, List.rdropWhile_concat, if_pos hc]
    · simp [List.dropWhile_append, hall, hc, List.rdropWhile]
    · rw [List.rdropWhile_concat, if_neg hc, List.dropWhile_append, if_neg hall]

theorem trim_dropWhile (l : List α) : trim p (l.dropWhile p) = trim p l := by
  rw [trim, List.dropWhile_idempotent, trim]

theorem trim_rdropWhile (l : List α) : trim p (l.rdropWhile p) = trim p l := by
  rw [trim, dropWhile_rdropWhile]
  exact List.rdropWhile_idempotent p _

theorem trim_trim (l : List α) : trim p (trim p l) = trim p l := by
  conv_lhs => rw [trim.eq_def p l, trim_rdropWhile, trim_dropWhile]

/-- An element that stays separates what is trimmed on both sides. -/
theorem trim_append_cons (hc : p c = false) (a b : List α) :
    trim p (a ++ c :: b) = a.dropWhile p ++ c :: b.rdropWhile p := by
  have hdrop : (a ++ c :: b).dropWhile p = a.dropWhile p ++ c :: b := by
    rw [List.dropWhile_append]
    split_ifs with hall
    · simp [List.isEmpty_iff.mp hall, hc]
    · rfl
  rw [trim, hdrop, rdropWhile_append_cons hc]

theorem mem_trim (hc : p c = false) {l : List α} : c ∈ trim p l ↔ c ∈ l := by
  refine ⟨fun h => (trim_sublist l).subset h, fun h => ?_⟩
  obtain ⟨a, b, rfl⟩ := List.append_of_mem h
  rw [trim_append_cons hc]
  exact List.mem_append_right _ List.mem_cons_self

end Fic.Lib
