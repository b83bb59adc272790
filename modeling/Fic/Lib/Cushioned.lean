import Mathlib.Data.List.DropRight

/-!
# Leaving elements out

`l.filter keep` leaves elements out of `l`.  What depends on the ends of the list
only, such as `dropWhile`, `rdropWhile` and `rtakeWhile`, commutes with that when
every element left out is solid and stands in front of a solid one (`Cushioned`): such
an element is never at an end that is cut.
-/

namespace Fic.Lib

variable {α : Type*} {solid keep : α → Bool}

/-- Every element that is left out is solid, and so is the next one. -/
def Cushioned (solid keep : α → Bool) (l : List α) : Prop :=
  ∀ k x, l[k]? = some x → keep x = false →
    solid x = true ∧ ∃ y, l[k + 1]? = some y ∧ solid y = true

theorem Cushioned.right {a b : List α} (h : Cushioned solid keep (a ++ b)) :
    Cushioned solid keep b := by
  have hshift : ∀ k, (a ++ b)[a.length + k]? = b[k]? := by
    intro k
    rw [List.getElem?_append_right (Nat.le_add_right _ _), Nat.add_sub_cancel_left]
  intro k x hx hkeep
  have hab := h (a.length + k) x (by rw [hshift, hx]) hkeep
  rwa [Nat.add_assoc, hshift] at hab

theorem Cushioned.left {a b : List α} (h : Cushioned solid keep (a ++ b))
    (hb : ∀ y ∈ b.head?, solid y = false) : Cushioned solid keep a := by
  intro k x hx hkeep
  have hk : k < a.length := (List.getElem?_eq_some_iff.mp hx).1
  obtain ⟨hsolid, y, hy, hnext⟩ := h k x (by rw [List.getElem?_append_left hk, hx]) hkeep
  refine ⟨hsolid, y, ?_, hnext⟩
  by_cases hlast : k + 1 < a.length
  · rwa [List.getElem?_append_left hlast] at hy
  · have hhead : b.head? = some y := by
      rw [List.getElem?_append_right (by omega)] at hy
      have hzero : k + 1 - a.length = 0 := by omega
      rwa [hzero, ← List.head?_eq_getElem?] at hy
    rw [hb y hhead] at hnext
    cases hnext

theorem Cushioned.append {a b : List α} (ha : Cushioned solid keep a)
    (hb : Cushioned solid keep b) : Cushioned solid keep (a ++ b) := by
  intro k x hx hkeep
  by_cases hk : k < a.length
  · rw [List.getElem?_append_left hk] at hx
    obtain ⟨hsolid, y, hy, hnext⟩ := ha k x hx hkeep
    exact ⟨hsolid, y, by rw [List.getElem?_append_left (List.getElem?_eq_some_iff.mp hy).1, hy],
      hnext⟩
  · rw [List.getElem?_append_right (by omega)] at hx
    obtain ⟨hsolid, y, hy, hnext⟩ := hb _ x hx hkeep
    refine ⟨hsolid, y, ?_, hnext⟩
    rw [List.getElem?_append_right (by omega), ← hy]
    congr 1
    omega

theorem cushioned_singleton {x : α} (h : keep x = true) : Cushioned solid keep [x] := by
  intro k y hy hkeep
  cases k with
  | zero =>
    obtain rfl : x = y := by simpa using hy
    rw [h] at hkeep
    cases hkeep
  | succ k => simp at hy

variable {l : List α}

theorem Cushioned.keep_last {x : α} (h : Cushioned solid keep (l ++ [x])) : keep x = true := by
  by_contra hkeep
  obtain ⟨-, y, hy, -⟩ := h l.length x (by simp) (by simpa using hkeep)
  simp at hy

theorem Cushioned.getLast?_filter (h : Cushioned solid keep l) :
    (l.filter keep).getLast? = l.getLast? := by
  induction l using List.reverseRecOn with
  | nil => rfl
  | append_singleton l x _ =>
    rw [List.filter_append, List.filter_cons_of_pos h.keep_last, List.filter_nil,
      List.getLast?_concat, List.getLast?_concat]

theorem Cushioned.keep_of_not_solid {x : α} (h : Cushioned solid keep l) (hx : x ∈ l)
    (hsolid : solid x = false) : keep x = true := by
  by_contra hkeep
  obtain ⟨k, hk⟩ := List.getElem?_of_mem hx
  rw [(h k x hk (by simpa using hkeep)).1] at hsolid
  cases hsolid

theorem Cushioned.dropWhile (p : α → Bool) (h : Cushioned solid keep l) :
    Cushioned solid keep (l.dropWhile p) := by
  rw [← List.takeWhile_append_dropWhile (p := p) (l := l)] at h
  exact h.right

section Ends

variable {p : α → Bool} (hp : ∀ x, p x = true → solid x = false)

include hp

variable {l : List α}

section

variable (h : Cushioned solid keep l)

include h

theorem Cushioned.filter_dropWhile :
    (l.filter keep).dropWhile p = (l.dropWhile p).filter keep := by
  induction l with
  | nil => rfl
  | cons x l ih =>
    have htail : Cushioned solid keep l := Cushioned.right (a := [x]) h
    by_cases hx : p x = true
    · have hkeep : keep x = true := h.keep_of_not_solid (by simp) (hp x hx)
      rw [List.filter_cons_of_pos hkeep, List.dropWhile_cons_of_pos hx,
        List.dropWhile_cons_of_pos hx, ih htail]
    · rw [List.dropWhile_cons_of_neg hx]
      by_cases hkeep : keep x = true
      · rw [List.filter_cons_of_pos hkeep, List.dropWhile_cons_of_neg hx]
      · -- the next element is solid, so nothing is dropped behind `x` either
        obtain ⟨-, y, hy, hnext⟩ := h 0 x rfl (by simpa using hkeep)
        have hstays : l.dropWhile p = l := by
          cases l with
          | nil => rfl
          | cons z l =>
            obtain rfl : z = y := by simpa using hy
            refine List.dropWhile_cons_of_neg fun hz => ?_
            rw [hp z hz] at hnext
            cases hnext
        rw [List.filter_cons_of_neg hkeep, ih htail, hstays]

theorem Cushioned.filter_rdropWhile :
    (l.filter keep).rdropWhile p = (l.rdropWhile p).filter keep := by
  induction l using List.reverseRecOn with
  | nil => rfl
  | append_singleton l x ih =>
    rw [List.filter_append, List.filter_cons_of_pos h.keep_last, List.filter_nil]
    by_cases hx : p x = true
    · rw [List.rdropWhile_concat_pos _ _ _ hx, List.rdropWhile_concat_pos _ _ _ hx]
      exact ih (h.left (by simpa using hp x hx))
    · rw [List.rdropWhile_concat_neg _ _ _ hx, List.rdropWhile_concat_neg _ _ _ hx,
        List.filter_append, List.filter_cons_of_pos h.keep_last, List.filter_nil]

theorem Cushioned.rdropWhile :
    Cushioned solid keep (l.rdropWhile p) := by
  induction l using List.reverseRecOn with
  | nil => exact h
  | append_singleton l x ih =>
    by_cases hx : p x = true
    · rw [List.rdropWhile_concat_pos _ _ _ hx]
      exact ih (h.left (by simpa using hp x hx))
    · rwa [List.rdropWhile_concat_neg _ _ _ hx]

theorem Cushioned.filter_rtakeWhile :
    (l.filter keep).rtakeWhile p = l.rtakeWhile p := by
  induction l using List.reverseRecOn with
  | nil => rfl
  | append_singleton l x ih =>
    rw [List.filter_append, List.filter_cons_of_pos h.keep_last, List.filter_nil]
    by_cases hx : p x = true
    · rw [List.rtakeWhile_concat_pos _ _ _ hx, List.rtakeWhile_concat_pos _ _ _ hx,
        ih (h.left (by simpa using hp x hx))]
    · rw [List.rtakeWhile_concat_neg _ _ _ hx, List.rtakeWhile_concat_neg _ _ _ hx]

end

end Ends

end Fic.Lib
