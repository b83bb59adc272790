import Mathlib.Logic.Relation
import Mathlib.Data.List.Nodup

/-!
# Dependency orders

A list in which every element comes after everything it depends on, as a
depth-first traversal finishes its nodes.  `DependencyOrder.concat` is the step
of such a traversal; a complete order shows that the relation has no cycle
(`DependencyOrder.acyclic`) and holds everything that can be reached from its
elements (`DependencyOrder.mem_of_reach`).
-/

namespace Fic.Lib

open Relation

variable {α : Type*} {R : α → α → Prop} {order : List α}

/-- Every element occurs once, and behind its dependencies. -/
structure DependencyOrder (R : α → α → Prop) (order : List α) : Prop where
  nodup : order.Nodup
  closed : ∀ before a behind, order = before ++ a :: behind → ∀ b, R a b → b ∈ before

namespace DependencyOrder

theorem nil : DependencyOrder R [] where
  nodup := List.nodup_nil
  closed := by
    intro before a behind h
    simp at h

section

variable (h : DependencyOrder R order)

include h

theorem concat {a : α} (hnew : a ∉ order)
    (hdeps : ∀ b, R a b → b ∈ order) : DependencyOrder R (order ++ [a]) where
  nodup := by
    rw [List.nodup_append]
    refine ⟨h.nodup, List.nodup_singleton a, ?_⟩
    intro x hx y hy hxy
    rw [List.mem_singleton] at hy
    exact hnew (hy ▸ hxy ▸ hx)
  closed := by
    intro before c behind hsplit b hb
    rcases List.eq_nil_or_concat behind with rfl | ⟨behind', last, rfl⟩
    · have hlast : order ++ [a] = before ++ [c] := hsplit
      obtain ⟨rfl, hc⟩ := List.append_inj' hlast rfl
      rw [List.singleton_inj] at hc
      exact hdeps b (hc ▸ hb)
    · have hfront : order ++ [a] = (before ++ c :: behind') ++ [last] := by
        rw [hsplit, List.concat_eq_append]
        simp
      exact h.closed before c behind' (List.append_inj' hfront rfl).1 b hb

theorem mem_of_dep {a b : α} (ha : a ∈ order) (hab : R a b) :
    b ∈ order := by
  obtain ⟨before, behind, rfl⟩ := List.append_of_mem ha
  exact List.mem_append_left _ (h.closed before a behind rfl b hab)

theorem mem_of_reach {a b : α} (ha : a ∈ order)
    (hab : ReflTransGen R a b) : b ∈ order := by
  induction hab with
  | refl => exact ha
  | tail _ hstep ih => exact h.mem_of_dep ih hstep

theorem idxOf_lt [DecidableEq α] {a b : α} (ha : a ∈ order)
    (hab : R a b) : order.idxOf b < order.idxOf a := by
  obtain ⟨before, behind, rfl⟩ := List.append_of_mem ha
  have hb := h.closed before a behind rfl b hab
  have hnot : a ∉ before := by
    intro hmem
    exact (List.nodup_append.mp h.nodup).2.2 a hmem a List.mem_cons_self rfl
  rw [List.idxOf_append_of_mem hb, List.idxOf_append_of_notMem hnot, List.idxOf_cons_self]
  exact Nat.lt_of_lt_of_le (List.idxOf_lt_length_of_mem hb) (Nat.le_add_right _ _)

/-- No element of a dependency order depends on itself. -/
theorem acyclic {a : α} (ha : a ∈ order) :
    ¬ TransGen R a a := by
  classical
  have hlt : ∀ b, TransGen R a b → b ∈ order ∧ order.idxOf b < order.idxOf a := by
    intro b hab
    induction hab with
    | single hstep => exact ⟨h.mem_of_dep ha hstep, h.idxOf_lt ha hstep⟩
    | tail _ hstep ih =>
      exact ⟨h.mem_of_dep ih.1 hstep, Nat.lt_trans (h.idxOf_lt ih.1 hstep) ih.2⟩
  intro hcycle
  exact Nat.lt_irrefl _ (hlt a hcycle).2

end

end DependencyOrder

/-- What a search has not met gets less with every element it meets. -/
theorem length_filter_lt {l : List α} {p q : α → Bool} {a : α}
    (hpq : ∀ b, p b = true → q b = true) (ha : a ∈ l) (hq : q a = true) (hp : p a = false) :
    (l.filter p).length < (l.filter q).length := by
  have hsub := List.monotone_filter_right l hpq
  refine Nat.lt_of_le_of_ne hsub.length_le fun hlength => ?_
  have hmem : a ∈ l.filter p := by
    rw [hsub.eq_of_length hlength]
    exact List.mem_filter.mpr ⟨ha, hq⟩
  simp [hp] at hmem

end Fic.Lib
