import Mathlib.Data.List.Basic

/-!
# Forward worklists

A worklist that works through the positions `0, …, last` of a program in
order: every step leads to a later position or ends the run.  States are merged
by a `key`; only the key decides how a run goes on.

`ForwardRun` is the set of runs of the program.  A worklist that is `Sound`
(nothing in it is invented) and `Closed` (every step of a state that was
worked on has been noted) has completed exactly the ends of the runs:
`completed_iff`.  A loop that notes exactly the steps of a position (`Worked`)
keeps the worklist sound and closes that position.
-/

namespace Fic.Lib

/-- The runs from a position to the end of the program.  `Step i c none c'`
ends the run with `c'`, `Step i c (some k) c'` goes on at position `k`. -/
inductive ForwardRun {κ : Type*} (Step : Nat → κ → Option Nat → κ → Prop) (last : Nat) :
    Nat → κ → κ → Prop
  | finish {c : κ} : ForwardRun Step last last c c
  | stop {i : Nat} {c c' : κ} (hstep : Step i c none c') : ForwardRun Step last i c c'
  | move {i k : Nat} {c c' final : κ} (hstep : Step i c (some k) c')
      (hrest : ForwardRun Step last k c' final) : ForwardRun Step last i c final

/-- The states waiting at each position, and those whose run is over. -/
structure Worklist (σ : Type*) where
  pending : Nat → List σ
  completed : List σ

namespace Worklist

variable {σ κ : Type*}

/-- The states noted for a continuation. -/
def noted (w : Worklist σ) : Option Nat → List σ
  | none => w.completed
  | some k => w.pending k

/-- `w'` has all states of `w`, and no new ones up to position `i`. -/
structure Grows (i : Nat) (w w' : Worklist σ) : Prop where
  subset : ∀ next, w.noted next ⊆ w'.noted next
  fixed : ∀ j, j ≤ i → w'.pending j = w.pending j

theorem Grows.refl (i : Nat) (w : Worklist σ) : Grows i w w :=
  ⟨fun _ => List.Subset.refl _, fun _ _ => rfl⟩

theorem Grows.trans {i : Nat} {w w' w'' : Worklist σ} (h : Grows i w w') (h' : Grows i w' w'') :
    Grows i w w'' :=
  ⟨fun next => List.Subset.trans (h.subset next) (h'.subset next),
    fun j hj => (h'.fixed j hj).trans (h.fixed j hj)⟩

section

variable (key : σ → κ) (Step : Nat → κ → Option Nat → κ → Prop) (last : Nat) (start : κ)

/-- A state with this key may be noted: it is the end of a run, or what
follows from it is. -/
def Admissible : Option Nat → κ → Prop
  | none, c => ForwardRun Step last 0 start c
  | some k, c => ∀ final, ForwardRun Step last k c final → ForwardRun Step last 0 start final

/-- Every state of the worklist belongs to a run. -/
def Sound (w : Worklist σ) : Prop :=
  ∀ next, ∀ s ∈ w.noted next, Admissible Step last start next (key s)

variable {Step last start} in
/-- A step from an admissible state is admissible. -/
theorem Admissible.step {i : Nat} {c c' : κ} {next : Option Nat}
    (h : Admissible Step last start (some i) c) (hstep : Step i c next c') :
    Admissible Step last start next c' := by
  cases next with
  | none => exact h c' (.stop hstep)
  | some k => exact fun final hrun => h final (.move hstep hrun)

/-- Every step from a position before `i` has been noted. -/
def Closed (i : Nat) (w : Worklist σ) : Prop :=
  ∀ j, j < i → ∀ s ∈ w.pending j, ∀ next c, Step j (key s) next c →
    ∃ t ∈ w.noted next, key t = c

variable {key Step last start}

/-- Work at position `i` that notes exactly the continuations in `New`: they
are all there afterwards, and nothing else is new. -/
structure Worked (key : σ → κ) (i : Nat) (New : Option Nat → κ → Prop) (w w' : Worklist σ) :
    Prop extends Grows i w w' where
  new : ∀ next, ∀ s ∈ w'.noted next, s ∈ w.noted next ∨ New next (key s)
  all : ∀ next c, New next c → ∃ s ∈ w'.noted next, key s = c

theorem Worked.idle (key : σ → κ) (i : Nat) (w : Worklist σ) :
    Worked key i (fun _ _ => False) w w where
  toGrows := .refl i w
  new := fun _ _ hs => .inl hs
  all := fun _ _ h => h.elim

variable {w : Worklist σ}

theorem Worked.trans {i : Nat} {New New' : Option Nat → κ → Prop} {w' w'' : Worklist σ}
    (h : Worked key i New w w') (h' : Worked key i New' w' w'') :
    Worked key i (fun next c => New next c ∨ New' next c) w w'' where
  toGrows := h.toGrows.trans h'.toGrows
  new := by
    intro next s hs
    rcases h'.new next s hs with hs | hnew
    · exact (h.new next s hs).imp_right .inl
    · exact .inr (.inr hnew)
  all := by
    intro next c hnew
    rcases hnew with hnew | hnew
    · obtain ⟨s, hs, hkey⟩ := h.all next c hnew
      exact ⟨s, h'.subset next hs, hkey⟩
    · exact h'.all next c hnew

theorem Worked.congr {i : Nat} {New New' : Option Nat → κ → Prop} {w' : Worklist σ}
    (h : Worked key i New w w') (hiff : ∀ next c, New next c ↔ New' next c) :
    Worked key i New' w w' where
  toGrows := h.toGrows
  new := fun next s hs => (h.new next s hs).imp_right (hiff next _).mp
  all := fun next c hnew => h.all next c ((hiff next c).mpr hnew)

theorem Worked.sound {i : Nat} {New : Option Nat → κ → Prop} {w' : Worklist σ}
    (h : Worked key i New w w') (hsound : Sound key Step last start w)
    (hnew : ∀ next c, New next c → Admissible Step last start next c) :
    Sound key Step last start w' := by
  intro next s hs
  rcases h.new next s hs with hs | hs
  · exact hsound next s hs
  · exact hnew next _ hs

/-- Noting every step of every state at position `i` closes it. -/
theorem Worked.closed {i : Nat} {w' : Worklist σ}
    (h : Worked key i (fun next c => ∃ s ∈ w.pending i, Step i (key s) next c) w w')
    (hclosed : Closed key Step i w) : Closed key Step (i + 1) w' := by
  intro j hj s hs next c hstep
  rw [h.fixed j (by omega)] at hs
  rcases Nat.lt_or_ge j i with hlt | hge
  · obtain ⟨t, ht, hkey⟩ := hclosed j hlt s hs next c hstep
    exact ⟨t, h.subset next ht, hkey⟩
  · obtain rfl : j = i := by omega
    exact h.all next c ⟨s, hs, hstep⟩

/-- A closed worklist completes every run that starts from one of its
states. -/
theorem Closed.completes (h : Closed key Step last w)
    (hsteps : ∀ i c next c', Step i c next c' → i < last)
    (hlast : ∀ s ∈ w.pending last, ∃ t ∈ w.completed, key t = key s) {i : Nat} {c final : κ}
    (hrun : ForwardRun Step last i c final) (hpending : ∃ s ∈ w.pending i, key s = c) :
    ∃ t ∈ w.completed, key t = final := by
  induction hrun with
  | finish =>
    obtain ⟨s, hs, rfl⟩ := hpending
    exact hlast s hs
  | stop hstep =>
    obtain ⟨s, hs, rfl⟩ := hpending
    exact h _ (hsteps _ _ _ _ hstep) s hs none _ hstep
  | move hstep _ ih =>
    obtain ⟨s, hs, rfl⟩ := hpending
    exact ih (h _ (hsteps _ _ _ _ hstep) s hs (some _) _ hstep)

/-- A sound and closed worklist has completed exactly the ends of the runs. -/
theorem completed_iff (hsound : Sound key Step last start w)
    (hclosed : Closed key Step last w) (hsteps : ∀ i c next c', Step i c next c' → i < last)
    (hstart : ∃ s ∈ w.pending 0, key s = start)
    (hlast : ∀ s ∈ w.pending last, ∃ t ∈ w.completed, key t = key s) (final : κ) :
    (∃ t ∈ w.completed, key t = final) ↔ ForwardRun Step last 0 start final := by
  constructor
  · rintro ⟨t, ht, rfl⟩
    exact hsound none t ht
  · intro hrun
    exact hclosed.completes hsteps hlast hrun hstart

end

end Worklist

end Fic.Lib
