import Mathlib.Logic.Basic

/-!
# Inverting fallible code

A computation in `Except` that succeeds has succeeded at each of its steps.
-/

namespace Fic.Lib

variable {ε : Type*} {α β : Type}

@[simp] theorem except_ok_bind (a : α) (f : α → Except ε β) : (Except.ok a >>= f) = f a := rfl

@[simp] theorem except_error_bind (e : ε) (f : α → Except ε β) :
    (Except.error e >>= f) = .error e := rfl

variable {x : Except ε α} {f : α → Except ε β}

theorem except_bind_eq_ok {b : β} :
    (x >>= f) = .ok b ↔ ∃ a, x = .ok a ∧ f a = .ok b := by
  cases x <;> simp

/-- Checks in a row succeed when each of them does. -/
theorem except_check_eq_ok {x : Except ε Unit} {y : Except ε β} {b : β} :
    (x >>= fun _ => y) = .ok b ↔ x = .ok () ∧ y = .ok b := by
  cases x <;> simp

/-- A failure comes from the first step, or from what follows its success. -/
theorem except_bind_eq_error {e : ε} :
    (x >>= f) = .error e ↔ x = .error e ∨ ∃ a, x = .ok a ∧ f a = .error e := by
  cases x <;> simp

theorem except_map_eq_ok {f : α → β} {b : β} :
    x.map f = .ok b ↔ ∃ a, x = .ok a ∧ f a = b := by
  cases x <;> simp [Except.map]

/-! ## What a successful result satisfies -/

/-- Every value the computation can give satisfies `P`. -/
def Yields (P : α → Prop) (x : Except ε α) : Prop := ∀ a, x = .ok a → P a

namespace Yields

variable {P : α → Prop} {Q : β → Prop}

theorem ok {a : α} (h : P a) : Yields P (.ok a : Except ε α) := by
  intro b hb
  injection hb with hb
  exact hb ▸ h

theorem error (e : ε) : Yields P (.error e : Except ε α) := by
  intro b hb
  cases hb

theorem bind {x : Except ε α} {f : α → Except ε β} (h : ∀ a, x = .ok a → Yields Q (f a)) :
    Yields Q (x >>= f) := by
  intro b hb
  obtain ⟨a, ha, hb⟩ := except_bind_eq_ok.mp hb
  exact h a ha b hb

end Yields

end Fic.Lib
