import Mathlib.Data.List.InsertIdx

/-!
# Changing elements of a list

What `find?` returns, and which elements there are, after an element is replaced
or removed, and how the elements are related to those each of them is changed into.
-/

namespace Fic.Lib

variable {α : Type*} {p : α → Bool} {l : List α} {i : Nat} {x a : α}

theorem find?_set_of_not (hx : l[i]? = some x) (hpx : p x = false) (hpa : p a = false) :
    (l.set i a).find? p = l.find? p := by
  induction l generalizing i with
  | nil => rfl
  | cons head rest ih =>
    cases i with
    | zero =>
      obtain rfl : head = x := by simpa using hx
      simp [hpx, hpa]
    | succ i =>
      simp only [List.set_cons_succ, List.find?_cons]
      rw [ih (by simpa using hx)]

theorem find?_eraseIdx_of_not (hx : l[i]? = some x) (hpx : p x = false) :
    (l.eraseIdx i).find? p = l.find? p := by
  induction l generalizing i with
  | nil => rfl
  | cons head rest ih =>
    cases i with
    | zero =>
      obtain rfl : head = x := by simpa using hx
      simp [hpx]
    | succ i =>
      simp only [List.eraseIdx_cons_succ, List.find?_cons]
      rw [ih (by simpa using hx)]

theorem find?_eraseIdx_of_nodup {β : Type*} [DecidableEq β] {f : α → β} (hn : (l.map f).Nodup)
    (hx : l[i]? = some x) : ((l.eraseIdx i).find? fun y => f y = f x) = none := by
  induction l generalizing i with
  | nil => rfl
  | cons head rest ih =>
    obtain ⟨hnotin, hrest⟩ := List.nodup_cons.mp hn
    cases i with
    | zero =>
      obtain rfl : head = x := by simpa using hx
      refine List.find?_eq_none.mpr fun y hy => ?_
      simp only [decide_eq_true_eq]
      exact fun heq => hnotin (List.mem_map.mpr ⟨y, hy, heq⟩)
    | succ i =>
      have hx : rest[i]? = some x := by simpa using hx
      have hne : f head ≠ f x := fun heq =>
        hnotin (List.mem_map.mpr ⟨x, List.mem_of_getElem? hx, heq.symm⟩)
      simp only [List.eraseIdx_cons_succ, List.find?_cons, hne, decide_false]
      exact ih hrest hx

theorem forall_mem_set_of_others {P : α → Prop} (hl : ∀ k y, l[k]? = some y → k ≠ i → P y)
    (ha : P a) : ∀ y ∈ l.set i a, P y := by
  intro y hy
  obtain ⟨k, hk⟩ := List.mem_iff_getElem?.mp hy
  rw [List.getElem?_set] at hk
  split_ifs at hk with hki
  · exact Option.some.inj hk ▸ ha
  · exact hl k y hk (Ne.symm hki)

theorem forall_mem_set {P : α → Prop} (hl : ∀ y ∈ l, P y) (ha : P a) : ∀ y ∈ l.set i a, P y :=
  forall_mem_set_of_others (fun _ y hy _ => hl y (List.mem_of_getElem? hy)) ha

section Pairwise

variable {R : α → α → Prop} (hsymm : ∀ {x y}, R x y → R y x) (hl : l.Pairwise R)
include hsymm hl

theorem pairwise_getElem? {k : Nat} {y : α} (hx : l[i]? = some x) (hy : l[k]? = some y)
    (hne : k ≠ i) : R y x := by
  obtain ⟨hi, rfl⟩ := List.getElem?_eq_some_iff.mp hx
  obtain ⟨hk, rfl⟩ := List.getElem?_eq_some_iff.mp hy
  rw [List.pairwise_iff_getElem] at hl
  rcases Nat.lt_or_gt_of_ne hne with hlt | hlt
  · exact hl k i hk hi hlt
  · exact hsymm (hl i k hi hk hlt)

/-- Elements that are related pairwise stay so when one of them is replaced. -/
theorem pairwise_set (ha : ∀ k y, l[k]? = some y → k ≠ i → R y a) : (l.set i a).Pairwise R := by
  rw [List.pairwise_iff_getElem] at hl ⊢
  intro k m hk hm hlt
  rw [List.length_set] at hk hm
  rw [List.getElem_set, List.getElem_set]
  split_ifs with hik him him
  · omega
  · exact hsymm (ha m _ (List.getElem?_eq_getElem hm) (Ne.symm him))
  · exact ha k _ (List.getElem?_eq_getElem hk) (Ne.symm hik)
  · exact hl k m hk hm hlt

end Pairwise

theorem find?_of_nodup {β : Type*} [DecidableEq β] {f : α → β} (hn : (l.map f).Nodup)
    (hx : x ∈ l) : (l.find? fun y => f y = f x) = some x := by
  induction l with
  | nil => cases hx
  | cons head rest ih =>
    obtain ⟨hnotin, hrest⟩ := List.nodup_cons.mp hn
    rcases List.mem_cons.mp hx with rfl | hx
    · simp
    · have hne : f head ≠ f x := fun heq => hnotin (List.mem_map.mpr ⟨x, hx, heq.symm⟩)
      simp only [List.find?_cons, hne, decide_false]
      exact ih hrest hx

theorem map_set_of_eq {β : Type*} {f : α → β} (hx : l[i]? = some x) (hf : f a = f x) :
    (l.set i a).map f = l.map f := by
  obtain ⟨hlt, rfl⟩ := List.getElem?_eq_some_iff.mp hx
  have hlt' : i < (l.map f).length := by simpa using hlt
  have hfa : (l.map f)[i] = f a := by simp [hf]
  rw [List.map_set, ← hfa, List.set_getElem_self]

theorem map_filterMap_set_of_eq {β γ : Type*} {f : α → Option β} {g : β → γ} (hx : l[i]? = some x)
    (h : (f a).map g = (f x).map g) :
    ((l.set i a).filterMap f).map g = (l.filterMap f).map g := by
  induction l generalizing i with
  | nil => rfl
  | cons head rest ih =>
    cases i with
    | zero =>
      obtain rfl : head = x := by simpa using hx
      cases hfa : f a <;> cases hfx : f head <;> simp_all
    | succ i =>
      have ih := ih (by simpa using hx)
      simp only [List.set_cons_succ, List.filterMap_cons]
      cases f head <;> simp [ih]

variable {f : α → Option α}

theorem filterMap_eq_self (hf : ∀ y ∈ l, f y = some y) : l.filterMap f = l := by
  induction l with
  | nil => rfl
  | cons head rest ih =>
    obtain ⟨hhead, hrest⟩ := List.forall_mem_cons.mp hf
    rw [List.filterMap_cons_some hhead, ih hrest]

theorem filterMap_of_others (hx : l[i]? = some x)
    (hf : ∀ k y, l[k]? = some y → k ≠ i → f y = some y) :
    l.filterMap f = (f x).elim (l.eraseIdx i) (l.set i) := by
  induction l generalizing i with
  | nil => simp at hx
  | cons head rest ih =>
    cases i with
    | zero =>
      obtain rfl : head = x := by simpa using hx
      have hrest : rest.filterMap f = rest := filterMap_eq_self fun y hy => by
        obtain ⟨k, hk⟩ := List.mem_iff_getElem?.mp hy
        exact hf (k + 1) y (by simpa using hk) (by omega)
      cases hfx : f head <;> simp [hfx, hrest]
    | succ i =>
      have hhead : f head = some head := hf 0 head rfl (by omega)
      have ih := ih (by simpa using hx) fun k y hk hne =>
        hf (k + 1) y (by simpa using hk) (by omega)
      rw [List.filterMap_cons_some hhead, ih]
      cases f x <;> rfl

/-! ## Related elements -/

section Forall₂

variable {β : Type*} {R : α → β → Prop}

theorem forall₂_mapIdx {f : Nat → α → β} (h : ∀ k x, l[k]? = some x → R x (f k x)) :
    List.Forall₂ R l (l.mapIdx f) := by
  induction l generalizing f with
  | nil => exact .nil
  | cons x l ih =>
    rw [List.mapIdx_cons]
    exact .cons (h 0 x rfl) (ih fun k y hy => h (k + 1) y hy)

theorem forall₂_right {l' : List β} (h : List.Forall₂ R l l') : ∀ y ∈ l', ∃ x ∈ l, R x y := by
  induction h with
  | nil => simp
  | cons hxy _ ih =>
    refine List.forall_mem_cons.mpr ⟨⟨_, by simp, hxy⟩, fun y hy => ?_⟩
    obtain ⟨x, hx, hxy⟩ := ih y hy
    exact ⟨x, List.mem_cons_of_mem _ hx, hxy⟩

end Forall₂

end Fic.Lib
