import Mathlib.Data.List.Basic

/-!
# Lists made of blocks

A reader finds blocks in a list of lines and reports each of them with its first and
its last index.  `Blocks` says what the list is made of: foreign lines, and one block for
each item that is reported, at the place that is reported.  Such lists can be put together
(`Blocks.append`), cut at a place that no block spans (`Blocks.cut`), moved
(`Blocks.shift`) and get a block more (`Blocks.replace`).
-/

namespace Fic.Lib

variable {α β : Type*}

/-- The lines a reader skips, and the lines it reports an item for. -/
structure BlockReader (α β : Type*) where
  foreign : α → Prop
  isBlock : β → List α → Prop
  first : β → Nat
  last : β → Nat
  /-- The item as it is reported further down. -/
  shift : Nat → β → β
  last_eq : ∀ {w block}, isBlock w block → last w + 1 = first w + block.length
  first_lt : ∀ {w block}, isBlock w block → first w < last w
  first_shift : ∀ k w, first (shift k w) = first w + k
  last_shift : ∀ k w, last (shift k w) = last w + k
  isBlock_shift : ∀ k {w block}, isBlock w block → isBlock (shift k w) block

/-- What a list is made of from an index on. -/
inductive Blocks (reader : BlockReader α β) : Nat → List α → List β → Prop
  | nil (index : Nat) : Blocks reader index [] []
  | foreign {index : Nat} {x : α} {l : List α} {ws : List β} (hx : reader.foreign x)
      (hrest : Blocks reader (index + 1) l ws) : Blocks reader index (x :: l) ws
  | block {w : β} {block l : List α} {ws : List β} (hblock : reader.isBlock w block)
      (hrest : Blocks reader (reader.last w + 1) l ws) :
      Blocks reader (reader.first w) (block ++ l) (w :: ws)

namespace Blocks

variable {reader : BlockReader α β} {index : Nat} {l a b : List α} {ws later : List β}

theorem append (ha : Blocks reader index a ws) (hb : Blocks reader (index + a.length) b later) :
    Blocks reader index (a ++ b) (ws ++ later) := by
  induction ha with
  | nil => exact hb
  | foreign hx _ ih =>
    refine .foreign hx (ih ?_)
    rw [List.length_cons, ← Nat.add_assoc, Nat.add_right_comm] at hb
    exact hb
  | @block w block l ws hblock _ ih =>
    rw [List.length_append, ← Nat.add_assoc, ← reader.last_eq hblock] at hb
    rw [List.append_assoc, List.cons_append]
    exact .block hblock (ih hb)

section

variable (h : Blocks reader index l ws)

include h

theorem bounds : ∀ w ∈ ws,
    index ≤ reader.first w ∧ reader.first w < reader.last w ∧ reader.last w < index + l.length := by
  induction h with
  | nil => simp
  | foreign _ _ ih =>
    intro w hw
    have := ih w hw
    simp only [List.length_cons]
    omega
  | @block w block l ws hblock _ ih =>
    have hlast := reader.last_eq hblock
    have hfirst := reader.first_lt hblock
    rw [List.length_append]
    refine List.forall_mem_cons.mpr ⟨by omega, fun v hv => ?_⟩
    have := ih v hv
    omega

theorem mem_of_block {w : β} (hw : w ∈ ws) {x : α}
    (hx : ∀ block, reader.isBlock w block → x ∈ block) : x ∈ l := by
  induction h with
  | nil => cases hw
  | foreign _ _ ih => exact List.mem_cons_of_mem _ (ih hw)
  | block hblock _ ih =>
    rcases List.mem_cons.mp hw with rfl | hw
    · exact List.mem_append_left _ (hx _ hblock)
    · exact List.mem_append_right _ (ih hw)

/-- A place that no block spans cuts the list in two. -/
theorem cut : ∀ {a b : List α}, l = a ++ b →
    (∀ w ∈ ws, index + a.length ≤ reader.first w ∨ reader.last w < index + a.length) →
    ∃ earlier later, ws = earlier ++ later ∧ Blocks reader index a earlier ∧
      Blocks reader (index + a.length) b later := by
  induction h with
  | nil index =>
    intro a b hab _
    obtain ⟨rfl, rfl⟩ := List.append_eq_nil_iff.mp hab.symm
    exact ⟨[], [], rfl, .nil _, .nil _⟩
  | @foreign index x l ws hx hrest ih =>
    intro a b hab houtside
    cases a with
    | nil =>
      obtain rfl : x :: l = b := hab
      exact ⟨[], ws, rfl, .nil _, .foreign hx hrest⟩
    | cons y a =>
      obtain ⟨rfl, htail⟩ := List.cons.inj hab
      have hlength : index + 1 + a.length = index + (x :: a).length := by
        simp only [List.length_cons]
        omega
      obtain ⟨earlier, later, rfl, ha, hb⟩ := ih htail (by rw [hlength]; exact houtside)
      exact ⟨earlier, later, rfl, .foreign hx ha, hlength ▸ hb⟩
  | @block w block l ws hblock hrest ih =>
    intro a b hab houtside
    cases a with
    | nil =>
      obtain rfl : block ++ l = b := hab
      exact ⟨[], w :: ws, rfl, .nil _, .block hblock hrest⟩
    | cons y a =>
      have hlast := reader.last_eq hblock
      -- the cut lies behind the block, because it lies behind its first line
      have hlong : block.length ≤ (y :: a).length := by
        have hw := houtside w (by simp)
        simp only [List.length_cons] at hw ⊢
        omega
      obtain ⟨rest, hrestEq⟩ := List.prefix_of_prefix_length_le (List.prefix_append block l)
        (hab ▸ List.prefix_append (y :: a) b) hlong
      have hl : l = rest ++ b := by
        rw [← hrestEq, List.append_assoc] at hab
        exact List.append_cancel_left hab
      have hlength : reader.first w + (block ++ rest).length = reader.last w + 1 + rest.length := by
        rw [List.length_append, hlast]
        omega
      rw [← hrestEq, hlength] at houtside ⊢
      obtain ⟨earlier, later, rfl, ha, hb⟩ :=
        ih hl fun v hv => houtside v (List.mem_cons_of_mem w hv)
      exact ⟨w :: earlier, later, rfl, .block hblock ha, hb⟩

theorem shift (k : Nat) :
    Blocks reader (index + k) l (ws.map (reader.shift k)) := by
  induction h with
  | nil => exact .nil _
  | foreign hx _ ih =>
    refine .foreign hx ?_
    rw [Nat.add_right_comm]
    exact ih
  | @block w block l ws hblock _ ih =>
    rw [← reader.first_shift, List.map_cons]
    refine .block (reader.isBlock_shift k hblock) ?_
    rw [reader.last_shift, Nat.add_right_comm]
    exact ih

end

/-- A block takes the place of a stretch that no block touches. -/
theorem replace {block c : List α} {w : β} {k : Nat} (h : Blocks reader index (a ++ (b ++ c)) ws)
    (houtside : ∀ v ∈ ws, index + a.length + b.length ≤ reader.first v ∨
      reader.last v < index + a.length)
    (hblock : reader.isBlock w block) (hfirst : reader.first w = index + a.length)
    (hlast : reader.last w + 1 = index + a.length + b.length + k) :
    ∃ earlier later, ws = earlier ++ later ∧
      Blocks reader index (a ++ (block ++ c)) (earlier ++ w :: later.map (reader.shift k)) := by
  obtain ⟨earlier, rest, rfl, ha, hrest⟩ := h.cut rfl fun v hv => by
    have := houtside v hv
    omega
  obtain ⟨inside, later, rfl, hb, hc⟩ := hrest.cut rfl fun v hv => by
    have := houtside v (List.mem_append_right _ hv)
    have := (hrest.bounds v hv).1
    omega
  -- a block within the stretch would lie neither in front of it nor behind it
  obtain rfl : inside = [] := by
    refine List.eq_nil_iff_forall_not_mem.mpr fun v hv => ?_
    have := houtside v (by simp [hv])
    have := hb.bounds v hv
    omega
  refine ⟨earlier, later, rfl, ha.append ?_⟩
  rw [← hfirst]
  refine .block hblock ?_
  rw [hlast]
  exact hc.shift k

end Blocks

end Fic.Lib
