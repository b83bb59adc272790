import Mathlib.Algebra.Group.Nat.Defs
import Mathlib.Data.List.Nodup

/-!
# Ids from a counter

A 64 bit counter that gives out ids: as long as it does not wrap, a new id is above
every id it gave out before.
-/

namespace Fic.Lib

variable {n : UInt64} (hwrap : n ≠ UInt64.ofNat (2 ^ 64 - 1))
include hwrap

theorem toNat_succ : (n + 1).toNat = n.toNat + 1 := by
  have hlt := n.toNat_lt
  have hne : n.toNat ≠ 2 ^ 64 - 1 := fun heq => hwrap (by rw [← heq]; simp)
  rw [UInt64.toNat_add]
  simp
  omega

theorem lt_succ : n < n + 1 := by
  rw [UInt64.lt_iff_toNat_lt, toNat_succ hwrap]
  omega

theorem ids_concat {ids : List UInt64} (hbelow : ∀ id ∈ ids, id < n) (hnodup : ids.Nodup) :
    (∀ id ∈ ids ++ [n], id < n + 1) ∧ (ids ++ [n]).Nodup := by
  have hlt := lt_succ hwrap
  constructor
  · exact List.forall_mem_append.mpr
      ⟨fun id hid => UInt64.lt_trans (hbelow id hid) hlt, List.forall_mem_singleton.mpr hlt⟩
  · -- every id is below the counter, so the new one is new
    refine List.nodup_append.mpr ⟨hnodup, List.nodup_singleton n, fun id hid id' hid' => ?_⟩
    rw [List.mem_singleton.mp hid']
    exact UInt64.ne_of_lt (hbelow id hid)

end Fic.Lib
