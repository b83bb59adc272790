import Fic.Lib.Bytes

/-!
# Maps with byte-string keys

A `std::map` with string keys: the entries in the order of their keys, which
is the order in which they are iterated and written out.
-/

namespace Fic.Lib

section Lookup

variable {κ α : Type*} [BEq κ] [LawfulBEq κ] {entries : List (κ × α)} {key : κ}

theorem lookup_eq_none : entries.lookup key = none ↔ key ∉ entries.map (·.1) := by
  rw [List.lookup_eq_none_iff]
  simp only [List.mem_map, not_exists, not_and, bne_iff_ne, ne_eq, @eq_comm _ key]

theorem mem_of_lookup {value : α} (h : entries.lookup key = some value) :
    (key, value) ∈ entries := by
  obtain ⟨before, behind, rfl, -⟩ := List.lookup_eq_some_iff.mp h
  simp

end Lookup

/-- The entries of a map, strictly sorted by key. -/
structure OrderedMap (α : Type*) where
  entries : List (Bytes × α)
  sorted : entries.Pairwise fun a b => a.1 < b.1
  deriving DecidableEq

namespace OrderedMap

variable {α : Type*}

def empty : OrderedMap α := ⟨[], .nil⟩

instance : Inhabited (OrderedMap α) := ⟨empty⟩

def find? (m : OrderedMap α) (key : Bytes) : Option α := m.entries.lookup key

def isEmpty (m : OrderedMap α) : Bool := m.entries.isEmpty

theorem eq_empty_of_isEmpty {m : OrderedMap α} (h : m.isEmpty = true) : m = empty := by
  obtain ⟨entries, sorted⟩ := m
  have hnil : entries = [] := by simpa [isEmpty] using h
  subst hnil
  rfl

def size (m : OrderedMap α) : Nat := m.entries.length

/-- Inserts an entry in front of the first greater key; a key that is there
already keeps its value. -/
def insertEntry (key : Bytes) (value : α) : List (Bytes × α) → List (Bytes × α)
  | [] => [(key, value)]
  | entry :: entries =>
    if key < entry.1 then (key, value) :: entry :: entries
    else if key = entry.1 then entry :: entries
    else entry :: insertEntry key value entries

variable {entries : List (Bytes × α)}

variable {key : Bytes} {value : α}

theorem mem_insertEntry {e : Bytes × α} (h : e ∈ insertEntry key value entries) :
    e = (key, value) ∨ e ∈ entries := by
  induction entries with
  | nil => simpa [insertEntry] using h
  | cons entry entries ih =>
    rw [insertEntry] at h
    split_ifs at h
    · simpa using h
    · exact .inr h
    · rcases List.mem_cons.mp h with rfl | h
      · exact .inr List.mem_cons_self
      · exact (ih h).imp_right (List.mem_cons_of_mem _)

theorem sorted_insertEntry (h : entries.Pairwise fun a b => a.1 < b.1) :
    (insertEntry key value entries).Pairwise fun a b => a.1 < b.1 := by
  induction entries with
  | nil => simp [insertEntry]
  | cons entry entries ih =>
    rw [List.pairwise_cons] at h
    rw [insertEntry]
    split_ifs with hlt heq
    · exact List.pairwise_cons.mpr
        ⟨List.forall_mem_cons.mpr ⟨hlt, fun e he => hlt.trans (h.1 e he)⟩, List.pairwise_cons.mpr h⟩
    · exact List.pairwise_cons.mpr h
    · refine List.pairwise_cons.mpr ⟨?_, ih h.2⟩
      intro e he
      rcases mem_insertEntry he with rfl | he
      · exact lt_of_le_of_ne (not_lt.mp hlt) (Ne.symm heq)
      · exact h.1 e he

def insert (m : OrderedMap α) (key : Bytes) (value : α) : OrderedMap α :=
  ⟨insertEntry key value m.entries, sorted_insertEntry m.sorted⟩

/-- The map of a list of entries; the first entry of a key counts. -/
def ofList (entries : List (Bytes × α)) : OrderedMap α :=
  entries.foldl (fun m entry => m.insert entry.1 entry.2) empty

private theorem lookup_cons_ite (key : Bytes) (entry : Bytes × α) (entries : List (Bytes × α)) :
    (entry :: entries).lookup key =
      if key = entry.1 then some entry.2 else entries.lookup key := by
  rw [List.lookup_cons]
  by_cases hkey : key = entry.1
  · simp [hkey]
  · simp [hkey, beq_eq_false_iff_ne.mpr hkey]

theorem lookup_insertEntry {k : Bytes} (h : entries.Pairwise fun a b => a.1 < b.1) :
    (insertEntry k value entries).lookup key =
      (entries.lookup key).or (if key = k then some value else none) := by
  induction entries with
  | nil => simp only [insertEntry, lookup_cons_ite, List.lookup_nil, Option.none_or]
  | cons entry entries ih =>
    rw [List.pairwise_cons] at h
    rw [insertEntry]
    by_cases hlt : k < entry.1
    · rw [if_pos hlt, lookup_cons_ite]
      by_cases hkey : key = k
      · -- a smaller key than the first one is nowhere in the list
        subst hkey
        have hnone : (entry :: entries).lookup key = none := by
          rw [List.lookup_eq_none_iff]
          intro e he
          have hle : key < e.1 := by
            rcases List.mem_cons.mp he with rfl | he
            · exact hlt
            · exact hlt.trans (h.1 e he)
          simpa using hle.ne
        simp [hnone]
      · simp [hkey]
    · rw [if_neg hlt]
      by_cases heq : k = entry.1
      · subst heq
        rw [if_pos rfl, lookup_cons_ite]
        by_cases hkey : key = entry.1
        · simp [hkey]
        · simp [hkey]
      · rw [if_neg heq, lookup_cons_ite, lookup_cons_ite, ih h.2]
        split_ifs <;> simp

theorem find?_insert (m : OrderedMap α) (key k : Bytes) (value : α) :
    (m.insert k value).find? key =
      (m.find? key).or (if key = k then some value else none) :=
  lookup_insertEntry m.sorted

theorem find?_ofList (entries : List (Bytes × α)) (key : Bytes) :
    (ofList entries).find? key = entries.lookup key := by
  have hloop : ∀ (rest : List (Bytes × α)) (m : OrderedMap α),
      (rest.foldl (fun m entry => m.insert entry.1 entry.2) m).find? key =
        (m.find? key).or (rest.lookup key) := by
    intro rest
    induction rest with
    | nil => simp
    | cons entry rest ih =>
      intro m
      rw [List.foldl_cons, ih, find?_insert, lookup_cons_ite, Option.or_assoc]
      split_ifs <;> simp
  rw [ofList, hloop]
  rfl

theorem insertEntry_of_lt (h : ∀ e ∈ entries, e.1 < key) :
    insertEntry key value entries = entries ++ [(key, value)] := by
  induction entries with
  | nil => rfl
  | cons entry entries ih =>
    have hlt : entry.1 < key := h entry List.mem_cons_self
    rw [insertEntry, if_neg hlt.not_gt, if_neg hlt.ne',
      ih fun e he => h e (List.mem_cons_of_mem _ he), List.cons_append]

theorem ofList_entries (m : OrderedMap α) : ofList m.entries = m := by
  obtain ⟨entries, hsorted⟩ := m
  -- the entries read so far are a sorted prefix of all of them
  have hloop : ∀ (rest : List (Bytes × α)) (m : OrderedMap α),
      (m.entries ++ rest).Pairwise (fun a b => a.1 < b.1) →
      (rest.foldl (fun m entry => m.insert entry.1 entry.2) m).entries = m.entries ++ rest := by
    intro rest
    induction rest with
    | nil => simp
    | cons entry rest ih =>
      intro m hpairwise
      have hinsert : (m.insert entry.1 entry.2).entries = m.entries ++ [entry] := by
        refine insertEntry_of_lt fun e he => ?_
        exact (List.pairwise_append.mp hpairwise).2.2 e he entry List.mem_cons_self
      rw [List.foldl_cons, ih, hinsert, List.append_assoc]
      · rfl
      · rw [hinsert, List.append_assoc]
        exact hpairwise
  have := hloop entries empty (by simpa [empty] using hsorted)
  unfold ofList
  cases hfold : entries.foldl (fun m entry => m.insert entry.1 entry.2) empty with
  | mk result _ =>
    rw [hfold] at this
    simpa [empty] using this

end OrderedMap

end Fic.Lib
