import Fic.Journal.Codec.Record

/-!
# The journal and its file

A journal object keeps the records it last published in memory and replaces the
whole document in its file with every change.  `Journal.commit` is the end of
every operation of `MutationJournal.cpp`: the change is already made in memory,
the document is written, and what happens next depends on how the write ended.

The file is the JSON value of its content.  The text between the two is lossless
on valid UTF-8, and the writer throws on anything else.
-/

namespace Fic.Journal

open Fic.Lib

variable {record : MutationRecord} {i : Nat}

inductive JournalHealth
  | Healthy
  | Indeterminate
  deriving DecidableEq, Repr

structure Journal where
  records : List MutationRecord := []
  nextId : UInt64 := 1
  loaded : Bool := false
  lifecycleInitialized : Bool := false
  health : JournalHealth := .Healthy
  file : Option Json := none

variable {j : Journal}

inductive PersistOutcome
  | Persisted
  | NotInstalled
  | Indeterminate
  deriving DecidableEq, Repr

/-- The clock and the outcome of the write during one operation. -/
structure Env where
  now : Int64
  write : PersistOutcome

/-- How an operation ends.  A write that fails leaves its text to the writer. -/
inductive Reply
  | success (id : UInt64)
  | refused (error : Bytes)
  | notPersisted
  | threw
  deriving DecidableEq, Repr

def Reply.isSuccess : Reply → Bool
  | .success _ => true
  | .refused _ | .notPersisted | .threw => false

abbrev Outcome := Journal × Reply

namespace Journal

def usable (j : Journal) : Bool := j.loaded && j.health = .Healthy

def kSchemaVersion : UInt64 := 3

def document (j : Journal) : Json :=
  .mkObject
    [(lit "schema_version", .unsigned kSchemaVersion), (lit "next_id", .unsigned j.nextId),
      (lit "records", .array (j.records.map serializeRecord))]

/-! ## Records -/

def find (j : Journal) (id : UInt64) : Option (Nat × MutationRecord) :=
  (j.records.findIdx? fun record => record.id = id).bind fun i =>
    j.records[i]?.map fun record => (i, record)

def setRecord (j : Journal) (i : Nat) (record : MutationRecord) : Journal :=
  { j with records := j.records.set i record }

variable {id : UInt64}

theorem find_eq_some : j.find id = some (i, record) ↔
      j.records[i]? = some record ∧ record.id = id ∧
        ∀ k < i, ∀ r, j.records[k]? = some r → r.id ≠ id := by
  unfold find
  constructor
  · intro h
    obtain ⟨k, hk, h⟩ := Option.bind_eq_some_iff.mp h
    obtain ⟨r, hr, h⟩ := Option.map_eq_some_iff.mp h
    obtain ⟨rfl, rfl⟩ := Prod.mk.inj h
    obtain ⟨hlt, heq, hbefore⟩ := List.findIdx?_eq_some_iff_getElem.mp hk
    have hget : j.records[k] = r := by
      rw [List.getElem?_eq_getElem hlt] at hr
      exact Option.some.inj hr
    refine ⟨hr, by rw [hget] at heq; simpa using heq, ?_⟩
    intro m hm r' hr'
    have hmlt : m < j.records.length := by omega
    rw [List.getElem?_eq_getElem hmlt] at hr'
    have := hbefore m hm
    rw [Option.some.inj hr'] at this
    simpa using this
  · rintro ⟨hr, hid, hbefore⟩
    obtain ⟨hlt, hget⟩ := List.getElem?_eq_some_iff.mp hr
    have hidx : (j.records.findIdx? fun record => record.id = id) = some i := by
      refine List.findIdx?_eq_some_iff_getElem.mpr ⟨hlt, by simpa [hget] using hid, ?_⟩
      intro m hm
      have hmlt : m < j.records.length := by omega
      simpa using hbefore m hm _ (List.getElem?_eq_getElem hmlt)
    rw [hidx]
    simp [hr]

section

variable (h : j.find id = some (i, record))

include h

theorem getElem?_of_find : j.records[i]? = some record :=
  (find_eq_some.mp h).1

theorem id_of_find : record.id = id :=
  (find_eq_some.mp h).2.1

theorem find?_of_find :
    (j.records.find? fun r => r.id = id) = some record := by
  obtain ⟨hr, hid, hbefore⟩ := find_eq_some.mp h
  obtain ⟨hlt, hget⟩ := List.getElem?_eq_some_iff.mp hr
  refine List.find?_eq_some_iff_getElem.mpr ⟨by simpa using hid, i, hlt, hget, ?_⟩
  intro k hk
  have hklt : k < j.records.length := by omega
  simpa using hbefore k hk _ (List.getElem?_eq_getElem hklt)

end

@[simp] theorem setRecord_setRecord (j : Journal) (i : Nat) (a b : MutationRecord) :
    (j.setRecord i a).setRecord i b = j.setRecord i b := by
  simp [setRecord]

theorem setRecord_self (h : j.records[i]? = some record) : j.setRecord i record = j := by
  obtain ⟨hlt, hget⟩ := List.getElem?_eq_some_iff.mp h
  unfold setRecord
  rw [← hget, List.set_getElem_self]

theorem find_setRecord {changed : MutationRecord} (h : j.find id = some (i, record))
    (hid : changed.id = id) : (j.setRecord i changed).find id = some (i, changed) := by
  obtain ⟨hr, -, hbefore⟩ := find_eq_some.mp h
  obtain ⟨hlt, -⟩ := List.getElem?_eq_some_iff.mp hr
  refine find_eq_some.mpr ⟨by simp [setRecord, hlt], hid, ?_⟩
  intro k hk r hkr
  refine hbefore k hk r ?_
  rwa [setRecord, List.getElem?_set_ne (by omega)] at hkr

theorem find_of_nodup (hn : (j.records.map (·.id)).Nodup) (h : j.records[i]? = some record) :
    j.find record.id = some (i, record) := by
  refine find_eq_some.mpr ⟨h, rfl, ?_⟩
  intro k hk r hr hid
  have hi : (j.records.map (·.id))[i]? = some record.id := by simp [h]
  have hk' : (j.records.map (·.id))[k]? = some record.id := by simp [hr, hid]
  obtain ⟨hklt, -⟩ := List.getElem?_eq_some_iff.mp hk'
  have heq : k = i := (List.getElem?_inj hklt hn).mp (hk'.trans hi.symm)
  omega

/-- The record stands for the same mutation. -/
def sameIdentity (a b : MutationRecord) : Bool :=
  a.policy = b.policy && a.undo.backend = b.undo.backend && a.resource = b.resource

theorem sameIdentity_iff {a b : MutationRecord} :
    sameIdentity a b = true ↔
      a.policy = b.policy ∧ a.undo.backend = b.undo.backend ∧ a.resource = b.resource := by
  simp [sameIdentity, and_assoc]

/-! ## Writing -/

/-- How the write of the document ends. -/
inductive Written
  | Persisted
  | NotInstalled
  | Indeterminate
  | Threw
  deriving DecidableEq, Repr

/-- A document that was installed is the content of the file, durable or not. -/
def persist (env : Env) (j : Journal) : Written × Journal :=
  if !j.document.isUtf8 then (.Threw, j)
  else
    match env.write with
    | .Persisted => (.Persisted, { j with file := some j.document })
    | .NotInstalled => (.NotInstalled, j)
    | .Indeterminate => (.Indeterminate, { j with file := some j.document })

/-- Writes the document.  A document that was not installed lets the operation
undo its change in memory; an ambiguous one keeps it and poisons the journal. -/
def commit (env : Env) (id : UInt64) (undo : Journal → Journal) (j : Journal) : Outcome :=
  match j.persist env with
  | (.Persisted, j) => (j, .success id)
  | (.NotInstalled, j) => (undo j, .notPersisted)
  | (.Indeterminate, j) => ({ j with health := .Indeterminate }, .notPersisted)
  | (.Threw, j) => (j, .threw)

/-- The end of the operations that change one record; `previous` is the record
before the change. -/
def persistRecordChange (prim : Primitives) (env : Env) (previous : MutationRecord)
    (j : Journal) : Outcome :=
  match j.find previous.id with
  | none => (j, .refused [])
  | some (i, record) =>
    match validSshRecord prim record with
    | .error (.thrown _) => (j, .threw)
    | .error (.refused error) => (j.setRecord i previous, .refused error)
    | .ok () =>
      match validSysctlRecord record with
      | .error error => (j.setRecord i previous, .refused error)
      | .ok () =>
        (j.setRecord i { record with updatedAtEpoch := env.now }).commit env previous.id
          (·.setRecord i previous)

end Journal

/-- The journal is loaded and its last write ended unambiguously. -/
def requireHealthy (indeterminate : Bytes) (j : Journal) : Except Bytes Unit := do
  rejectIf (!j.loaded) (lit "Mutation journal не загружен")
  rejectIf (j.health = .Indeterminate) indeterminate

def kIndeterminate : Bytes :=
  lit ("Mutation journal в состоянии Indeterminate: результат " ++
    "последней persist-операции не был надёжно завершён; " ++
    "требуется успешный reload journal")

/-- Primitives that are enough to run the model on small inputs. -/
def samplePrimitives : Primitives :=
  { lexicallyNormal := id, sha256Hex := fun _ => [], parseJson := fun _ => none }

end Fic.Journal
