import Fic.Journal.Operations.Ssh
import Fic.Journal.Operations.Sysctl
import Fic.Lib.Counter

/-!
# What an operation can do

Every mutating operation changes the records in memory, validates them, and
writes the document.  `Attempt` says this once: the operation leaves the journal
alone, or stages a change and throws, or commits a change that it takes back if
the document was not installed.  The lemmas below give, for each operation, the
change it stages (`staged`) and what is known about a change that reaches the
write (`written`); everything later about runs of the journal comes from them.
-/

namespace Fic.Journal

open Journal

variable {next : Journal} {w : PersistOutcome} {reply : Reply}

/-- The ways an operation ends, as a function of how its write ends. -/
inductive Attempt (j : Journal) (staged written : Journal → Prop) (f : PersistOutcome → Outcome) :
    Prop
  | quiet (reply : Reply) (failed : reply.isSuccess = false) (eq : ∀ w, f w = (j, reply))
  | thrown (next : Journal) (change : staged next) (eq : ∀ w, f w = (next, .threw))
  | commit (env : Env) (id : UInt64) (undo : Journal → Journal) (next : Journal)
      (change : written next) (restores : undo next = j)
      (eq : ∀ w, f w = next.commit { env with write := w } id undo)

namespace Attempt

variable {j : Journal} {staged staged' written written' : Journal → Prop}
  {f : PersistOutcome → Outcome}

theorem mono (h : Attempt j staged written f) (hs : ∀ next, staged next → staged' next)
    (hw : ∀ next, written next → written' next) : Attempt j staged' written' f := by
  cases h with
  | quiet reply failed eq => exact .quiet reply failed eq
  | thrown next change eq => exact .thrown next (hs next change) eq
  | commit env id undo next change restores eq =>
    exact .commit env id undo next (hw next change) restores eq

theorem refused (failed : reply.isSuccess = false) : Attempt j staged written fun _ => (j, reply) :=
  .quiet reply failed fun _ => rfl

theorem guard {c : Prop} [Decidable c] (failed : reply.isSuccess = false)
    (h : ¬ c → Attempt j staged written f) :
    Attempt j staged written fun w => if c then (j, reply) else f w := by
  by_cases hc : c
  · exact .quiet reply failed fun _ => if_pos hc
  · simpa only [if_neg hc] using h hc

theorem refuseWith {ε : Type} {fault : ε → Reply} {check : Except ε Unit}
    (hfault : ∀ e, (fault e).isSuccess = false) (h : check = .ok () → Attempt j staged written f) :
    Attempt j staged written fun w => Fic.Journal.refuseWith fault check j (f w) := by
  cases check with
  | error e => exact refused (hfault e)
  | ok u => exact h rfl

end Attempt

/-! ## The journal behind an attempt -/

/-- The change stays in memory: the document was installed, or the writer threw. -/
inductive Kept (next : Journal) : PersistOutcome → Outcome → Prop
  | threw (w : PersistOutcome) (notUtf8 : next.document.isUtf8 = false) :
      Kept next w (next, .threw)
  | persisted (id : UInt64) (utf8 : next.document.isUtf8 = true) :
      Kept next .Persisted ({ next with file := some next.document }, .success id)
  | indeterminate (utf8 : next.document.isUtf8 = true) :
      Kept next .Indeterminate
        ({ next with file := some next.document, health := .Indeterminate }, .notPersisted)

theorem Kept.records {outcome : Outcome} (h : Kept next w outcome) :
    outcome.1.records = next.records := by
  cases h <;> rfl

theorem Kept.nextId {outcome : Outcome} (h : Kept next w outcome) :
    outcome.1.nextId = next.nextId := by
  cases h <;> rfl

theorem Journal.commit_cases (next : Journal) (env : Env) (id : UInt64)
    (undo : Journal → Journal) :
    (env.write = .NotInstalled ∧ next.commit env id undo = (undo next, .notPersisted)) ∨
      Kept next env.write (next.commit env id undo) := by
  unfold commit persist
  cases hutf8 : next.document.isUtf8 with
  | false => exact .inr (.threw _ hutf8)
  | true =>
    cases hwrite : env.write with
    | Persisted => exact .inr (.persisted id hutf8)
    | NotInstalled => exact .inl ⟨rfl, rfl⟩
    | Indeterminate => exact .inr (.indeterminate hutf8)

/-- An attempt fails and changes nothing, throws in the middle, or keeps its
change. -/
theorem Attempt.outcome {j : Journal} {staged written : Journal → Prop}
    {f : PersistOutcome → Outcome} (h : Attempt j staged written f) (w : PersistOutcome) :
    ((f w).1 = j ∧ (f w).2.isSuccess = false) ∨
      (∃ next, staged next ∧ f w = (next, .threw)) ∨
      ∃ next, written next ∧ Kept next w (f w) := by
  cases h with
  | quiet reply failed eq => exact .inl (by rw [eq]; exact ⟨rfl, failed⟩)
  | thrown next change eq => exact .inr (.inl ⟨next, change, eq w⟩)
  | commit env id undo next change restores eq =>
    rw [eq]
    rcases next.commit_cases { env with write := w } id undo with ⟨-, hc⟩ | hc
    · exact .inl (by rw [hc]; exact ⟨restores, rfl⟩)
    · exact .inr (.inr ⟨next, change, hc⟩)

/-! ## The ends of the operations -/

namespace Journal

variable {prim : Primitives} {env : Env} {j : Journal} {id : UInt64} {i : Nat}

structure RecordWritten (prim : Primitives) (env : Env) (j : Journal) (i : Nat)
    (changed : MutationRecord) (next : Journal) : Prop where
  validSsh : validSshRecord prim changed = .ok ()
  validSysctl : validSysctlRecord changed = .ok ()
  eq : next = j.setRecord i { changed with updatedAtEpoch := env.now }

/-- The change that `persistRecordChange` leaves behind when the validator throws. -/
structure RecordStaged (prim : Primitives) (j : Journal) (i : Nat) (changed : MutationRecord)
    (next : Journal) : Prop where
  throws : ∃ what, validSshRecord prim changed = .error (.thrown what)
  eq : next = j.setRecord i changed

theorem persistRecordChange_attempt {previous changed : MutationRecord}
    (hfind : j.find previous.id = some (i, previous)) (hid : changed.id = previous.id) :
    Attempt j (RecordStaged prim j i changed) (RecordWritten prim env j i changed)
      fun w => (j.setRecord i changed).persistRecordChange prim
        { env with write := w } previous := by
  have hback : ∀ r, (j.setRecord i r).setRecord i previous = j := by
    intro r
    rw [setRecord_setRecord, setRecord_self (getElem?_of_find hfind)]
  unfold persistRecordChange
  simp only [find_setRecord hfind hid]
  cases hssh : validSshRecord prim changed with
  | error fault =>
    cases fault with
    | thrown what => exact .thrown _ ⟨⟨what, hssh⟩, rfl⟩ fun _ => rfl
    | refused error => exact .quiet (.refused error) rfl fun _ => by simp only [hback]
  | ok =>
    cases hsysctl : validSysctlRecord changed with
    | error error => exact .quiet (.refused error) rfl fun _ => by simp only [hback]
    | ok =>
      refine .commit env previous.id (·.setRecord i previous) _ ⟨hssh, hsysctl, rfl⟩ (hback _) ?_
      intro w
      simp only [setRecord_setRecord]

def SysctlValid (records : List MutationRecord) : Prop :=
  ∀ r ∈ records, validSysctlRecord r = .ok ()

variable {records : List MutationRecord}

theorem sysctlFault_eq_none : sysctlFault records = none ↔ SysctlValid records := by
  unfold sysctlFault SysctlValid
  rw [List.findSome?_eq_none_iff]
  refine forall₂_congr fun r _ => ?_
  cases validSysctlRecord r <;> simp

variable {staged : Journal → Prop}

theorem persistSysctlChange_attempt :
    Attempt j staged (fun next => SysctlValid records ∧ next = { j with records := records })
      fun w => ({ j with records := records }).persistSysctlChange
        { env with write := w } id j.records := by
  unfold persistSysctlChange
  cases hfault : sysctlFault records with
  | some error => exact .quiet (.refused error) rfl fun _ => rfl
  | none =>
    exact .commit env id (restoreRecords j.records) _ ⟨sysctlFault_eq_none.mp hfault, rfl⟩ rfl
      fun _ => rfl

end Journal

end Fic.Journal
