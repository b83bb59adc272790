import Fic.Journal.Operations.Status

/-!
# Scope transitions

`ScopeTransition`: which graphical scope is protected is kept in a checkpoint
record of the journal.  `reconcile` runs four stages between the checkpoints it
writes, `invalidate` withdraws a checkpoint, and `requireCommitted` asks whether
a scope is committed.

A stage is a callback.  It answers, and it may work on the journal on its own.
The answers of the stages that ran are kept beside the result.
-/

namespace Fic.Journal

open Fic.Lib

namespace Scope

inductive Domain
  | Desktop
  | DisplayManager
  deriving DecidableEq, Repr

def Domain.policy (domain : Domain) : PolicyRef := scopePolicy (domain = .DisplayManager)

def Domain.resource : Domain → Bytes
  | .Desktop => lit "scope/de"
  | .DisplayManager => lit "scope/dm"

structure ScopeTransitionState where
  committed : List Bytes := []
  target : List Bytes := []
  phase : Bytes := []
  id : UInt64 := 0
  deriving DecidableEq, Repr

def checkpointRecord (domain : Domain) (previous : ScopeTransitionState) (target : List Bytes)
    (phase : Bytes) : MutationRecord :=
  { policy := domain.policy
    resource := domain.resource
    undo :=
      { backend := .Scope
        payload := .ScopeCheckpoint
          { committedScope := previous.committed, targetScope := target, phase } } }

/-- An active record of the domain. -/
def isCheckpoint (domain : Domain) (record : MutationRecord) : Bool :=
  record.isActive && record.undo.backend = .Scope && record.resource = domain.resource

/-- The phase a checkpoint counts as. -/
def shownPhase (status : MutationStatus) (phase : Bytes) : Bytes :=
  let shown :=
    if status = .Applied then lit "committed"
    else if phase = lit "committed" then lit "pending"
    else phase
  if status = .RollbackFailed ∧ shown = lit "pending" then lit "failed" else shown

/-- Reads one record into the state. -/
def readCheckpoint (domain : Domain) (result : ScopeTransitionState) (record : MutationRecord) :
    Except Bytes ScopeTransitionState :=
  if !isCheckpoint domain record then .ok result
  else if record.policy ≠ domain.policy ∨ result.id ≠ 0 then
    .error (lit "Scope checkpoint ownership/identity conflict")
  else
    match record.undo.payload with
    | .ScopeCheckpoint checkpoint =>
      if record.status = .Applied ∧ checkpoint.phase ≠ lit "committed" then
        .error (lit "Scope checkpoint payload mismatch")
      else
        .ok
          { id := record.id
            target := checkpoint.targetScope
            committed :=
              if record.status = .Applied then checkpoint.targetScope
              else checkpoint.committedScope
            phase := shownPhase record.status checkpoint.phase }
    | _ => .error (lit "Scope checkpoint payload mismatch")

def state (domain : Domain) (j : Journal) : Except Bytes ScopeTransitionState :=
  if !j.usable then .error (lit "Scope transition journal is not healthy")
  else j.records.foldlM (readCheckpoint domain) {}

def requireCommitted (domain : Domain) (configured : List Bytes) (j : Journal) :
    Except Bytes Unit := do
  let current ← state domain j
  rejectIf configured.isEmpty (lit "Controlled graphical scope is empty (UNCONFIGURED)")
  rejectIf (current.id = 0 || current.phase ≠ lit "committed" || current.committed ≠ configured)
    (lit "Configured graphical scope has no successfully committed transition")

/-! ## Calls -/

/-- One stage of a transition: its answer, its error, and its work on the
journal. -/
structure Stage where
  answer : Bool
  error : Bytes := []
  effect : Journal → Journal := id

structure ReconcileCall where
  configured : List Bytes
  preflight : Option Stage
  ensure : Option Stage
  release : Option Stage
  verify : Option Stage
  /-- The clock and the write of the pending checkpoint. -/
  pending : Env
  /-- The clock and the write of the checkpoint that ends the transition. -/
  closing : Env
  /-- The clock and the write of its status. -/
  disposition : Env

inductive FailurePhase
  | None
  | State
  | Configuration
  | Preflight
  | CheckpointPrepare
  | Ensure
  | Release
  | Verify
  | CheckpointCommit
  deriving DecidableEq, Repr

inductive Verdict
  | succeeded
  | failed (error : Bytes)
  | threw
  deriving DecidableEq, Repr

/-- The text of a failed operation; that of a failed write is the writer's. -/
def replyText : Reply → Bytes
  | .refused error => error
  | .success _ | .notPersisted | .threw => []

def replyVerdict : Reply → Verdict
  | .success _ => .succeeded
  | .refused error => .failed error
  | .notPersisted => .failed []
  | .threw => .threw

structure Ended where
  journal : Journal
  verdict : Verdict
  failurePhase : FailurePhase := .None
  /-- What the stages that ran have answered, in their order. -/
  answers : List Bool := []

/-- Writes a checkpoint and then its status. -/
def closeCheckpoint (prim : Primitives) (prepare disposition : Env) (record : MutationRecord)
    (status : MutationStatus) (message : Bytes) (j : Journal) : Outcome :=
  match j.prepareMutation prim prepare record with
  | (j, .success id) => j.setStatusWithMessage prim disposition id status message
  | (j, reply) => (j, reply)

def invalidate (prim : Primitives) (domain : Domain) (reason : Bytes) (prepare disposition : Env)
    (j : Journal) : Ended :=
  match state domain j with
  | .error error => { journal := j, verdict := .failed error }
  | .ok previous =>
    if previous.id = 0 then { journal := j, verdict := .succeeded }
    else
      let (j, reply) := closeCheckpoint prim prepare disposition
        (checkpointRecord domain previous previous.target (lit "partial")) .RollbackFailed reason j
      { journal := j, verdict := replyVerdict reply }

/-- The failure of a transition that has read its state. -/
def failTransition (prim : Primitives) (domain : Domain) (call : ReconcileCall)
    (previous : ScopeTransitionState) (phase reason : Bytes) (failurePhase : FailurePhase)
    (answers : List Bool) (j : Journal) : Ended :=
  let (j, reply) := closeCheckpoint prim call.closing call.disposition
    (checkpointRecord domain previous call.configured phase) .RollbackFailed reason j
  let verdict :=
    match reply with
    | .success _ => .failed reason
    | .threw => .threw
    | reply =>
      .failed (reason ++ lit "; checkpoint persistence failed: " ++ replyText reply)
  { journal := j, verdict, failurePhase, answers }

/-- The stages behind the pending checkpoint and the commit. -/
def runStages (prim : Primitives) (domain : Domain) (call : ReconcileCall)
    (previous : ScopeTransitionState) (ensure release verify : Stage) (j : Journal) : Ended :=
  let failed := failTransition prim domain call previous (lit "partial")
  let j := ensure.effect j
  if !ensure.answer then failed ensure.error .Ensure [true, false] j
  else
    let j := release.effect j
    if !release.answer then failed release.error .Release [true, true, false] j
    else
      let j := verify.effect j
      if !verify.answer then failed verify.error .Verify [true, true, true, false] j
      else
        let (j, reply) := closeCheckpoint prim call.closing call.disposition
          (checkpointRecord domain previous call.configured (lit "committed")) .Applied [] j
        { journal := j, verdict := replyVerdict reply
          failurePhase := if reply.isSuccess then .None else .CheckpointCommit
          answers := [true, true, true, true] }

def reconcile (prim : Primitives) (domain : Domain) (call : ReconcileCall) (j : Journal) : Ended :=
  match state domain j with
  | .error error => { journal := j, verdict := .failed error, failurePhase := .State }
  | .ok previous =>
    match call.preflight, call.ensure, call.release, call.verify with
    | some preflight, some ensure, some release, some verify =>
      let failed := failTransition prim domain call previous (lit "failed")
      if call.configured.isEmpty then
        failed (lit "Graphical scope is UNCONFIGURED") .Configuration [] j
      else
        let j := preflight.effect j
        if !preflight.answer then failed preflight.error .Preflight [false] j
        else
          match j.prepareMutation prim call.pending
              (checkpointRecord domain previous call.configured (lit "pending")) with
          | (j, .success _) => runStages prim domain call previous ensure release verify j
          | (j, reply) =>
            { journal := j, verdict := replyVerdict reply, failurePhase := .CheckpointPrepare
              answers := [true] }
    | _, _, _, _ =>
      { journal := j
        verdict := .failed (lit "Scope transition requires all four verification stages")
        failurePhase := .Configuration }

/-! ## Runs -/

inductive Call
  | reconcile (call : ReconcileCall)
  | invalidate (reason : Bytes) (prepare disposition : Env)

/-- What a call has been. -/
inductive Event
  | reconciled (configured : List Bytes) (answers : List Bool)
  | invalidated (ok : Bool)
  deriving DecidableEq, Repr

/-- The second stage ran. -/
def Event.startedEnsure : Event → Bool
  | .reconciled _ answers => 2 ≤ answers.length
  | .invalidated _ => false

def runCall (prim : Primitives) (domain : Domain) (j : Journal) : Call → Journal × Event
  | .reconcile call =>
    let ended := reconcile prim domain call j
    (ended.journal, .reconciled call.configured ended.answers)
  | .invalidate reason prepare disposition =>
    let ended := invalidate prim domain reason prepare disposition j
    (ended.journal, .invalidated (ended.verdict = .succeeded))

/-- The journal behind a sequence of calls, and what they have been. -/
def runCalls (prim : Primitives) (domain : Domain) : List Call → Journal → Journal × List Event
  | [], j => (j, [])
  | call :: calls, j =>
    let (j, event) := runCall prim domain j call
    let (j, events) := runCalls prim domain calls j
    (j, event :: events)

end Scope

end Fic.Journal
