import Fic.Journal.Operations.Prepare

/-!
# Changing the status of a record

`setStatusWithMessage`, `discardImpl` and the four operations that turn an
unresolved refresh back into its previous side.
-/

namespace Fic.Journal

open Fic.Lib

def sshTransitionPending (p : UndoRemoveSshManagedPolicy) : Bool :=
  p.transition.any fun t => t.phase ≠ .Completed

/-- The payload has an SSH transition under way. -/
def hasPendingSsh : UndoPayload → Bool
  | .RemoveSshManagedPolicy p => sshTransitionPending p
  | _ => false

/-- The payload has typed SYSCTL ownership with a transition or a release. -/
def hasUnresolvedSysctl (undo : UndoAction) : Bool :=
  match undo.backend, undo.payload with
  | .Sysctl, .RemoveManagedSetting p => p.sysctl.any fun x => x.pending || x.release.isSome
  | _, _ => false

namespace Journal

/-! ## Setting the status -/

/-- A global default that is applied has no previous line any more. -/
def withStatus (status : MutationStatus) (record : MutationRecord) : MutationRecord :=
  let payload :=
    match status, record.undo.payload with
    | .Applied, .ReleaseSudoGlobalDefault global =>
      .ReleaseSudoGlobalDefault { global with previousLine := [] }
    | _, payload => payload
  { record with status := status, undo := { record.undo with payload := payload } }

/-- The checks of the record in its new status. -/
def checkStatus (prim : Primitives) (record : MutationRecord) : Reader Unit := do
  ofChecked (checkIf record.isDesktop (validDesktopRecord record))
  ofChecked (checkIf (record.undo.backend = .Scope) (validScopeRecord record))
  ofChecked (checkIf record.isDm (validDmRecord record))
  validSshRecord prim record
  ofChecked (validSysctlRecord record)
  require (!(hasUnresolvedSysctl record.undo && record.status ≠ .Prepared))
    (lit "unresolved SYSCTL transition requires typed completion")

def admitStatus (record : MutationRecord) : Except Bytes Unit := do
  rejectIf (isSssdOwnership record.undo.payload)
    (lit "SSSD I4 disposition requires typed lifecycle API")
  rejectIf (hasPendingSsh record.undo.payload)
    (lit ("SSH transition requires typed completion/no-effect abort; manual recovery " ++
      "for unresolved effects"))

def recordNotFound (id : UInt64) : Bytes :=
  lit "Mutation record не найден: " ++ toDecimal id.toNat

def setStatusWithMessage (prim : Primitives) (env : Env) (id : UInt64)
    (status : MutationStatus) (message : Bytes) (j : Journal) : Outcome :=
  refuseWith .refused (requireHealthy kIndeterminate j) j <|
    match j.find id with
    | none => (j, .refused (recordNotFound id))
    | some (i, previous) =>
      refuseWith .refused (admitStatus previous) j <|
        let record := withStatus status previous
        match checkStatus prim record with
        -- an exception leaves the record behind as it was being checked
        | .error (.thrown _) => (j.setRecord i record, .threw)
        | .error (.refused error) => ((j.setRecord i record).setRecord i previous, .refused error)
        | .ok () =>
          (j.setRecord i { record with error := message, updatedAtEpoch := env.now }).commit env
            id (·.setRecord i previous)

/-! ## Discarding -/

/-- Another active record has its container from this one. -/
def delegatesTo (id : UInt64) (record : MutationRecord) : Bool :=
  record.isActive && record.id ≠ id && record.undo.backend = .Sysctl &&
    match record.undo.payload with
    | .RemoveManagedSetting p => p.sysctl.any fun x => x.legacyContainerOrigin = id
    | _ => false

def admitDiscard (provenInitialNoEffect : Bool) (record : MutationRecord) :
    Except Bytes Unit := do
  rejectIf (hasPendingSsh record.undo.payload && !provenInitialNoEffect)
    (lit "cannot discard unresolved SSH ownership transition")
  rejectIf (hasUnresolvedSysctl record.undo && !provenInitialNoEffect)
    (lit "cannot discard unresolved SYSCTL ownership")
  rejectIf (isSssdOwnership record.undo.payload)
    (lit "SSSD I4 disposition requires typed lifecycle API")

def eraseRecord (j : Journal) (i : Nat) : Journal := { j with records := j.records.eraseIdx i }

def insertRecord (j : Journal) (i : Nat) (record : MutationRecord) : Journal :=
  { j with records := j.records.insertIdx i record }

def discardImpl (env : Env) (provenInitialNoEffect : Bool) (id : UInt64) (j : Journal) :
    Outcome :=
  if j.records.any (delegatesTo id) then
    (j, .refused (lit "legacy SYSCTL container authority is still delegated"))
  else
    refuseWith .refused (requireHealthy kIndeterminate j) j <|
      match j.find id with
      | none => (j, .refused (recordNotFound id))
      | some (i, removed) =>
        refuseWith .refused (admitDiscard provenInitialNoEffect removed) j <|
          (j.eraseRecord i).commit env id (·.insertRecord i removed)

end Journal

end Fic.Journal
