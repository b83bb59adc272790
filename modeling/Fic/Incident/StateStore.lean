import Fic.Core.StoredFile
import Fic.Incident.Severity

/-!
# The incident state store

`IncidentStateStore` keeps the severity of the incident in one small file.  Its operations
are programs over that file: `read`, the conditional write, the confirmation of a write
whose barrier failed, the durable absence that stands for a broken state, `raiseToAtLeast`
and `clear`.
-/

namespace Fic.Incident

open Fic.Lib Fic.Core
open Fic.Journal (AtomicTargetState)

/-! ## Content -/

/-- `serialize`: the token and a line feed. -/
def serialize (severity : IncidentSeverity) : Bytes := incidentSeverityToken severity ++ lit "\n"

/-- Exactly one line with a known token. -/
def parseStrictSeverity (content : Bytes) : Except Bytes IncidentSeverity :=
  if content.isEmpty then .error (lit "empty content")
  else if content.getLast? ≠ some '\n'.toUInt8 then .error (lit "missing final newline")
  else
    let body := content.dropLast
    if body.isEmpty then .error (lit "empty token")
    else if body.contains '\n'.toUInt8 then .error (lit "multiple lines")
    else if body.contains '#'.toUInt8 then .error (lit "comments are not accepted")
    else
      match parseIncidentSeverityToken body with
      | none => .error (lit "unknown severity token")
      | some severity => .ok severity

theorem parseStrictSeverity_serialize (severity : IncidentSeverity) :
    parseStrictSeverity (serialize severity) = .ok severity := by
  cases severity <;> decide +kernel

/-! ## Results -/

inductive Provenance
  | Proven
  | Absent
  | InvalidContent
  | Broken
  deriving DecidableEq, Repr

structure ReadResult where
  provenance : Provenance := .Broken
  severity : IncidentSeverity := .Unlocked
  detail : Bytes := []
  provenState : Option AtomicTargetState := none
  deriving DecidableEq, Repr

inductive PersistenceResult
  | DurableConfirmed
  | InstalledNotDurable
  | NotInstalled
  | Failed
  deriving DecidableEq, Repr

structure RaiseResult where
  durable : Bool := false
  persistence : PersistenceResult := .Failed
  effectiveSeverity : IncidentSeverity := .Isolate
  escalated : Bool := false
  brokenStatePersisted : Bool := false
  detail : Bytes := []
  installedState : Option AtomicTargetState := none
  deriving DecidableEq, Repr

structure ClearResult where
  ok : Bool := false
  brokenState : Bool := false
  effectiveSeverity : IncidentSeverity := .Standard
  persistence : PersistenceResult := .Failed
  detail : Bytes := []
  deriving DecidableEq, Repr

/-- Who may own the state file. -/
structure StateIdentity where
  expectedStateOwner : Option UInt32 := some 0
  group : Option UInt32 := none
  deriving DecidableEq, Repr

/-! ## Reading -/

def readResult : Stored → ReadResult
  | .absent => { provenance := .Absent }
  | .unprovable detail => { provenance := .Broken, detail }
  | .file state =>
    match parseStrictSeverity state.content with
    | .error reason =>
      { provenance := .InvalidContent, detail := lit "malformed incident state: " ++ reason
        provenState := some state }
    | .ok severity => { provenance := .Proven, severity, provenState := some state }

def read : FileProgram ReadResult := do
  let stored ← readSecureStateFile
  return readResult stored

/-! ## Writing -/

def writeOptions (identity : StateIdentity) (precondition : AtomicTargetState)
    (allowCreate : Bool) : AtomicWriteOptions :=
  { createIfMissing := allowCreate
    exclusiveCreate := allowCreate
    rejectSymlink := true
    metadataPolicy := .EnforceProvided
    fileMode := some (if precondition.mode = 0 then 0o640 else precondition.mode)
    fileOwner := some precondition.owner
    fileGroup := if allowCreate then identity.group else some precondition.group
    expectedTargetState := if allowCreate then none else some precondition }

/-- What `writeLocked` makes of the report of the writer. -/
def writeOutcome (target : IncidentSeverity) (report : Report AtomicWriteResult) : RaiseResult :=
  if !report.result.installed then
    { durable := false
      persistence := if report.result.preconditionFailed then .NotInstalled else .Failed
      detail := if report.result.preconditionFailed then
          lit "incident state changed before the conditional write"
        else if report.error.isEmpty then lit "incident state write failed before replacement"
        else lit "incident state write failed: " ++ report.error }
  else if report.succeeded && report.result.durabilityConfirmed then
    { durable := true, persistence := .DurableConfirmed, effectiveSeverity := target
      escalated := true, installedState := report.result.installedTargetState }
  else
    { durable := false, persistence := .InstalledNotDurable, effectiveSeverity := target
      escalated := true, installedState := report.result.installedTargetState
      detail := lit "incident state installed but parent fsync failed" }

def writeLocked (identity : StateIdentity) (precondition : AtomicTargetState)
    (target : IncidentSeverity) (allowCreate : Bool) : FileProgram RaiseResult := do
  let report ← AtomicFileWriter.writeWithResult (serialize target)
    (writeOptions identity precondition allowCreate)
  return writeOutcome target report

def confirmInstalledDurability (result : RaiseResult) : FileProgram RaiseResult :=
  match result.installedState with
  | none => return result
  | some installed => do
    let report ← AtomicFileWriter.ensureTargetDurableIfCurrentState installed
    if !report.succeeded then
      return { result with
        durable := false, effectiveSeverity := .Isolate, brokenStatePersisted := false
        detail := lit "incident state durability could not be confirmed: " ++ report.error }
    else
      return { result with durable := true, persistence := .DurableConfirmed, detail := [] }

/-! ## The durable absence -/

/-- The result of a removal that cannot be proven. -/
def notBroken (detail : Bytes) : RaiseResult := { detail }

def encodeDurableBrokenStateLocked (expected : Option AtomicTargetState) :
    FileProgram RaiseResult := do
  let current ← read
  if current.provenance = .Absent then
    let report ← AtomicFileWriter.ensureTargetAbsentDurableIfCurrentState
    if !report.succeeded then
      return notBroken (lit "incident state absence is not durable: " ++ report.error)
    else
      return { durable := true, brokenStatePersisted := true, effectiveSeverity := .Isolate
               persistence := .DurableConfirmed
               detail := lit "incident state is already durably absent" }
  else
    match current.provenance, current.provenState with
    | .Proven, some state =>
      if expected.any (· ≠ state) then
        return notBroken (lit "installed incident state was replaced before BROKEN fallback")
      else
        let removed ← AtomicFileWriter.removeIfCurrentState state
        if !removed.succeeded then
          return notBroken
            (lit "could not remove the proven incident state object: " ++ removed.error)
        else if removed.result.preconditionFailed || !removed.result.removed then
          return notBroken (if removed.result.preconditionFailed then
            lit "incident state object changed before removal; nothing deleted"
            else lit "incident state object was not removed")
        else if !removed.result.durabilityConfirmed then
          return notBroken (lit "incident state removal is not durable")
        else
          let barrier ← AtomicFileWriter.ensureTargetAbsentDurableIfCurrentState
          if !barrier.succeeded then
            return notBroken
              (lit "incident state absence could not be proven durable: " ++ barrier.error)
          else
            return { durable := true, brokenStatePersisted := true, effectiveSeverity := .Isolate
                     persistence := .DurableConfirmed
                     detail := lit "incident encoded as durably absent BROKEN_STATE" }
    | _, _ =>
      return notBroken
        (lit "incident state object is not provable and was not removed: " ++ current.detail)

def encodeDurableBrokenState : FileProgram RaiseResult := encodeDurableBrokenStateLocked none

/-! ## Raising -/

def MAX_RAISE_ATTEMPTS : Nat := 8

/-- The result of a raise that finds no proven state. -/
def raiseFailure (detail : Bytes) : RaiseResult :=
  { effectiveSeverity := .Isolate, persistence := .Failed, detail }

/-- The loop of `raiseToAtLeast`.  A proven read always holds the state it has proven. -/
def raiseLoop (identity : StateIdentity) (requested : IncidentSeverity) :
    Nat → FileProgram RaiseResult
  | 0 => return raiseFailure (lit "incident state raise did not converge")
  | attempts + 1 => do
    let current ← read
    if current.provenance = .Broken ∨ current.provenance = .InvalidContent then
      return raiseFailure current.detail
    else if current.provenance = .Absent then encodeDurableBrokenStateLocked none
    else
      let target := maxIncidentSeverity current.severity requested
      if target = current.severity then
        return { durable := true, persistence := .DurableConfirmed
                 effectiveSeverity := current.severity, escalated := false }
      else
        let written ← writeLocked identity (current.provenState.getD {}) target false
        match written.persistence with
        | .DurableConfirmed => return written
        | .InstalledNotDurable => do
          let confirmed ← confirmInstalledDurability written
          if confirmed.durable then return confirmed
          else encodeDurableBrokenStateLocked written.installedState
        | .NotInstalled => raiseLoop identity requested attempts
        | .Failed => encodeDurableBrokenStateLocked none

def raiseToAtLeast (identity : StateIdentity) (requested : IncidentSeverity) :
    FileProgram RaiseResult := raiseLoop identity requested MAX_RAISE_ATTEMPTS

/-! ## Clearing -/

/-- What the write of `clear` expects; without a predecessor only metadata. -/
def clearPrecondition (identity : StateIdentity) (current : ReadResult) : AtomicTargetState :=
  match current.provenState with
  | some state => state
  | none => { mode := 0o640, owner := identity.expectedStateOwner.getD 0 }

/-- Confirms a write whose barrier failed. -/
def confirmIfInstalled (written : RaiseResult) : FileProgram RaiseResult :=
  if written.persistence = .InstalledNotDurable then confirmInstalledDurability written
  else return written

/-- The end of a clear whose new state may be published: a broken state. -/
def clearBroken (installed : Option AtomicTargetState) : FileProgram ClearResult := do
  let broken ← encodeDurableBrokenStateLocked installed
  return { effectiveSeverity := .Isolate, brokenState := true, persistence := broken.persistence
           detail := lit "clear failed; " ++ broken.detail }

/-- The compensation of a downgrade that was published and is not durable. -/
def clearCompensate (identity : StateIdentity) (current : ReadResult)
    (installed : AtomicTargetState) : FileProgram ClearResult :=
  if current.provenance = .Proven then do
    let restored ← writeLocked identity installed current.severity false
    let restored ← confirmIfInstalled restored
    if restored.durable then
      return { effectiveSeverity := current.severity, persistence := restored.persistence
               detail := lit "clear failed; previous incident restored durably" }
    else clearBroken (restored.installedState.or (some installed))
  else clearBroken (some installed)

/-- What `clear` does behind its write. -/
def clearFinish (identity : StateIdentity) (current : ReadResult) (written : RaiseResult) :
    FileProgram ClearResult := do
  let written ← confirmIfInstalled written
  if written.durable then
    return { ok := true, persistence := written.persistence, effectiveSeverity := .Unlocked
             detail := written.detail }
  else
    match written.installedState with
    | some installed => clearCompensate identity current installed
    | none =>
      let after ← read
      return { effectiveSeverity := if after.provenance = .Proven then after.severity else .Isolate
               brokenState := after.provenance ≠ .Proven
               persistence := written.persistence, detail := written.detail }

def clear (identity : StateIdentity) : FileProgram ClearResult := do
  let current ← read
  if current.provenance = .Broken then
    return { brokenState := true, effectiveSeverity := .Isolate, persistence := .NotInstalled
             detail := lit "incident state is not provable: " ++ current.detail }
  else if current.provenance = .Proven ∧ current.severity = .Unlocked then
    return { ok := true, persistence := .DurableConfirmed, effectiveSeverity := .Unlocked }
  else
    let written ← writeLocked identity (clearPrecondition identity current) .Unlocked
      (current.provenance = .Absent)
    clearFinish identity current written

end Fic.Incident
