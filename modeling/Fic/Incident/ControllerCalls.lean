import Fic.Incident.Controller

/-!
# The public operations of the controller

`raise`, `clear` and `reconcile`, the system they run on, and the machine that carries out
their calls.  The two files follow the file machine; the boot id is that of the running
kernel or cannot be read; the backends answer anything.
-/

namespace Fic.Incident

open Fic.Lib Fic.Core

namespace Controller

/-! ## Audit and notification -/

def whenever (condition : Bool) (x : ControlM Unit) : ControlM Unit :=
  if condition then x else pure ()

def recordAudit (w : Wiring) (event : Bytes) (result : IncidentResult) (source : IncidentSource)
    (reason : Bytes) : ControlM Unit :=
  whenever w.auditSink (call (.auditSink { event, result, source, reason }))

def notifySeverity (w : Wiring) (severity : IncidentSeverity) (reason : Bytes) : ControlM Unit := do
  let memory ← remembered
  if memory.lastNotified.any (!incidentSeverityLess · severity) then return ()
  else
    update ({ · with lastNotified := some severity })
    whenever w.notifySink (call (.notifySink severity reason))

/-! ## Modes -/

def settleNonActiveMode (mode : IncidentResponseMode) (severity : IncidentSeverity) :
    ControlM IncidentResult := do
  update ({ · with forcedNetworkQuarantine := false })
  let verdict ← applyQuarantine false
  let runtime : RuntimeState := if verdict.holds then .Inactive else .Degraded
  update ({ · with containment := {}, runtime, lastMode := some mode })
  return { ok := verdict.holds, effectiveSeverity := severity, runtime
           detail := if verdict.holds then []
             else lit "reversible containment cleanup failed: " ++ verdict.diagnostic }

/-- The containment in the active mode, its removal in the others. -/
def settle (w : Wiring) (mode : IncidentResponseMode) (severity : IncidentSeverity) (reason : Bytes)
    (allowTargetMutation : Bool) : ControlM IncidentResult :=
  if mode = .Active then applyContainment w severity reason allowTargetMutation
  else settleNonActiveMode mode severity

/-- The severity that a read stands for. -/
def severityOf (state : ReadResult) : IncidentSeverity :=
  if state.provenance = .Proven then state.severity else .Isolate

/-! ## Raising -/

/-- A raise in the mode that ignores incidents. -/
def raiseIgnored : ControlM IncidentResult := do
  let current ← readState
  let ignored ← settleNonActiveMode .Off (severityOf current)
  return { ignored with
    previousSeverity := ignored.effectiveSeverity
    persistentStateBroken := current.provenance ≠ .Proven
    ignoredByMode := true
    detail := lit "incident ignored in OFF mode"
    persistenceConfirmed := false }

/-- A new incident whose generation could not be fenced. -/
def raiseUnfenced (w : Wiring) (mode : IncidentResponseMode) (previousSeverity : IncidentSeverity)
    (fenced : TargetRegistration) (source : IncidentSource) (reason : Bytes) :
    ControlM IncidentResult := do
  let broken ← onLockstatus encodeDurableBrokenState
  let contained ← settle w mode .Isolate (lit "incident generation fencing failed") false
  update ({ · with runtime := .Degraded })
  let result : IncidentResult :=
    { previousSeverity, effectiveSeverity := .Isolate, persistentStateBroken := true
      runtime := .Degraded
      detail := lit "new incident generation could not be fenced: " ++ fenced.detail ++
        lit "; BROKEN_STATE fallback: " ++ broken.detail ++ lit "; " ++ contained.detail }
  recordAudit w (lit "incident_persistence_failed") result source reason
  notifySeverity w .Isolate reason
  return result

/-- A raise whose severity could not be persisted. -/
def raiseUnpersisted (w : Wiring) (mode : IncidentResponseMode) (result : IncidentResult)
    (source : IncidentSource) (reason : Bytes) : ControlM IncidentResult := do
  if mode = .Passive then
    let passive ← settleNonActiveMode mode .Isolate
    let passive := { passive with
      ok := false, previousSeverity := result.previousSeverity, escalated := result.escalated
      persistentStateBroken := true
      detail := lit "incident state could not be persisted in PASSIVE mode" }
    recordAudit w (lit "incident_persistence_failed") passive source reason
    notifySeverity w .Isolate reason
    return passive
  else
    let contained ← applyContainment w .Isolate
      (lit "incident state could not be persisted; containing at ISOLATE") false
    let contained := { contained with
      previousSeverity := result.previousSeverity, escalated := result.escalated
      persistentStateBroken := result.persistentStateBroken, ok := false, runtime := .Degraded
      effectiveSeverity := .Isolate }
    update ({ · with runtime := .Degraded })
    recordAudit w (lit "incident_persistence_failed") contained source reason
    recordAudit w (lit "incident_action_failed") contained source reason
    notifySeverity w .Isolate reason
    return contained

/-- A raise whose severity is durable. -/
def raisePersisted (w : Wiring) (mode : IncidentResponseMode) (result : IncidentResult)
    (source : IncidentSource) (reason : Bytes) : ControlM IncidentResult := do
  if mode = .Passive then
    let passive ← settleNonActiveMode mode result.effectiveSeverity
    let result := { result with
      ok := result.ok && passive.ok, runtime := passive.runtime
      detail := if passive.detail.isEmpty then result.detail else passive.detail }
    recordAudit w (lit "incident_raise") result source reason
    whenever result.escalated (notifySeverity w result.effectiveSeverity reason)
    return result
  else
    update ({ · with lastMode := some .Active })
    let contained ← applyContainment w result.effectiveSeverity reason true
    let result := { result with
      runtime := contained.runtime
      detail := if contained.detail.isEmpty then result.detail else contained.detail
      ok := result.ok && contained.ok }
    recordAudit w (if contained.ok then lit "incident_raise" else lit "incident_action_failed")
      result source reason
    whenever result.escalated (notifySeverity w result.effectiveSeverity reason)
    return result

/-- The raise of the stored severity and what follows from it. -/
def raiseStored (w : Wiring) (mode : IncidentResponseMode) (previousSeverity : IncidentSeverity)
    (requested : IncidentSeverity) (source : IncidentSource) (reason : Bytes) :
    ControlM IncidentResult := do
  let raised ← onLockstatus (raiseToAtLeast w.identity requested)
  let after ← readState
  let result : IncidentResult :=
    { ok := raised.durable, previousSeverity
      effectiveSeverity := if raised.durable then raised.effectiveSeverity else .Isolate
      escalated := raised.escalated, persistenceConfirmed := raised.durable
      persistentStateBroken := after.provenance ≠ .Proven, detail := raised.detail }
  if !raised.durable then raiseUnpersisted w mode result source reason
  else raisePersisted w mode result source reason

def raise (w : Wiring) (requested : IncidentSeverity) (source : IncidentSource) (reason : Bytes) :
    ControlM IncidentResult := do
  let mode ← resolveMode
  if mode = .Off then raiseIgnored
  else
    let before ← readState
    if before.provenance = .Proven ∧ before.severity = .Unlocked ∧
        incidentSeverityIsUnlocked requested = false then
      let fenced ← fenceNewIncident w
      if !fenced.ok then raiseUnfenced w mode (severityOf before) fenced source reason
      else raiseStored w mode (severityOf before) requested source reason
    else raiseStored w mode (severityOf before) requested source reason

/-! ## Clearing -/

/-- A clear that the store refuses. -/
def clearRefused (w : Wiring) (mode : IncidentResponseMode) (result : IncidentResult)
    (persistence : PersistenceResult) (actor : Bytes) : ControlM IncidentResult := do
  let contained ← settle w mode result.effectiveSeverity (lit "failed administrative clear") true
  let runtime : RuntimeState :=
    if persistence ≠ .DurableConfirmed then .Degraded else contained.runtime
  whenever (persistence ≠ .DurableConfirmed) (update ({ · with runtime := .Degraded }))
  let result := { result with runtime, detail := result.detail ++ lit "; " ++ contained.detail }
  recordAudit w (lit "incident_clear") result { name := lit "administrator" }
    (lit "clear refused for actor " ++ actor)
  return result

/-- Empties the target store behind a clear. -/
def cleanTargets (w : Wiring) : ControlM TargetStore.WriteResult := do
  let bootId ← currentIncidentBootId
  let store ← readTargets w
  if bootId.isEmpty then return { detail := lit "kernel boot id is unprovable" }
  else if store.provenance = .Unprovable then
    return { detail := lit "target store is unprovable: " ++ store.detail }
  else
    match nextGeneration store with
    | none => return { detail := lit "incident generation overflow" }
    | some incidentGeneration => writeTargets w store { bootId, incidentGeneration }

/-- A clear that the store has made durable. -/
def clearStored (w : Wiring) (mode : IncidentResponseMode) (result : IncidentResult)
    (actor : Bytes) : ControlM IncidentResult := do
  let cleaned ← cleanTargets w
  update ({ · with incidentGeneration := none })
  let contained ← settle w mode .Unlocked (lit "incident cleared by " ++ actor) true
  whenever (!cleaned.durable) (update ({ · with runtime := .Degraded }))
  update ({ · with lastNotified := none })
  let cleanup := if cleaned.durable then []
    else lit "; incident session target cleanup failed: " ++ cleaned.detail
  let result := { result with
    runtime := if cleaned.durable then contained.runtime else .Degraded
    detail := result.detail ++ cleanup ++ lit "; " ++ contained.detail
    ok := result.ok && contained.ok && cleaned.durable }
  recordAudit w (lit "incident_clear") result { name := lit "administrator" }
    (lit "cleared by " ++ actor)
  whenever (result.ok && result.previousSeverity ≠ .Unlocked && w.notifySink)
    (call (.notifySink .Unlocked (lit "incident cleared by " ++ actor)))
  return result

def clear (w : Wiring) (actor : Bytes) : ControlM IncidentResult := do
  let mode ← resolveMode
  update ({ · with runtime := .Clearing })
  let before ← readState
  let cleared ← onLockstatus (Incident.clear w.identity)
  let after ← readState
  let result : IncidentResult :=
    { ok := cleared.ok, persistenceConfirmed := cleared.ok, previousSeverity := severityOf before
      effectiveSeverity := cleared.effectiveSeverity
      persistentStateBroken := after.provenance ≠ .Proven, detail := cleared.detail }
  if !cleared.ok then clearRefused w mode result cleared.persistence actor
  else clearStored w mode result actor

/-! ## Reconciling -/

def reconcile (w : Wiring) : ControlM IncidentResult := do
  let state ← readState
  let mode ← resolveMode
  let contained ← settle w mode (severityOf state) (lit "startup reconciliation") true
  whenever (mode = .Active) (update ({ · with lastMode := some .Active }))
  let ok := contained.ok && (mode = .Off || state.provenance = .Proven)
  whenever (!ok) (update ({ · with runtime := .Degraded }))
  return { ok, previousSeverity := severityOf state, effectiveSeverity := severityOf state
           persistentStateBroken := state.provenance ≠ .Proven
           runtime := if ok then contained.runtime else .Degraded, detail := contained.detail }

end Controller

/-! ## The system -/

structure System where
  lockstatus : StoredFile
  targets : StoredFile
  bootId : Bytes
  memory : Memory := {}
  deriving DecidableEq, Repr

/-- What the environment does in one call. -/
structure ControlFault where
  file : FileFault := {}
  bootUnreadable : Bool := false
  mode : IncidentResponseMode := .Active
  gate : Option Verdict := some { holds := true }
  verdict : Verdict := { holds := true }
  inventory : SessionInventoryResult := { proven := true }
  kind : SessionKind := .Unknown
  outcome : ContainmentOutcome := { performed := true }
  lookup : RegisteredUserLookup := { status := .Absent }
  deriving DecidableEq, Repr

def controlMachine : Machine ControlOp ControlOp.Answer ControlFault System where
  perform system op fault :=
    match op with
    | .lockstatus op =>
      ((fileMachine.perform system.lockstatus op fault.file).1,
        { system with lockstatus := (fileMachine.perform system.lockstatus op fault.file).2 })
    | .targets op =>
      ((fileMachine.perform system.targets op fault.file).1,
        { system with targets := (fileMachine.perform system.targets op fault.file).2 })
    | .remembered => (system.memory, system)
    | .remember memory => ((), { system with memory })
    | .currentIncidentBootId => (if fault.bootUnreadable then [] else system.bootId, system)
    | .resolveMode => (fault.mode, system)
    | .accessGateVerifier => (fault.gate, system)
    | .applyQuarantine _ => (fault.verdict, system)
    | .listSessions => (fault.inventory, system)
    | .classifySession _ => (fault.kind, system)
    | .lockSession _ => (fault.outcome, system)
    | .verifySessionLocked _ => (fault.verdict, system)
    | .terminateSession _ => (fault.outcome, system)
    | .verifySessionsGone _ => (fault.verdict, system)
    | .lookupProvenUser _ _ => (fault.lookup, system)
    | .terminateUser _ => (fault.outcome, system)
    | .verifyUserRuntimeGone _ => (fault.verdict, system)
    | .auditSink _ => ((), system)
    | .notifySink _ _ => ((), system)

end Fic.Incident
