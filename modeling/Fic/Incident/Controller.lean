import Fic.Incident.SessionTargetStore
import Fic.Incident.Sessions
import Fic.Lib.Decimal

/-!
# The incident controller

`IncidentController` raises and clears the incident and applies the containment its severity
asks for.  Its methods are programs.  They call the two stores, the session and network
backends, the access gate verifier and the boot id; `remembered` and `remember` stand for
the members of the controller.  `controlMachine` is what these calls do: the files follow the
file machine, and everything else answers what the fault says.

A program ends with a value or throws; the only exception is the one of the JSON writer.
-/

namespace Fic.Incident

open Fic.Lib Fic.Core

/-! ## Results and members -/

inductive RuntimeState
  | Inactive
  | Applying
  | Active
  | Degraded
  | Clearing
  deriving DecidableEq, Repr

structure ContainmentStatus where
  pamGateActive : Bool := false
  sessionsContained : Bool := false
  userRuntimeContained : Bool := false
  networkQuarantined : Bool := false
  deriving DecidableEq, Repr

structure IncidentSource where
  name : Bytes := []
  policyModule : Bytes := []
  policySubmodule : Bytes := []
  policyName : Bytes := []
  deviceId : Bytes := []
  failureOrigin : Bytes := []
  deriving DecidableEq, Repr

structure IncidentResult where
  ok : Bool := false
  ignoredByMode : Bool := false
  previousSeverity : IncidentSeverity := .Unlocked
  effectiveSeverity : IncidentSeverity := .Isolate
  escalated : Bool := false
  persistenceConfirmed : Bool := false
  persistentStateBroken : Bool := false
  runtime : RuntimeState := .Inactive
  detail : Bytes := []
  deriving DecidableEq, Repr

inductive IncidentResponseMode
  | Off
  | Passive
  | Active
  deriving DecidableEq, Repr

/-- The members of a controller, and the flag for the firewall, which lives in its process. -/
structure Memory where
  runtime : RuntimeState := .Inactive
  containment : ContainmentStatus := {}
  incidentGeneration : Option UInt64 := none
  lastNotified : Option IncidentSeverity := none
  lastMode : Option IncidentResponseMode := none
  forcedNetworkQuarantine : Bool := false
  deriving DecidableEq, Repr

structure AuditEvent where
  event : Bytes
  result : IncidentResult
  source : IncidentSource
  reason : Bytes
  deriving DecidableEq, Repr

/-- What a controller is built with. -/
structure Wiring where
  text : TargetStore.JsonText
  identity : StateIdentity := {}
  sessions : Bool := true
  accessGateVerifier : Bool := true
  auditSink : Bool := true
  notifySink : Bool := true

/-! ## Operations -/

structure Verdict where
  holds : Bool := false
  diagnostic : Bytes := []
  deriving DecidableEq, Repr

inductive ControlOp
  | lockstatus (op : FileOp)
  | targets (op : FileOp)
  | remembered
  | remember (memory : Memory)
  | currentIncidentBootId
  | resolveMode
  | accessGateVerifier
  | applyQuarantine (enabled : Bool)
  | listSessions
  | classifySession (session : LoginSession)
  | lockSession (session : LoginSession)
  | verifySessionLocked (session : LoginSession)
  | terminateSession (session : LoginSession)
  | verifySessionsGone (sessions : List LoginSession)
  | lookupProvenUser (uid : UInt32) (expectedCanonicalName : Bytes)
  | terminateUser (user : LoginUser)
  | verifyUserRuntimeGone (user : LoginUser)
  | auditSink (event : AuditEvent)
  | notifySink (severity : IncidentSeverity) (reason : Bytes)

/-- The access gate verifier may throw. -/
abbrev ControlOp.Answer : ControlOp → Type
  | .lockstatus op => op.Answer
  | .targets op => op.Answer
  | .remembered => Memory
  | .remember _ => Unit
  | .currentIncidentBootId => Bytes
  | .resolveMode => IncidentResponseMode
  | .accessGateVerifier => Option Verdict
  | .applyQuarantine _ => Verdict
  | .listSessions => SessionInventoryResult
  | .classifySession _ => SessionKind
  | .lockSession _ => ContainmentOutcome
  | .verifySessionLocked _ => Verdict
  | .terminateSession _ => ContainmentOutcome
  | .verifySessionsGone _ => Verdict
  | .lookupProvenUser _ _ => RegisteredUserLookup
  | .terminateUser _ => ContainmentOutcome
  | .verifyUserRuntimeGone _ => Verdict
  | .auditSink _ => Unit
  | .notifySink _ _ => Unit

abbrev ControlM := OptionT (Program ControlOp ControlOp.Answer)

def call (op : ControlOp) : ControlM op.Answer := OptionT.lift (Program.ask op)

def onLockstatus {α : Type} (p : FileProgram α) : ControlM α :=
  OptionT.lift (p.interpret fun op => Program.ask (ControlOp.lockstatus op))

def onTargets {α : Type} (p : FileProgram α) : ControlM α :=
  OptionT.lift (p.interpret fun op => Program.ask (ControlOp.targets op))

def onTargetsThrowing {α : Type} (p : FileProgram (Option α)) : ControlM α :=
  OptionT.mk (p.interpret fun op => Program.ask (ControlOp.targets op))

def remembered : ControlM Memory := call .remembered

def update (f : Memory → Memory) : ControlM Unit := do
  let memory ← remembered
  call (.remember (f memory))

def currentIncidentBootId : ControlM Bytes := call .currentIncidentBootId

def resolveMode : ControlM IncidentResponseMode := call .resolveMode

def applyQuarantine (enabled : Bool) : ControlM Verdict := call (.applyQuarantine enabled)

namespace Backend

def listSessions : ControlM SessionInventoryResult := call .listSessions

def classifySession (session : LoginSession) : ControlM SessionKind :=
  call (.classifySession session)

def lockSession (session : LoginSession) : ControlM ContainmentOutcome :=
  call (.lockSession session)

def verifySessionLocked (session : LoginSession) : ControlM Verdict :=
  call (.verifySessionLocked session)

def terminateSession (session : LoginSession) : ControlM ContainmentOutcome :=
  call (.terminateSession session)

def verifySessionsGone (sessions : List LoginSession) : ControlM Verdict :=
  call (.verifySessionsGone sessions)

def lookupProvenUser (uid : UInt32) (expectedCanonicalName : Bytes) :
    ControlM RegisteredUserLookup := call (.lookupProvenUser uid expectedCanonicalName)

def terminateUser (user : LoginUser) : ControlM ContainmentOutcome := call (.terminateUser user)

def verifyUserRuntimeGone (user : LoginUser) : ControlM Verdict :=
  call (.verifyUserRuntimeGone user)

end Backend

def readState : ControlM ReadResult := onLockstatus read

def readTargets (w : Wiring) : ControlM TargetStore.ReadResult :=
  onTargets (TargetStore.read w.text)

def writeTargets (w : Wiring) (expected : TargetStore.ReadResult) (document : TargetDocument) :
    ControlM TargetStore.WriteResult :=
  onTargetsThrowing (TargetStore.writeIfCurrent w.text w.identity expected document)

/-! ## The generation of an incident -/

structure TargetRegistration where
  ok : Bool := false
  detail : Bytes := []
  deriving DecidableEq, Repr

/-- The generation behind the one in the store; nothing on overflow. -/
def nextGeneration (store : TargetStore.ReadResult) : Option UInt64 :=
  if store.provenance = .Proven then
    if store.document.incidentGeneration.toNat = 2 ^ 64 - 1 then none
    else some (store.document.incidentGeneration + 1)
  else some 1

def fenceNewIncident (w : Wiring) : ControlM TargetRegistration := do
  let bootId ← currentIncidentBootId
  if bootId.isEmpty then return { detail := lit "kernel boot id is unprovable" }
  else
    let store ← readTargets w
    if store.provenance = .Unprovable then
      return { detail := lit "target store is unprovable: " ++ store.detail }
    else
      match nextGeneration store with
      | none => return { detail := lit "incident generation overflow" }
      | some incidentGeneration =>
        let written ← writeTargets w store { bootId, incidentGeneration }
        if !written.durable then return { detail := written.detail }
        else
          update ({ · with incidentGeneration := some incidentGeneration })
          return { ok := true }

/-- Adopts the generation in the store; a store of a previous boot is emptied first. -/
def adoptGeneration (w : Wiring) (bootId : Bytes) (store : TargetStore.ReadResult) :
    ControlM TargetRegistration := do
  if store.document.bootId ≠ bootId then
    let rebased ← writeTargets w store
      { bootId, incidentGeneration := store.document.incidentGeneration }
    if !rebased.durable then
      return { detail := lit "previous-boot target rebase failed: " ++ rebased.detail }
    else
      update ({ · with incidentGeneration := some store.document.incidentGeneration })
      return { ok := true }
  else
    update ({ · with incidentGeneration := some store.document.incidentGeneration })
    return { ok := true }

/-- Why an active incident cannot use the store. -/
def unprovenStore (store : TargetStore.ReadResult) : Bytes :=
  if store.provenance = .Absent then lit "target store is absent during an active incident"
  else lit "target store is unprovable: " ++ store.detail

def prepareActiveTargetStore (w : Wiring) : ControlM TargetRegistration := do
  let state ← readState
  if state.provenance ≠ .Proven ∨ incidentSeverityIsUnlocked state.severity then
    return { detail := lit "active lockstatus is not proven" }
  else
    let bootId ← currentIncidentBootId
    if bootId.isEmpty then return { detail := lit "kernel boot id is unprovable" }
    else
      let store ← readTargets w
      if store.provenance ≠ .Proven then
        return { detail := unprovenStore store }
      else
        let memory ← remembered
        if memory.incidentGeneration.any (· ≠ store.document.incidentGeneration) then
          return { detail := lit "target generation differs from current incident" }
        else adoptGeneration w bootId store

/-! ## Registration -/

def sessionTarget (session : LoginSession) : IncidentSessionTarget :=
  { uid := session.uid, canonicalName := session.user, sessionId := session.id
    sessionStartTimestamp := session.startTimestamp, sessionClass := session.className
    runtimeObligation := .Pending }

/-- Adds one target; nothing if the user is there under another name. -/
def mergeTarget (target : IncidentSessionTarget) :
    List IncidentSessionTarget → Option (List IncidentSessionTarget × Bool)
  | [] => some ([target], true)
  | existing :: merged =>
    if existing.uid = target.uid then
      if existing.canonicalName ≠ target.canonicalName then none
      else if existing.runtimeObligation = .Discharged then
        some ({ existing with
          sessionId := target.sessionId
          sessionStartTimestamp := target.sessionStartTimestamp
          sessionClass := target.sessionClass
          runtimeObligation := .Pending } :: merged, true)
      else some (existing :: merged, false)
    else (mergeTarget target merged).map fun (merged, changed) => (existing :: merged, changed)

/-- The loop of `registerSessionTargets`, with the flag that something has changed. -/
def mergeTargets (merged : List IncidentSessionTarget) (changed : Bool) :
    List IncidentSessionTarget → Option (List IncidentSessionTarget × Bool)
  | [] => some (merged, changed)
  | target :: targets =>
    match mergeTarget target merged with
    | none => none
    | some (merged', changed') => mergeTargets merged' (changed || changed') targets

def registerSessionTargets (w : Wiring) (newTargets : List IncidentSessionTarget) :
    ControlM TargetRegistration := do
  let bootId ← currentIncidentBootId
  if bootId.isEmpty then return { detail := lit "kernel boot id is unprovable" }
  else
    let store ← readTargets w
    let memory ← remembered
    if store.provenance ≠ .Proven ∨ store.document.bootId ≠ bootId ∨
        memory.incidentGeneration ≠ some store.document.incidentGeneration then
      return { detail := lit "current incident target store is unproven" }
    else
      match mergeTargets store.document.targets false newTargets with
      | none => return { detail := lit "target UID identity changed during incident" }
      | some (merged, changed) =>
        if !changed then return { ok := true }
        else
          let written ← writeTargets w store
            { bootId, incidentGeneration := store.document.incidentGeneration, targets := merged }
          return { ok := written.durable, detail := written.detail }

/-! ## Containment of sessions -/

structure Stage where
  contained : Bool := false
  failures : List Bytes := []
  deriving DecidableEq, Repr

def isOrdinaryTarget (session : LoginSession) : Bool :=
  session.ordinary && !session.recovery && session.uid ≠ 0

def verifyAccessGate (w : Wiring) (severity : IncidentSeverity) : ControlM Stage := do
  if severity < .Standard then return {}
  else
    let answer ← (if w.accessGateVerifier then call .accessGateVerifier else pure (some {}) :
      ControlM (Option Verdict))
    let verdict := answer.getD { holds := false, diagnostic := lit "PAM gate verifier failed" }
    return { contained := verdict.holds
             failures := if verdict.holds then []
               else [lit "PAM incident access gate is unproven: " ++ verdict.diagnostic] }

def containNetwork (severity : IncidentSeverity) : ControlM Stage := do
  if severity = .Isolate then
    update ({ · with forcedNetworkQuarantine := true })
    let verdict ← applyQuarantine true
    return { contained := verdict.holds
             failures := if verdict.holds then []
               else [lit "network quarantine failed: " ++ verdict.diagnostic] }
  else
    update ({ · with forcedNetworkQuarantine := false })
    let verdict ← applyQuarantine false
    return { contained := false
             failures := if verdict.holds then []
               else [lit "normal firewall restoration failed: " ++ verdict.diagnostic] }

/-- What the loop over an inventory collects. -/
structure Selection where
  newTargets : List IncidentSessionTarget := []
  toTerminate : List LoginSession := []
  deriving DecidableEq, Repr

/-- Locks a session and verifies the lock. -/
def lockVerified (session : LoginSession) : ControlM Bool := do
  let outcome ← Backend.lockSession session
  if outcome.performed then
    let verdict ← Backend.verifySessionLocked session
    return verdict.holds
  else return false

def selectSessions (severity : IncidentSeverity) : List LoginSession → ControlM Selection
  | [] => return {}
  | session :: sessions => do
    if !isOrdinaryTarget session then selectSessions severity sessions
    else
      let kind ← Backend.classifySession session
      let locked ← (if severity = .Standard ∧ kind = .Graphical then lockVerified session
        else pure false : ControlM Bool)
      let selection ← selectSessions severity sessions
      return { newTargets := sessionTarget session :: selection.newTargets
               toTerminate := if locked then selection.toTerminate
                 else session :: selection.toTerminate }

def terminateSessions : List LoginSession → ControlM (List Bytes)
  | [] => return []
  | session :: sessions => do
    let outcome ← Backend.terminateSession session
    let failures ← terminateSessions sessions
    return (if outcome.performed then []
      else [lit "session termination request failed for " ++ session.id ++ lit ": " ++
        outcome.diagnostic]) ++ failures

structure SessionStage extends Stage where
  targetsUsable : Bool := false
  deriving DecidableEq, Repr

/-- The sessions behind a successful registration. -/
def terminateSelected (toTerminate : List LoginSession) : ControlM SessionStage := do
  let failures ← terminateSessions toTerminate
  let gone ← (if toTerminate.isEmpty then pure { holds := true }
    else Backend.verifySessionsGone toTerminate : ControlM Verdict)
  return { contained := gone.holds, targetsUsable := true
           failures := failures ++ if gone.holds then []
             else [lit "session containment could not be proven: " ++ gone.diagnostic] }

def containSessions (w : Wiring) (severity : IncidentSeverity) (lifecycleOk : Bool) :
    ControlM SessionStage := do
  if severity < .Standard then return { contained := true }
  else if !w.sessions then
    return { failures := [lit "session containment backend is unavailable"] }
  else if !lifecycleOk then return {}
  else
    let inventory ← Backend.listSessions
    if !inventory.proven then
      return { failures := [lit "session inventory is unproven: " ++ inventory.diagnostic,
                 lit "session containment could not be proven: " ++ inventory.diagnostic] }
    else
      let selection ← selectSessions severity inventory.sessions
      let registration ← registerSessionTargets w selection.newTargets
      if !registration.ok then
        return { failures := [lit "durable session target registration failed: " ++
                   registration.detail, lit "session containment could not be proven: "] }
      else terminateSelected selection.toTerminate

/-! ## Containment of users -/

/-- What is made of one target. -/
structure Visit where
  target : IncidentSessionTarget
  proven : Bool := true
  changed : Bool := false
  failures : List Bytes := []
  deriving DecidableEq, Repr

structure Pass where
  obligations : List IncidentSessionTarget := []
  proven : Bool := true
  changed : Bool := false
  failures : List Bytes := []
  deriving DecidableEq, Repr

def passTargets (visit : IncidentSessionTarget → ControlM Visit) :
    List IncidentSessionTarget → ControlM Pass
  | [] => return {}
  | target :: targets => do
    let visited ← visit target
    let pass ← passTargets visit targets
    return { obligations := visited.target :: pass.obligations
             proven := visited.proven && pass.proven
             changed := visited.changed || pass.changed
             failures := visited.failures ++ pass.failures }

def userFailure (what : Bytes) (target : IncidentSessionTarget) (diagnostic : Bytes) : Bytes :=
  what ++ lit " for uid " ++ toDecimal target.uid.toNat ++ lit ": " ++ diagnostic

/-- A discharged target whose user is there again is armed again. -/
def recheckDischarged (target : IncidentSessionTarget) : ControlM Visit := do
  if target.runtimeObligation ≠ .Discharged then return { target }
  else
    let lookup ← Backend.lookupProvenUser target.uid target.canonicalName
    match lookup.status with
    | .Unproven =>
      return { target, proven := false
               failures := [userFailure (lit "discharged user target is unproven") target
                 lookup.diagnostic] }
    | .Found => return { target := { target with runtimeObligation := .Pending }, changed := true }
    | .Absent =>
      let verdict ← Backend.verifyUserRuntimeGone
        { uid := target.uid, name := target.canonicalName }
      return { target, proven := verdict.holds
               failures := if verdict.holds then []
                 else [userFailure (lit "discharged user runtime absence is unproven") target
                   verdict.diagnostic] }

/-- The user that a pending target names; what logind has found keeps its other fields. -/
def targetUser (target : IncidentSessionTarget) (lookup : RegisteredUserLookup) : LoginUser :=
  { (if lookup.status = .Found then lookup.user else {}) with
    uid := target.uid, name := target.canonicalName }

def dischargePending (target : IncidentSessionTarget) : ControlM Visit := do
  if target.runtimeObligation = .Discharged then return { target }
  else
    let lookup ← Backend.lookupProvenUser target.uid target.canonicalName
    if lookup.status = .Unproven then
      return { target, proven := false
               failures := [userFailure (lit "registered user target is unproven") target
                 lookup.diagnostic] }
    else
      let outcome ← Backend.terminateUser (targetUser target lookup)
      let refused := if !outcome.performed && lookup.status = .Found then
        [userFailure (lit "user runtime termination failed") target outcome.diagnostic] else []
      let verdict ← Backend.verifyUserRuntimeGone (targetUser target lookup)
      if verdict.holds then
        return { target := { target with runtimeObligation := .Discharged }, changed := true
                 failures := refused }
      else
        return { target, proven := false
                 failures := refused ++ [userFailure
                   (lit "user runtime containment could not be proven") target verdict.diagnostic] }

/-- The store behind the re-arming. -/
structure Rearm where
  store : TargetStore.ReadResult
  durable : Bool := true
  failures : List Bytes := []
  deriving DecidableEq, Repr

/-- The store still belongs to this boot and to this incident. -/
def storeIsCurrent (store : TargetStore.ReadResult) : ControlM Bool := do
  if store.provenance ≠ .Proven then return false
  else
    let bootId ← currentIncidentBootId
    let memory ← remembered
    return store.document.bootId = bootId &&
      memory.incidentGeneration = some store.document.incidentGeneration

def rearmTargets (w : Wiring) (store : TargetStore.ReadResult)
    (obligations : List IncidentSessionTarget) : ControlM Rearm := do
  let written ← writeTargets w store { store.document with targets := obligations }
  if !written.durable then
    return { store, durable := false
             failures := [lit "re-arming user-runtime obligations could not be made durable: " ++
               written.detail] }
  else
    let store ← readTargets w
    let current ← storeIsCurrent store
    if current && store.document.targets = obligations then return { store }
    else
      return { store, durable := false
               failures := [lit "target store changed after durable re-arm"] }

/-- Writes the discharged obligations. -/
def persistDischarged (w : Wiring) (store : TargetStore.ReadResult)
    (obligations : List IncidentSessionTarget) : ControlM Stage := do
  let bootId ← currentIncidentBootId
  let persisted ← writeTargets w store
    { bootId, incidentGeneration := store.document.incidentGeneration, targets := obligations }
  return { contained := persisted.durable
           failures := if persisted.durable then []
             else [lit "discharging user-runtime obligations could not be made durable: " ++
               persisted.detail] }

/-- Terminates the pending targets of a store and records what is proven. -/
def dischargeTargets (w : Wiring) (rearm : Rearm) (obligations : List IncidentSessionTarget) :
    ControlM Stage := do
  if !rearm.durable then return { contained := false, failures := rearm.failures }
  else
    let pass ← passTargets dischargePending obligations
    let persisted ← (if pass.changed then persistDischarged w rearm.store pass.obligations
      else pure { contained := true } : ControlM Stage)
    return { contained := pass.proven && persisted.contained
             failures := rearm.failures ++ pass.failures ++ persisted.failures }

def containTargets (w : Wiring) (store : TargetStore.ReadResult) : ControlM Stage := do
  let recheck ← passTargets recheckDischarged store.document.targets
  let rearm ← (if recheck.changed then rearmTargets w store recheck.obligations
    else pure { store } : ControlM Rearm)
  let discharged ← dischargeTargets w rearm recheck.obligations
  return { contained := recheck.proven && discharged.contained
           failures := recheck.failures ++ discharged.failures }

/-- Why a store that is not current cannot be used. -/
def storeFailure (store : TargetStore.ReadResult) : Bytes :=
  match store.provenance with
  | .Proven => lit "incident target store changed during containment"
  | .Absent => lit "incident session target store is absent while the incident is unresolved"
  | .Unprovable => lit "incident session target store is unprovable: " ++ store.detail

def containUsers (w : Wiring) (severity : IncidentSeverity) (lifecycleOk targetsUsable : Bool) :
    ControlM Stage := do
  if severity ≠ .Isolate then return { contained := true }
  else if !w.sessions then
    return { failures := [lit "user runtime containment backend is unavailable"] }
  else if !lifecycleOk then return {}
  else
    let store ← readTargets w
    let current ← storeIsCurrent store
    let storeUsable := current && !store.document.bootId.isEmpty
    if !storeUsable || !targetsUsable then
      return { failures := (if storeUsable then [] else [storeFailure store]) ++
                 if targetsUsable then [] else [lit "session target registration is unproven"] }
    else containTargets w store

/-! ## The containment -/

/-- The end of an incident: the reversible measures are taken back. -/
def releaseContainment (severity : IncidentSeverity) : ControlM IncidentResult := do
  update ({ · with forcedNetworkQuarantine := false })
  let verdict ← applyQuarantine false
  let runtime : RuntimeState := if verdict.holds then .Inactive else .Degraded
  update ({ · with
    containment := { sessionsContained := true, userRuntimeContained := true }, runtime })
  return { effectiveSeverity := severity, runtime, ok := runtime = .Inactive
           detail := if verdict.holds then lit "incident cleared"
             else lit "incident cleared but network quarantine removal failed: " ++
               verdict.diagnostic }

/-- Every part that the severity asks for is proven. -/
def containmentComplete (severity : IncidentSeverity) (status : ContainmentStatus)
    (failures : List Bytes) : Bool :=
  failures.isEmpty &&
    (severity < .Standard || (status.pamGateActive && status.sessionsContained)) &&
    (severity ≠ .Isolate || (status.networkQuarantined && status.userRuntimeContained))

def applyContainment (w : Wiring) (severity : IncidentSeverity) (reason : Bytes)
    (allowTargetMutation : Bool) : ControlM IncidentResult := do
  update ({ · with runtime := .Applying })
  let gate ← verifyAccessGate w severity
  if incidentSeverityIsUnlocked severity then releaseContainment severity
  else
    let network ← containNetwork severity
    let lifecycle ← (if allowTargetMutation then prepareActiveTargetStore w
      else pure { detail := lit "incident lifecycle is unproven" } : ControlM TargetRegistration)
    let sessions ← containSessions w severity lifecycle.ok
    let users ← containUsers w severity lifecycle.ok sessions.targetsUsable
    let status : ContainmentStatus :=
      { pamGateActive := gate.contained, sessionsContained := sessions.contained
        userRuntimeContained := users.contained, networkQuarantined := network.contained }
    let failures := gate.failures ++ network.failures ++
      (if lifecycle.ok then []
        else [lit "incident target lifecycle is unproven: " ++ lifecycle.detail]) ++
      sessions.failures ++ users.failures
    let complete := containmentComplete severity status failures
    let runtime : RuntimeState := if complete then .Active else .Degraded
    update ({ · with containment := status, runtime })
    return { effectiveSeverity := severity, runtime, ok := complete
             detail := failures.foldl (fun detail failure => detail ++ lit "; " ++ failure) reason }

end Fic.Incident
