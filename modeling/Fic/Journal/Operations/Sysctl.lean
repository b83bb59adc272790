import Fic.Journal.Operations.Status

/-!
# Operations on SYSCTL ownership

All SYSCTL settings live in one file, so at most one of their records may have a
transition under way.  The owners that created the file carry its identity, and
every completed publication gives the new identity to all of them.
-/

namespace Fic.Journal

open Fic.Lib

def sysctlSetting (record : MutationRecord) : Option UndoRemoveManagedSetting :=
  match record.undo.payload with
  | .RemoveManagedSetting p => some p
  | _ => none

def SysctlSettingState.unresolved (x : SysctlSettingState) : Bool := x.pending || x.release.isSome

/-- An active SYSCTL record whose transition blocks every other one. -/
def blocksSysctl (record : MutationRecord) : Bool :=
  record.isActive && record.undo.backend = .Sysctl &&
    match sysctlSetting record with
    | none => true
    | some p => record.status = .Prepared || p.sysctl.any (·.unresolved)

def MutationRecord.withSetting (record : MutationRecord) (p : UndoRemoveManagedSetting) :
    MutationRecord :=
  { record with undo := { record.undo with payload := .RemoveManagedSetting p } }

def AtomicTargetState.identity (s : AtomicTargetState) : SysctlContainerIdentity :=
  { device := s.device, inode := s.inode }

/-- A typed setting without its transition. -/
def SysctlSettingState.settled (x : SysctlSettingState) : SysctlSettingState :=
  { x with pending := false, hadApplied := false, attempted := false, targetValue := [] }

/-- The setting after its transition: a legacy one is legacy again. -/
def SysctlSettingState.resolved (x : SysctlSettingState) : Option SysctlSettingState :=
  if x.previousLegacy then none else some x.settled

namespace Journal

/-! ## The ends of the operations -/

/-- The first record that fails its check. -/
def sysctlFault (records : List MutationRecord) : Option Bytes :=
  records.findSome? fun record =>
    match validSysctlRecord record with
    | .error error => some error
    | .ok () => none

def restoreRecords (previous : List MutationRecord) (j : Journal) : Journal :=
  { j with records := previous }

def persistSysctlChange (env : Env) (id : UInt64) (previous : List MutationRecord)
    (j : Journal) : Outcome :=
  match sysctlFault j.records with
  | some error => (j.restoreRecords previous, .refused error)
  | none => j.commit env id (restoreRecords previous)

/-! ## Preparing -/

/-- The search for the predecessor; all SYSCTL records have to be resolved, and
the policy's own one has to be the Applied record of this key. -/
def sysctlPredecessor (policy : PolicyRef) (key : Bytes) :
    Nat → Option (Nat × MutationRecord) → List MutationRecord →
      Except Bytes (Option (Nat × MutationRecord))
  | _, old, [] => .ok old
  | i, old, r :: rest =>
    if !(r.isActive && r.undo.backend = .Sysctl) then
      sysctlPredecessor policy key (i + 1) old rest
    else if blocksSysctl r then .error (lit "unresolved shared SYSCTL transaction")
    else if r.policy ≠ policy then sysctlPredecessor policy key (i + 1) old rest
    else if old.isSome || r.resource ≠ key ||
        (sysctlSetting r).any (fun p => p.key ≠ key) || r.status ≠ .Applied then
      .error (lit "SYSCTL predecessor mismatch")
    else sysctlPredecessor policy key (i + 1) (some (i, r)) rest

/-- A legacy origin is an untyped SYSCTL record. -/
def validLegacyOrigin (legacyOrigin : UInt64) (j : Journal) : Bool :=
  legacyOrigin = 0 ||
    match j.find legacyOrigin with
    | none => false
    | some (_, origin) =>
      origin.undo.backend = .Sysctl &&
        (sysctlSetting origin).any fun p => p.sysctl.isNone

/-- The state of a transition that starts from nothing. -/
def freshSysctlState (target : Bytes) (created : Bool) (legacyOrigin : UInt64)
    (container : Option AtomicTargetState) : SysctlSettingState :=
  { containerCreated := created
    legacyContainerOrigin := legacyOrigin
    pending := true
    targetValue := target
    containerIdentity := if created then container.map (·.identity) else none }

/-- The state of a transition over an applied setting. -/
def refreshSysctlState (state : SysctlSettingState) (old : MutationRecord)
    (p : UndoRemoveManagedSetting) : SysctlSettingState :=
  match p.sysctl with
  | none =>
    { state with
      hadApplied := true, previousLegacy := true, containerIdentity := none
      containerCreated := false, legacyContainerOrigin := old.id }
  | some x => { state with hadApplied := true, containerIdentity := x.containerIdentity }

def prepareSysctl (prim : Primitives) (env : Env) (policy : PolicyRef) (key target : Bytes)
    (created : Bool) (legacyOrigin : UInt64) (container : Option AtomicTargetState)
    (j : Journal) : Outcome :=
  if !j.usable || !j.lifecycleInitialized || policy.moduleName ≠ lit "SYSCTL" ||
      key.isEmpty || target.isEmpty then
    (j, .refused (lit "SYSCTL journal admission failed"))
  else
    match sysctlPredecessor policy key 0 none j.records with
    | .error error => (j, .refused error)
    | .ok old =>
      if !validLegacyOrigin legacyOrigin j then
        (j, .refused (lit "invalid legacy SYSCTL release origin"))
      else
        let state := freshSysctlState target created legacyOrigin container
        match old with
        | some (i, previous) =>
          match sysctlSetting previous with
          | none => (j, .threw) -- the predecessor has a setting
          | some p =>
            if p.sysctl.any fun x =>
                x.containerCreated ≠ created || x.legacyContainerOrigin ≠ legacyOrigin then
              (j, .refused (lit "SYSCTL refresh changed container authority"))
            else
              let record := previous.withSetting
                { p with sysctl := some (refreshSysctlState state previous p) }
              (j.setRecord i { record with status := .Prepared, error := [] }).persistRecordChange
                prim env previous
        | none =>
          j.prepareMutation prim env
            { policy := policy
              resource := key
              undo :=
                { backend := .Sysctl
                  payload := .RemoveManagedSetting
                    { key := key, appliedValue := target, sysctl := some state } } }

/-! ## Completing and aborting -/

/-- The setting of an unresolved transition, and the position of its record. -/
def pendingSysctl (j : Journal) (id : UInt64) :
    Option (Nat × MutationRecord × UndoRemoveManagedSetting × SysctlSettingState) :=
  match j.find id with
  | none => none
  | some (i, r) =>
    match sysctlSetting r with
    | none => none
    | some p =>
      match p.sysctl with
      | none => none
      | some x =>
        if j.usable && r.undo.backend = .Sysctl && r.status = .Prepared && x.pending then
          some (i, r, p, x)
        else none

/-- An owner that created the file carries the identity it has now. -/
def publishIdentity (env : Env) (identity : SysctlContainerIdentity) (owner : MutationRecord) :
    MutationRecord :=
  match owner.undo.backend, owner.undo.payload with
  | .Sysctl, .RemoveManagedSetting p =>
    match p.sysctl with
    | some x =>
      if owner.isActive && x.containerCreated then
        { owner.withSetting { p with sysctl := some { x with containerIdentity := some identity } }
          with updatedAtEpoch := env.now }
      else owner
    | none => owner
  | _, _ => owner

def finishSysctl (env : Env) (id : UInt64) (published : AtomicTargetState) (j : Journal) :
    Outcome :=
  match j.pendingSysctl id with
  | none => (j, .refused (lit "SYSCTL completion has no prepared intent/publication"))
  | some (i, r, p, x) =>
    if published.inode = 0 then
      (j, .refused (lit "SYSCTL completion has no prepared intent/publication"))
    else
      let finished :=
        { r.withSetting { p with appliedValue := x.targetValue, sysctl := x.resolved } with
          status := .Applied, error := [], updatedAtEpoch := env.now }
      let records :=
        (j.records.set i finished).map (publishIdentity env published.identity)
      ({ j with records := records }).persistSysctlChange env id j.records

def noteSysctlAttempt (prim : Primitives) (env : Env) (id : UInt64) (j : Journal) : Outcome :=
  match j.pendingSysctl id with
  | none => (j, .refused (lit "SYSCTL attempt lacks fresh prepared intent"))
  | some (i, r, p, x) =>
    if x.attempted then (j, .refused (lit "SYSCTL attempt lacks fresh prepared intent"))
    else
      (j.setRecord i (r.withSetting { p with sysctl := some { x with attempted := true } })
        ).persistRecordChange prim env r

def abortSysctlNoEffect (prim : Primitives) (env : Env) (id : UInt64)
    (inlineNotInstalled : Bool) (j : Journal) : Outcome :=
  match j.pendingSysctl id with
  | none => (j, .refused (lit "SYSCTL abort has no inline prepared intent"))
  | some (i, r, p, x) =>
    if x.attempted && !inlineNotInstalled then
      (j, .refused (lit "SYSCTL attempted publication has no inline NotInstalled observation"))
    else if !x.hadApplied then j.discardImpl env true id
    else
      let aborted :=
        { r.withSetting { p with sysctl := x.resolved } with status := .Applied, error := [] }
      (j.setRecord i aborted).persistRecordChange prim env r

/-! ## Releasing -/

def beginSysctlRelease (prim : Primitives) (env : Env) (id : UInt64)
    (before target : Option AtomicTargetState) (j : Journal) : Outcome :=
  let failed := lit "SYSCTL release intent admission failed"
  match j.find id with
  | none => (j, .refused failed)
  | some (i, r) =>
    match sysctlSetting r with
    | none => (j, .refused failed)
    | some p =>
      if !j.usable || !j.lifecycleInitialized || r.undo.backend ≠ .Sysctl || !r.isActive ||
          p.sysctl.any (·.unresolved) then
        (j, .refused failed)
      else if j.records.any fun other => other.id ≠ id && blocksSysctl other then
        (j, .refused (lit "unresolved shared SYSCTL release"))
      else
        let state : SysctlSettingState := p.sysctl.getD { legacyContainerOrigin := id }
        let release : SysctlReleaseIntent :=
          { previousLegacy := p.sysctl.isNone, before := before, target := target }
        let record := r.withSetting
          { p with sysctl := some { state with release := some release } }
        (j.setRecord i { record with status := .Prepared, error := [] }).persistRecordChange
          prim env r

def noteSysctlReleasePrepared (prim : Primitives) (env : Env) (id : UInt64)
    (prepared : AtomicTargetState) (j : Journal) : Outcome :=
  let failed := lit "SYSCTL prepared inode has no release intent"
  match j.find id with
  | none => (j, .refused failed)
  | some (i, r) =>
    match sysctlSetting r with
    | none => (j, .refused failed)
    | some p =>
      match p.sysctl with
      | none => (j, .refused failed)
      | some x =>
        match x.release with
        | none => (j, .refused failed)
        | some release =>
          if !j.usable then (j, .refused failed)
          else
            let record := r.withSetting
              { p with
                sysctl := some { x with
                  release := some { release with prepared := some prepared } } }
            (j.setRecord i record).persistRecordChange prim env r

/-- The published file is the planned one: the inode that was prepared for it,
or the original one if nothing had to change. -/
def provesRelease (intent : SysctlReleaseIntent) (published : Option AtomicTargetState) : Bool :=
  match intent.target, published with
  | none, none => true
  | some target, some published =>
    sysctlSameBytesMetadata published target &&
      (intent.prepared.any (fun prepared => prepared.identity = published.identity) ||
        intent.before.any fun before =>
          sysctlSameBytesMetadata before published && before.identity = published.identity)
  | _, _ => false

/-- An active owner that created the file. -/
def ownsContainer (record : MutationRecord) : Bool :=
  record.isActive && record.undo.backend = .Sysctl &&
    match sysctlSetting record with
    | some p => p.sysctl.any (·.containerCreated)
    | none => false

def finishSysctlRelease (env : Env) (id : UInt64) (published : Option AtomicTargetState)
    (j : Journal) : Outcome :=
  let failed := lit "SYSCTL release journal admission failed"
  let noIntent := lit "SYSCTL completion has no release intent"
  match j.find id with
  | none => (j, .refused failed)
  | some (i, r) =>
    if !j.usable || !j.lifecycleInitialized || r.undo.backend ≠ .Sysctl || !r.isActive then
      (j, .refused failed)
    else
      match sysctlSetting r with
      | none => (j, .refused noIntent)
      | some p =>
        match p.sysctl with
        | none => (j, .refused noIntent)
        | some x =>
          match x.release with
          | none => (j, .refused noIntent)
          | some intent =>
            if x.pending then (j, .refused noIntent)
            else if !provesRelease intent published then
              (j, .refused (lit "SYSCTL completion lacks exact prepared/original receipt"))
            else
              let released :=
                { r.withSetting
                    { p with
                      sysctl :=
                        if intent.previousLegacy then none else some { x with release := none } }
                  with status := .RolledBack, error := [], updatedAtEpoch := env.now }
              let records := j.records.set i released
              match published with
              | none =>
                if records.any ownsContainer then
                  (j, .refused (lit "surviving SYSCTL ownership lost container"))
                else ({ j with records := records }).persistSysctlChange env id j.records
              | some published =>
                let records := records.map (publishIdentity env published.identity)
                ({ j with records := records }).persistSysctlChange env id j.records

end Journal

/-! ## One type for all of them -/

inductive SysctlOperation
  | prepareSysctl (policy : PolicyRef) (key target : Bytes) (created : Bool)
      (legacyOrigin : UInt64) (container : Option AtomicTargetState)
  | noteSysctlAttempt (id : UInt64)
  | finishSysctl (id : UInt64) (published : AtomicTargetState)
  | abortSysctlNoEffect (id : UInt64) (inlineNotInstalled : Bool)
  | beginSysctlRelease (id : UInt64) (before target : Option AtomicTargetState)
  | noteSysctlReleasePrepared (id : UInt64) (prepared : AtomicTargetState)
  | finishSysctlRelease (id : UInt64) (published : Option AtomicTargetState)

namespace Journal

def runSysctl (prim : Primitives) (env : Env) (op : SysctlOperation) (j : Journal) : Outcome :=
  match op with
  | .prepareSysctl policy key target created legacyOrigin container =>
    j.prepareSysctl prim env policy key target created legacyOrigin container
  | .noteSysctlAttempt id => j.noteSysctlAttempt prim env id
  | .finishSysctl id published => j.finishSysctl env id published
  | .abortSysctlNoEffect id inlineNotInstalled =>
    j.abortSysctlNoEffect prim env id inlineNotInstalled
  | .beginSysctlRelease id before target => j.beginSysctlRelease prim env id before target
  | .noteSysctlReleasePrepared id prepared => j.noteSysctlReleasePrepared prim env id prepared
  | .finishSysctlRelease id published => j.finishSysctlRelease env id published

end Journal

end Fic.Journal
