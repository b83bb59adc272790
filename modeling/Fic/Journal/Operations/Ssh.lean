import Fic.Journal.Operations.Status

/-!
# Operations on SSH ownership

An SSH record changes hands through a transition: it is begun with the
permission before and the one aimed at, collects the facts of the publication
and of the running service, and is committed or aborted.  All operations but the
first one of a record have one shape, an `SshPlan`: find the record, decide what
becomes of it, and write the change.
-/

namespace Fic.Journal

open Fic.Lib

/-! ## Plans -/

/-- What becomes of the record. -/
inductive SshEffect
  | change (record : MutationRecord)
  | discard

/-- A typed operation: the errors for a journal that may not be written and for
a record without an SSH payload, and the decision about the record. -/
structure SshPlan where
  needsLifecycle : Bool := true
  unhealthy : Bytes
  missing : Bytes
  act : MutationRecord → UndoRemoveSshManagedPolicy → Reader SshEffect

def sshPayload (record : MutationRecord) : Option UndoRemoveSshManagedPolicy :=
  match record.undo.payload with
  | .RemoveSshManagedPolicy p => some p
  | _ => none

def MutationRecord.withSsh (record : MutationRecord) (p : UndoRemoveSshManagedPolicy) :
    MutationRecord :=
  { record with undo := { record.undo with payload := .RemoveSshManagedPolicy p } }

def sshReleaseAwaitingDisable (t : SshOwnershipTransition) : Bool :=
  isRelease t && t.phase = .ReleasedAwaitingDisable

/-- The resource up to the last colon: all directives of one file share it. -/
def resourcePrefix (resource : Bytes) : Bytes := resource.rdropWhile (· ≠ ':'.toUInt8)

def blocksSsh (shared : Bytes) (other : MutationRecord) : Bool :=
  match sshPayload other with
  | none => false
  | some p =>
    shared.isPrefixOf other.resource && (other.status = .Prepared || sshTransitionPending p)

/-- The record becomes the Prepared owner of a transition. -/
def beginTransition (record : MutationRecord) (old : UndoRemoveSshManagedPolicy)
    (t : SshOwnershipTransition) : SshEffect :=
  .change { record.withSsh { old with operationSequence := t.sequence, transition := some t } with
    status := .Prepared, error := [] }

def kMaxSequence : UInt64 := 0xFFFFFFFFFFFFFFFF

namespace SshPlan

/-! ## Beginning a transition -/

def beginSshRefresh (records : List MutationRecord) (target : UndoRemoveSshManagedPolicy)
    (before after : Bytes) : SshPlan :=
  let missing := lit "SSH refresh requires one proven Applied predecessor"
  { unhealthy := lit "SSH transition requires healthy initialized journal/witness"
    missing := missing
    act := fun record old => do
      require
        (!(record.status ≠ .Applied || sshTransitionPending old ||
          target.policyName ≠ old.policyName || target.directive ≠ old.directive ||
          target.transition.isSome || old.operationSequence = kMaxSequence))
        missing
      require (!records.any (blocksSsh (resourcePrefix record.resource)))
        (lit "SSH recovery required: unresolved shared-resource transition")
      .ok (beginTransition record old
        { sequence := old.operationSequence + 1
          previous := sshOwnedProjection old
          target := sshOwnedProjection target
          beforeSha256 := before
          targetSha256 := after }) }

/-- A plan that carries no receipts yet. -/
def isUnpublished (files : OrderedMap SshPlannedFilePublication) : Bool :=
  files.entries.all fun file => !(file.2.attempted || file.2.publication.isSome)

def beginSshPortChange (records : List MutationRecord) (target : UndoRemoveSshManagedPolicy)
    (files : OrderedMap SshPlannedFilePublication) (release : Bool) : SshPlan :=
  let missing := lit "SSH Port operation requires proven predecessor"
  { unhealthy := lit "SSH operation requires healthy journal"
    missing := missing
    act := fun record old => do
      require
        (!(old.policyName ≠ lit "ssh_port" || old.directive ≠ lit "Port" ||
          sshTransitionPending old ||
          (record.status ≠ .Applied && !(release && record.status = .RollbackFailed)) ||
          (!release && (target.policyName ≠ old.policyName ||
            target.directive ≠ old.directive || target.transition.isSome)) ||
          old.operationSequence = kMaxSequence))
        missing
      require (isUnpublished files)
        (lit "new Port operation cannot adopt publication receipts")
      requireOrThrow (4 ≤ record.resource.length) (lit "basic_string::substr")
      match files.find? (sshMainPath record.resource) with
      | none => refuse (lit "SSH Port file plan lacks main")
      | some first => do
        require (!records.any (blocksSsh (resourcePrefix record.resource)))
          (lit "SSH recovery required: unresolved shared-resource operation")
        .ok (beginTransition record old
          { version := 3
            sequence := old.operationSequence + 1
            intent := if release then .Release else .Refresh
            previous := sshOwnedProjection old
            target := if release then {} else sshOwnedProjection target
            files := files
            beforeSha256 := first.before.sha256
            targetSha256 := first.targetSha256
            fileReplacement := if release then first.replacement else true
            predecessorStatus := record.status
            predecessorError := record.error }) }

def beginSshRelease (records : List MutationRecord) (before target : Bytes)
    (fileReplacement : Bool) : SshPlan :=
  let missing := lit "SSH release requires proven previous ownership"
  { unhealthy := lit "SSH release requires healthy initialized journal/witness"
    missing := missing
    act := fun record old => do
      require
        (!((record.status ≠ .Applied && record.status ≠ .RollbackFailed) ||
          sshTransitionPending old || old.operationSequence = kMaxSequence))
        missing
      require (!records.any (blocksSsh (resourcePrefix record.resource)))
        (lit "SSH recovery required: unresolved shared-resource transition")
      .ok (beginTransition record old
        { version := 2
          intent := .Release
          sequence := old.operationSequence + 1
          previous := sshOwnedProjection old
          beforeSha256 := before
          targetSha256 := target
          fileReplacement := fileReplacement
          predecessorStatus := record.status
          predecessorError := record.error }) }

/-! ## Collecting facts -/

/-- The decision about a record that has a transition. -/
def onTransition (missing : Bytes)
    (act : MutationRecord → UndoRemoveSshManagedPolicy → SshOwnershipTransition →
      Reader SshEffect)
    (record : MutationRecord) (p : UndoRemoveSshManagedPolicy) : Reader SshEffect :=
  match p.transition with
  | none => refuse missing
  | some t => act record p t

/-- The transition goes on in another state. -/
def withTransition (record : MutationRecord) (p : UndoRemoveSshManagedPolicy)
    (t : SshOwnershipTransition) : SshEffect :=
  .change (record.withSsh { p with transition := some t })

def noteSshFileAttempt (path : Bytes) : SshPlan :=
  let missing := lit "invalid SSH file attempt checkpoint"
  { needsLifecycle := false
    unhealthy := lit "SSH journal unavailable"
    missing := missing
    act := onTransition missing fun record p t => do
      match t.files.find? path with
      | none => refuse missing
      | some f => do
        require
          (!(t.version ≠ 3 || t.phase ≠ .Prepared || f.attempted || !record.error.isEmpty))
          missing
        .ok (withTransition record p
          { t with files := t.files.insert path { f with attempted := true } }) }

def publicationProof (prim : Primitives) (state : AtomicTargetState) (durable : Bool) :
    SshPublicationProof :=
  { device := state.device
    inode := state.inode
    mode := state.mode &&& 0o7777
    owner := state.owner
    group := state.group
    sha256 := prim.sha256Hex state.content
    durable := durable }

/-- A receipt is replaced by the same one only, and never loses durability. -/
def extendsReceipt (prior : Option SshPublicationProof) (receipt : SshPublicationProof) : Bool :=
  prior.all fun prior =>
    !(prior.durable && !receipt.durable) && { prior with durable := receipt.durable } = receipt

def noteSshFilePublication (prim : Primitives) (path : Bytes) (state : AtomicTargetState)
    (durable : Bool) : SshPlan :=
  let missing := lit "invalid SSH file publication checkpoint"
  { needsLifecycle := false
    unhealthy := lit "SSH journal unavailable"
    missing := missing
    act := onTransition missing fun record p t => do
      match t.files.find? path with
      | none => refuse missing
      | some f => do
        require
          (!(t.version ≠ 3 || t.phase ≠ .Prepared || !f.attempted || !record.error.isEmpty))
          missing
        let receipt := publicationProof prim state durable
        require (extendsReceipt f.publication receipt)
          (lit "SSH file receipt already checkpointed with different identity")
        .ok (withTransition record p
          { t with files := t.files.insert path { f with publication := some receipt } }) }

/-- The phases up to the durable publication. -/
def isPublishing : SshTransitionPhase → Bool
  | .Prepared | .Published | .DurablePublished => true
  | .RuntimeVerified | .Completed | .OfflineVerified | .ReleasedAwaitingDisable => false

def noteSshPublication (prim : Primitives) (installed : AtomicTargetState) (durable : Bool) :
    SshPlan :=
  let missing := lit "SSH publication checkpoint has no Prepared transition"
  { unhealthy := lit "SSH publication facts require healthy journal"
    missing := missing
    act := onTransition missing fun record p t => do
      require (!(record.status ≠ .Prepared || !isPublishing t.phase)) missing
      let proof := publicationProof prim installed durable
      require (extendsReceipt t.publication proof)
        (lit "SSH publication proof changed during transition")
      .ok (withTransition record p
        { t with
          publication := some proof
          phase := if durable then .DurablePublished else .Published }) }

/-- The phase behind a check of the running service. -/
def runtimePhase (verified : Bool) (facts : OrderedMap Bytes) (t : SshOwnershipTransition) :
    SshTransitionPhase :=
  let awaiting := sshReleaseAwaitingDisable t
  if verified then
    if awaiting then t.phase
    else if isRelease t && facts.find? (lit "offline") = some (lit "true") then .OfflineVerified
    else .RuntimeVerified
  else if awaiting then .DurablePublished
  else t.phase

def noteSshRuntime (verified : Bool) (facts : OrderedMap Bytes) : SshPlan :=
  let missing := lit "SSH runtime checkpoint requires durable publication"
  { unhealthy := lit "SSH activation facts require healthy journal"
    missing := missing
    act := onTransition missing fun record p t => do
      require
        (!(record.status ≠ .Prepared ||
          (t.phase ≠ .DurablePublished && !sshReleaseAwaitingDisable t)))
        missing
      require (!(verified && !record.error.isEmpty))
        (lit "failed SSH transition requires manual resolution")
      .ok (withTransition record p
        { t with runtimeFacts := facts, phase := runtimePhase verified facts t }) }

/-! ## Committing -/

def commitSshRefresh : SshPlan :=
  let missing := lit "SSH refresh cannot commit without verified runtime"
  { unhealthy := lit "SSH finalization requires healthy journal"
    missing := missing
    act := onTransition missing fun record p t => do
      require
        (!(record.status ≠ .Prepared || t.phase ≠ .RuntimeVerified || t.intent ≠ .Refresh ||
          !record.error.isEmpty))
        missing
      let committed : UndoRemoveSshManagedPolicy :=
        { p with
          appliedValue := t.target.value
          disabledMutationIds := t.target.disabledIds
          ownershipVersion := t.target.ownershipVersion
          wrapperFingerprints := t.target.wrapperFingerprints
          includedWrappers := t.target.includedWrappers
          transition := some { t with phase := .Completed } }
      .ok (.change { record.withSsh committed with status := .Applied, error := [] }) }

def finishSshReleaseVerification : SshPlan :=
  let missing := lit "SSH release verification incomplete; intent retained"
  { unhealthy := lit "SSH release requires healthy journal"
    missing := missing
    act := onTransition missing fun record p t => do
      require
        (!(t.intent ≠ .Release || record.status ≠ .Prepared ||
          (t.phase ≠ .RuntimeVerified && t.phase ≠ .OfflineVerified) || !record.error.isEmpty))
        missing
      .ok (withTransition record p { t with phase := .ReleasedAwaitingDisable }) }

def commitSshRelease : SshPlan :=
  let missing := lit ("SSH release cannot finalize before verification and durable " ++
    "policy/lifecycle acknowledgement")
  { unhealthy := lit "SSH release acknowledgement requires healthy journal"
    missing := missing
    act := onTransition missing fun record p t => do
      require
        (!(!sshReleaseAwaitingDisable t || record.status ≠ .Prepared || !record.error.isEmpty))
        missing
      let committed := { p with transition := some { t with phase := .Completed } }
      .ok (.change { record.withSsh committed with status := .RolledBack }) }

/-! ## Failing and aborting -/

def failSshTransition (diagnostic : Bytes) : SshPlan :=
  let missing := lit "SSH failure checkpoint has no unresolved transition"
  { unhealthy := lit "SSH failure checkpoint requires healthy journal"
    missing := missing
    act := onTransition missing fun record p t => do
      require
        (!(t.phase = .Completed || record.status ≠ .Prepared || diagnostic.isEmpty ||
          diagnostic.length > 4096))
        missing
      let phase := if sshReleaseAwaitingDisable t then .DurablePublished else t.phase
      let failed := { p with transition := some { t with phase := phase } }
      .ok (.change { record.withSsh failed with error := diagnostic }) }

def withoutTransition (record : MutationRecord) (p : UndoRemoveSshManagedPolicy)
    (t : SshOwnershipTransition) : SshEffect :=
  .change
    { record.withSsh { p with transition := none } with
      status := if isRelease t then t.predecessorStatus else .Applied
      error := if isRelease t then t.predecessorError else [] }

def abortSshTransitionNoEffect : SshPlan :=
  let missing := lit ("SSH abort refused: publication/service effect is possible; " ++
    "manual recovery required")
  { unhealthy := lit "SSH no-effect abort requires healthy journal"
    missing := missing
    act := onTransition missing fun record p t => do
      require
        (!(record.status ≠ .Prepared || t.phase ≠ .Prepared || t.publication.isSome ||
          !t.runtimeFacts.isEmpty))
        missing
      require (!(t.initial || t.files.entries.any fun file => file.2.attempted))
        (lit "SSH multi-file effect may have occurred; no automatic abort")
      .ok (withoutTransition record p t) }

/-- An attempt that is known to have left its file alone. -/
def isNotInstalled (files : OrderedMap SshPlannedFilePublication) (path : Bytes) : Bool :=
  (files.find? path).any fun f => f.attempted && f.replacement && f.publication.isNone

/-- A file that may have been replaced. -/
def mayBeReplaced (notInstalled : List Bytes) (path : Bytes) (f : SshPlannedFilePublication) :
    Bool :=
  f.replacement && (f.publication.isSome || (f.attempted && !notInstalled.contains path))

def abortSshPortNoEffect (notInstalled : List Bytes) : SshPlan :=
  let missing := lit "SSH no-effect proof requires pre-runtime file publication phase"
  { unhealthy := lit "SSH no-effect abort requires healthy journal"
    missing := missing
    act := onTransition missing fun record p t => do
      require
        (!(t.version ≠ 3 || record.status ≠ .Prepared || t.phase ≠ .Prepared ||
          t.publication.isSome || !t.runtimeFacts.isEmpty || !record.error.isEmpty))
        missing
      require (notInstalled.all (isNotInstalled t.files))
        (lit "invalid SSH inline NotInstalled observation")
      require (!t.files.entries.any fun file => mayBeReplaced notInstalled file.1 file.2)
        (lit "possible SSH replacement cannot be discarded")
      if t.initial then .ok .discard else .ok (withoutTransition record p t) }

end SshPlan

/-! ## Running -/

/-- The typed operations on an existing SSH record. -/
inductive SshOperation
  | beginSshRefresh (target : UndoRemoveSshManagedPolicy) (before after : Bytes)
  | beginSshPortChange (target : UndoRemoveSshManagedPolicy)
      (files : OrderedMap SshPlannedFilePublication) (release : Bool)
  | beginSshRelease (before target : Bytes) (fileReplacement : Bool)
  | noteSshFileAttempt (path : Bytes)
  | noteSshFilePublication (path : Bytes) (state : AtomicTargetState) (durable : Bool)
  | noteSshPublication (installed : AtomicTargetState) (durable : Bool)
  | noteSshRuntime (verified : Bool) (facts : OrderedMap Bytes)
  | commitSshRefresh
  | finishSshReleaseVerification
  | commitSshRelease
  | failSshTransition (diagnostic : Bytes)
  | abortSshTransitionNoEffect
  | abortSshPortNoEffect (notInstalled : List Bytes)

def SshOperation.plan (prim : Primitives) (records : List MutationRecord) :
    SshOperation → SshPlan
  | beginSshRefresh target before after => .beginSshRefresh records target before after
  | beginSshPortChange target files release => .beginSshPortChange records target files release
  | beginSshRelease before target replacement => .beginSshRelease records before target replacement
  | noteSshFileAttempt path => .noteSshFileAttempt path
  | noteSshFilePublication path state durable => .noteSshFilePublication prim path state durable
  | noteSshPublication installed durable => .noteSshPublication prim installed durable
  | noteSshRuntime verified facts => .noteSshRuntime verified facts
  | commitSshRefresh => .commitSshRefresh
  | finishSshReleaseVerification => .finishSshReleaseVerification
  | commitSshRelease => .commitSshRelease
  | failSshTransition diagnostic => .failSshTransition diagnostic
  | abortSshTransitionNoEffect => .abortSshTransitionNoEffect
  | abortSshPortNoEffect notInstalled => .abortSshPortNoEffect notInstalled

namespace Journal

/-- The record of a typed operation, with its position and its payload. -/
def findSsh (j : Journal) (id : UInt64) :
    Option (Nat × MutationRecord × UndoRemoveSshManagedPolicy) :=
  match j.find id with
  | none => none
  | some (i, record) => (sshPayload record).map fun p => (i, record, p)

def runPlan (prim : Primitives) (env : Env) (id : UInt64) (plan : SshPlan) (j : Journal) :
    Outcome :=
  if !j.usable || (plan.needsLifecycle && !j.lifecycleInitialized) then
    (j, .refused plan.unhealthy)
  else
    match j.findSsh id with
    | none => (j, .refused plan.missing)
    | some (i, record, p) =>
      match plan.act record p with
      | .error fault => (j, faultReply fault)
      | .ok .discard => j.discardImpl env true id
      | .ok (.change changed) => (j.setRecord i changed).persistRecordChange prim env record

def runSsh (prim : Primitives) (env : Env) (op : SshOperation) (id : UInt64) (j : Journal) :
    Outcome :=
  j.runPlan prim env id (op.plan prim j.records)

end Journal

end Fic.Journal
