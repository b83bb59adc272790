import Fic.Journal.Record
import Fic.Lib.Json

/-!
# The codecs of SSH and SYSCTL ownership

The nested objects of `MutationJournal.cpp`: SSH projections, publications and
transitions, and the snapshots of a SYSCTL release.  The SSH readers run inside
a `try` block of their caller; the SYSCTL readers do not.
-/

namespace Fic.Journal

open Fic.Lib

def isNumber (n : UInt64) : Json → Bool
  | .unsigned value => value = n
  | _ => false

def isAtMost (bound : Nat) : Json → Bool
  | .unsigned value => value.toNat ≤ bound
  | _ => false

/-- A member that has to pass a test, or the reader refuses. -/
def requireMember (key : Bytes) (test : Json → Bool) (error : Bytes) (j : Json) :
    Reader Json :=
  match j.find? key with
  | some member => if test member then .ok member else refuse error
  | none => refuse error

/-- A member that has to pass a test, or the reader throws. -/
def memberOrThrow (key : Bytes) (test : Json → Bool) (what : Bytes) (j : Json) :
    Reader Json := do
  let member ← j.atKey key
  requireOrThrow (test member) what
  .ok member

/-! ## SSH projections -/

def serializeSshIncluded (files : SshIncludedWrappers) : Json :=
  .mkObject
    [(lit "version", .unsigned 1), (lit "files", .ofMap (.ofMap .string) files)]

def deserializeSshIncluded (j : Json) : Reader SshIncludedWrappers := do
  let unsupported := lit "unsupported SSH per-file ownership contract"
  requireOrThrow (j.isObject && j.size = 2) unsupported
  let _ ← memberOrThrow (lit "version") (isNumber 1) unsupported j
  let files ← memberOrThrow (lit "files") Json.isObject unsupported j
  Json.getMap (Json.getMap Json.getString) files

/-- The member is only written for a non-empty map. -/
def includedMember (files : SshIncludedWrappers) : List (Bytes × Json) :=
  if files.isEmpty then [] else [(lit "included_wrappers", serializeSshIncluded files)]

def readIncluded (j : Json) : Reader SshIncludedWrappers :=
  match j.find? (lit "included_wrappers") with
  | some files => deserializeSshIncluded files
  | none => .ok .empty

def serializeSshProjection (p : SshOwnedProjection) : Json :=
  .mkObject
    ([(lit "value", .string p.value), (lit "disabled_ids", .ofStrings p.disabledIds),
      (lit "ownership_version", .ofUInt32 p.ownershipVersion),
      (lit "wrapper_fingerprints", .ofMap .string p.wrapperFingerprints)] ++
      includedMember p.includedWrappers)

def deserializeSshProjection (j : Json) : Reader SshOwnedProjection := do
  let invalid := lit "invalid SSH projection types/version"
  requireOrThrow j.isObject invalid
  let version ← memberOrThrow (lit "ownership_version") (isAtMost 1) invalid j
  let fingerprints ← memberOrThrow (lit "wrapper_fingerprints") Json.isObject invalid j
  let ids ← memberOrThrow (lit "disabled_ids") Json.isArray invalid j
  let value ← j.atKey (lit "value") >>= Json.getString
  let disabledIds ← ids.getStrings
  let ownershipVersion ← version.getUInt32
  let wrapperFingerprints ← Json.getMap Json.getString fingerprints
  let includedWrappers ← readIncluded j
  .ok { value, disabledIds, ownershipVersion, wrapperFingerprints, includedWrappers }

def sshPhaseName : SshTransitionPhase → Bytes
  | .Prepared => lit "prepared"
  | .Published => lit "published"
  | .DurablePublished => lit "durable_published"
  | .RuntimeVerified => lit "runtime_verified"
  | .Completed => lit "completed"
  | .OfflineVerified => lit "offline_verified"
  | .ReleasedAwaitingDisable => lit "released_awaiting_disable"

def sshPhases : List SshTransitionPhase :=
  [.Prepared, .Published, .DurablePublished, .RuntimeVerified, .Completed, .OfflineVerified,
    .ReleasedAwaitingDisable]

def readSshPhase (j : Json) : Reader SshTransitionPhase :=
  match sshPhases.find? fun phase => j.isText (sshPhaseName phase) with
  | some phase => .ok phase
  | none => refuse (lit "unknown SSH operation phase")

/-! ## SSH publications -/

def serializeSshPublication (p : SshPublicationProof) : Json :=
  .mkObject
    [(lit "device", .unsigned p.device), (lit "inode", .unsigned p.inode),
      (lit "mode", .ofUInt32 p.mode), (lit "owner", .ofUInt32 p.owner),
      (lit "group", .ofUInt32 p.group), (lit "sha256", .string p.sha256),
      (lit "durable", .bool p.durable)]

/-- The fields of a file's identity; what a wrong type or bound leads to is up
to the caller. -/
def readPublication (check : Bool → Bytes → Reader Unit) (types bounds : Bytes) (j : Json) :
    Reader SshPublicationProof := do
  let device ← j.atKey (lit "device")
  check device.isUnsigned types
  let inode ← j.atKey (lit "inode")
  check inode.isUnsigned types
  let mode ← j.atKey (lit "mode")
  check mode.isUnsigned types
  let owner ← j.atKey (lit "owner")
  check owner.isUnsigned types
  let group ← j.atKey (lit "group")
  check group.isUnsigned types
  check (isAtMost 0o7777 mode && isAtMost (2 ^ 32 - 1) owner && isAtMost (2 ^ 32 - 1) group)
    bounds
  let durable ← j.atKey (lit "durable")
  check durable.isBool bounds
  let sha256 ← j.atKey (lit "sha256") >>= Json.getString
  .ok
    { device := (← device.getUInt64), inode := (← inode.getUInt64), mode := (← mode.getUInt32)
      owner := (← owner.getUInt32), group := (← group.getUInt32), sha256 := sha256
      durable := (← durable.getBool) }

def deserializeSshPublication (j : Json) : Reader SshPublicationProof :=
  readPublication requireOrThrow (lit "invalid SSH file receipt type")
    (lit "invalid SSH file receipt metadata") j

/-- The publication of the main file. -/
def readSshTransitionPublication (j : Json) : Reader (Option SshPublicationProof) :=
  if j.isNull then .ok none
  else
    (readPublication require (lit "invalid SSH publication identity")
      (lit "invalid SSH publication durability") j).map some

def serializePlannedFile (file : SshPlannedFilePublication) : Json :=
  .mkObject
    [(lit "before", serializeSshPublication file.before),
      (lit "target_sha256", .string file.targetSha256),
      (lit "replacement", .bool file.replacement), (lit "attempted", .bool file.attempted),
      (lit "publication", Json.ofOption serializeSshPublication file.publication)]

def deserializePlannedFile (f : Json) : Reader SshPlannedFilePublication := do
  let invalid := lit "invalid SSH publication state"
  let replacement ← memberOrThrow (lit "replacement") Json.isBool invalid f
  let attempted ← memberOrThrow (lit "attempted") Json.isBool invalid f
  let before ← f.atKey (lit "before") >>= deserializeSshPublication
  let targetSha256 ← f.atKey (lit "target_sha256") >>= Json.getString
  let publication ← f.atKey (lit "publication")
  let publication ←
    if publication.isNull then .ok none
    else (deserializeSshPublication publication).map some
  .ok
    { before := before, targetSha256 := targetSha256
      replacement := (← replacement.getBool), attempted := (← attempted.getBool)
      publication := publication }

/-! ## SSH transitions -/

def sshIntentName : SshTransitionIntent → Bytes
  | .Refresh => lit "refresh"
  | .Release => lit "release"

def serializeSshTransition (t : SshOwnershipTransition) : Json :=
  .mkObject
    ([(lit "version", .ofUInt32 t.version), (lit "intent", .string (sshIntentName t.intent)),
      (lit "sequence", .unsigned t.sequence), (lit "phase", .string (sshPhaseName t.phase)),
      (lit "previous", serializeSshProjection t.previous),
      (lit "target",
        if t.intent = .Release then .null else serializeSshProjection t.target),
      (lit "before_sha256", .string t.beforeSha256),
      (lit "target_sha256", .string t.targetSha256),
      (lit "publication", Json.ofOption serializeSshPublication t.publication),
      (lit "runtime_facts", .ofMap .string t.runtimeFacts)] ++
      (if t.intent = .Release then
        [(lit "file_replacement", .bool t.fileReplacement),
          (lit "predecessor_status", .string (mutationStatusToString t.predecessorStatus)),
          (lit "predecessor_error", .string t.predecessorError)]
      else []) ++
      if t.version = 3 then
        [(lit "initial", .bool t.initial), (lit "files", .ofMap serializePlannedFile t.files)]
      else [])

/-- What the intent and the version of a transition decide. -/
structure SshContract where
  version : UInt32
  intent : SshTransitionIntent
  fileReplacement : Bool := true
  predecessorStatus : MutationStatus := .Applied
  predecessorError : Bytes := []

def readReleaseContract (version : UInt32) (j : Json) : Reader SshContract := do
  let invalid := lit "invalid SSH release contract"
  let replacement ← j.atKey (lit "file_replacement")
  require replacement.isBool invalid
  let target ← j.atKey (lit "target")
  require target.isNull invalid
  let status ← j.atKey (lit "predecessor_status") >>= Json.getString
  match mutationStatusFromString status with
  | none => refuse invalid
  | some predecessorStatus => do
    let fileReplacement ← replacement.getBool
    let predecessorError ← j.atKey (lit "predecessor_error") >>= Json.getString
    .ok { version, intent := .Release, fileReplacement, predecessorStatus, predecessorError }

def readContract (version intent : Json) (j : Json) : Reader SshContract :=
  if intent.isText (lit "refresh") && isNumber 1 version then
    .ok { version := 1, intent := .Refresh }
  else if intent.isText (lit "release") && isNumber 2 version then readReleaseContract 2 j
  else if intent.isText (lit "release") && isNumber 3 version then readReleaseContract 3 j
  else if intent.isText (lit "refresh") && isNumber 3 version then
    .ok { version := 3, intent := .Refresh }
  else refuse (lit "unsupported SSH operation contract")

/-- The files of a plan are only there for the third version. -/
def readPlan (version : UInt32) (j : Json) :
    Reader (Bool × OrderedMap SshPlannedFilePublication) :=
  if version = 3 then do
    let invalid := lit "invalid SSH multi-file plan"
    let initial ← memberOrThrow (lit "initial") Json.isBool invalid j
    let files ← memberOrThrow (lit "files") Json.isObject invalid j
    let initial ← initial.getBool
    let files ← Json.getMap deserializePlannedFile files
    .ok (initial, files)
  else do
    require (!(j.contains (lit "initial") || j.contains (lit "files")))
      (lit "multi-file facts without version 3")
    .ok (false, .empty)

def deserializeSshTransition (j : Json) : Reader SshOwnershipTransition := do
  let invalid := lit "invalid SSH operation contract"
  require j.isObject invalid
  let version ← j.atKey (lit "version")
  require version.isUnsigned invalid
  let sequence ← j.atKey (lit "sequence")
  require sequence.isUnsigned invalid
  let intent ← j.atKey (lit "intent")
  let contract ← readContract version intent j
  let (initial, files) ← readPlan contract.version j
  let sequence ← sequence.getUInt64
  let phase ← j.atKey (lit "phase") >>= readSshPhase
  let previous ← j.atKey (lit "previous") >>= deserializeSshProjection
  let target ←
    if contract.intent = .Refresh then j.atKey (lit "target") >>= deserializeSshProjection
    else .ok {}
  let beforeSha256 ← j.atKey (lit "before_sha256") >>= Json.getString
  let targetSha256 ← j.atKey (lit "target_sha256") >>= Json.getString
  let runtimeFacts ← j.atKey (lit "runtime_facts") >>= Json.getMap Json.getString
  let publication ← j.atKey (lit "publication") >>= readSshTransitionPublication
  .ok
    { version := contract.version, sequence := sequence, phase := phase, previous := previous
      target := target, beforeSha256 := beforeSha256, targetSha256 := targetSha256
      publication := publication, runtimeFacts := runtimeFacts, intent := contract.intent
      fileReplacement := contract.fileReplacement
      predecessorStatus := contract.predecessorStatus
      predecessorError := contract.predecessorError, files := files, initial := initial }

/-! ## SYSCTL -/

def sysctlSnapshot (state : Option AtomicTargetState) : Json :=
  Json.ofOption (fun s : AtomicTargetState => .mkObject
    [(lit "device", .unsigned s.device), (lit "inode", .unsigned s.inode),
      (lit "mode", .ofUInt32 s.mode), (lit "owner", .ofUInt32 s.owner),
      (lit "group", .ofUInt32 s.group), (lit "content", .string s.content)]) state

/-- The bounds of a snapshot that only its reader knows. -/
def AtomicTargetState.inBounds (s : AtomicTargetState) : Bool :=
  s.mode.toNat ≤ 0o7777 && s.content.length ≤ 1024 * 1024

def isShortText : Json → Bool
  | .string text => text.length ≤ 1024 * 1024
  | _ => false

def readSysctlSnapshot (j : Json) : Reader (Option AtomicTargetState) :=
  if j.isNull then .ok none
  else do
    let types := lit "invalid SYSCTL release snapshot metadata"
    let bounds := lit "invalid SYSCTL release snapshot bounds"
    let device ← j.atKey (lit "device")
    require device.isUnsigned types
    let inode ← j.atKey (lit "inode")
    require inode.isUnsigned types
    let mode ← j.atKey (lit "mode")
    require mode.isUnsigned types
    let owner ← j.atKey (lit "owner")
    require owner.isUnsigned types
    let group ← j.atKey (lit "group")
    require group.isUnsigned types
    require
      (isAtMost 0o7777 mode && isAtMost (2 ^ 32 - 1) owner && isAtMost (2 ^ 32 - 1) group)
      bounds
    let content ← j.atKey (lit "content")
    require (isShortText content) bounds
    .ok (some
      { device := (← device.getUInt64), inode := (← inode.getUInt64)
        mode := (← mode.getUInt32), owner := (← owner.getUInt32), group := (← group.getUInt32)
        content := (← content.getString) })

def serializeSysctlRelease (r : SysctlReleaseIntent) : Json :=
  .mkObject
    [(lit "version", .ofUInt32 r.version), (lit "previous_legacy", .bool r.previousLegacy),
      (lit "before", sysctlSnapshot r.before), (lit "target", sysctlSnapshot r.target),
      (lit "prepared", sysctlSnapshot r.prepared)]

def deserializeSysctlRelease (j : Json) : Reader SysctlReleaseIntent := do
  let version ← j.atKey (lit "version") >>= Json.getUInt32
  let previousLegacy ← j.atKey (lit "previous_legacy") >>= Json.getBool
  let before ← j.atKey (lit "before") >>= readSysctlSnapshot
  let target ← j.atKey (lit "target") >>= readSysctlSnapshot
  let prepared ← j.atKey (lit "prepared") >>= readSysctlSnapshot
  .ok { version, previousLegacy, before, target, prepared }

def serializeSysctlState (x : SysctlSettingState) : Json :=
  .mkObject
    ([(lit "version", .ofUInt32 x.version), (lit "container_created", .bool x.containerCreated),
      (lit "legacy_container_origin", .unsigned x.legacyContainerOrigin),
      (lit "pending", .bool x.pending), (lit "had_applied", .bool x.hadApplied),
      (lit "previous_legacy", .bool x.previousLegacy), (lit "attempted", .bool x.attempted),
      (lit "target_value", .string x.targetValue),
      (lit "container_identity",
        Json.ofOption (fun identity : SysctlContainerIdentity => .mkObject
          [(lit "device", .unsigned identity.device), (lit "inode", .unsigned identity.inode)])
          x.containerIdentity)] ++
      (x.release.map fun r => (lit "release", serializeSysctlRelease r)).toList)

def readContainerIdentity (j : Json) : Reader (Option SysctlContainerIdentity) :=
  if j.isNull then .ok none
  else do
    let invalid := lit "invalid SYSCTL container identity"
    let device ← j.atKey (lit "device")
    require device.isUnsigned invalid
    let inode ← j.atKey (lit "inode")
    require inode.isUnsigned invalid
    .ok (some { device := (← device.getUInt64), inode := (← inode.getUInt64) })

/-- The check of the transition flags inside the reader. -/
def validSysctlFlags (x : SysctlSettingState) : Bool :=
  x.version = 1 && !(x.containerCreated && x.legacyContainerOrigin ≠ 0) &&
    !(x.pending && (x.targetValue.isEmpty || (x.previousLegacy && !x.hadApplied))) &&
    !(!x.pending && (x.hadApplied || x.previousLegacy || x.attempted || !x.targetValue.isEmpty))

def deserializeSysctlState (x : Json) : Reader SysctlSettingState := do
  let version ← x.atKey (lit "version") >>= Json.getUInt32
  let containerCreated ← x.atKey (lit "container_created") >>= Json.getBool
  let legacyContainerOrigin ← x.atKey (lit "legacy_container_origin") >>= Json.getUInt64
  let pending ← x.atKey (lit "pending") >>= Json.getBool
  let hadApplied ← x.atKey (lit "had_applied") >>= Json.getBool
  let previousLegacy ← x.atKey (lit "previous_legacy") >>= Json.getBool
  let attempted ← x.atKey (lit "attempted") >>= Json.getBool
  let targetValue ← x.atKey (lit "target_value") >>= Json.getString
  let containerIdentity ← x.atKey (lit "container_identity") >>= readContainerIdentity
  let state : SysctlSettingState :=
    { version, containerCreated, legacyContainerOrigin, pending, hadApplied, previousLegacy,
      attempted, targetValue, containerIdentity }
  require (validSysctlFlags state) (lit "invalid SYSCTL ownership transition")
  match x.find? (lit "release") with
  | none => .ok state
  | some j => do
    let release ← deserializeSysctlRelease j
    .ok { state with release := some release }

end Fic.Journal
