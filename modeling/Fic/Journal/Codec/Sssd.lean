import Fic.Journal.Record
import Fic.Lib.Json

/-!
# The codec of SSSD ownership

`encode` and `decode` of `SssdJournalPayload.h`.  The decoder runs inside a
`try` block of its caller, so every check here throws.
-/

namespace Fic.Journal.Sssd

open Fic.Lib

def phaseName : SssdTransitionPhase → Bytes
  | .Prepared => lit "prepared"
  | .MutationArmed => lit "mutation_armed"
  | .Published => lit "published"
  | .DurablePublished => lit "durable_published"
  | .ActivationArmed => lit "activation_armed"
  | .RuntimeVerified => lit "runtime_verified"
  | .Completed => lit "completed"
  | .OfflineVerified => lit "offline_verified"
  | .ReleasedAwaitingDisable => lit "released_awaiting_disable"

/-! ## Fields -/

def number (key : Bytes) (j : Json) : Reader UInt64 := do
  let v ← j.atKey key
  requireOrThrow v.isUnsigned (lit "SSSD unsigned field")
  v.getUInt64

def small (key : Bytes) (j : Json) : Reader UInt32 := do
  let n ← number key j
  requireOrThrow (n.toNat < 2 ^ 32) (lit "SSSD field overflow")
  .ok n.toUInt32

def stringAt (key : Bytes) (j : Json) : Reader Bytes := j.atKey key >>= Json.getString

def boolAt (key : Bytes) (j : Json) : Reader Bool := j.atKey key >>= Json.getBool

/-! ## Images, assignments and states -/

def image (w : SssdImageWitness) : Json :=
  .mkObject
    [(lit "present", .bool w.present), (lit "device", .unsigned w.device),
      (lit "inode", .unsigned w.inode), (lit "mode", .ofUInt32 w.mode),
      (lit "owner", .ofUInt32 w.owner), (lit "group", .ofUInt32 w.group),
      (lit "sha256", .string w.sha256)]

def parseImage (j : Json) : Reader SssdImageWitness := do
  let present ← boolAt (lit "present") j
  let device ← number (lit "device") j
  let inode ← number (lit "inode") j
  let mode ← small (lit "mode") j
  let owner ← small (lit "owner") j
  let group ← small (lit "group") j
  let sha256 ← stringAt (lit "sha256") j
  .ok { present, device, inode, mode, owner, group, sha256 }

def assignment (a : SssdAssignment) : Json :=
  .mkObject
    [(lit "section", .string a.section_), (lit "key", .string a.key),
      (lit "value", .string a.value)]

def parseAssignment (j : Json) : Reader SssdAssignment := do
  let section_ ← stringAt (lit "section") j
  let key ← stringAt (lit "key") j
  let value ← stringAt (lit "value") j
  .ok { section_, key, value }

def assignments (v : List SssdAssignment) : Json := .array (v.map assignment)

def parseAssignments (j : Json) : Reader (List SssdAssignment) := do
  requireOrThrow (j.isArray && j.size ≤ 256) (lit "SSSD assignment bound")
  Json.readAll parseAssignment (← j.getArray)

def state (s : SssdOwnedState) : Json :=
  .mkObject
    [(lit "assignments", assignments s.assignments), (lit "scope", .string s.scope),
      (lit "sequence", .unsigned s.sequence), (lit "publication", image s.publication)]

def parseState (j : Json) : Reader SssdOwnedState := do
  let assignments ← j.atKey (lit "assignments") >>= parseAssignments
  let scope ← stringAt (lit "scope") j
  let sequence ← number (lit "sequence") j
  let publication ← j.atKey (lit "publication") >>= parseImage
  .ok { assignments, scope, sequence, publication }

def container (c : Option SssdContainerWitness) : Json :=
  Json.ofOption (fun c : SssdContainerWitness => .mkObject
    [(lit "sequence", .unsigned c.sequence), (lit "release_id", .unsigned c.releaseId),
      (lit "publication", image c.publication)]) c

def parseContainer (j : Json) : Reader (Option SssdContainerWitness) :=
  if j.isNull then .ok none
  else do
    let sequence ← number (lit "sequence") j
    let releaseId ← number (lit "release_id") j
    let publication ← j.atKey (lit "publication") >>= parseImage
    .ok (some { sequence, releaseId, publication })

/-! ## Releases -/

def process (p : SssdReleaseProcess) : Json :=
  .mkObject
    [(lit "pid", .ofUInt32 p.pid), (lit "parent", .ofUInt32 p.parent),
      (lit "uid", .ofUInt32 p.uid), (lit "gid", .ofUInt32 p.gid), (lit "role", .string p.role),
      (lit "domain", .string p.domain), (lit "start_token", .string p.startToken),
      (lit "executable", .string p.executable),
      (lit "consumer_socket", .ofUInt32 p.consumerSocket),
      (lit "monitor_socket", .ofUInt32 p.monitorSocket)]

def parseProcess (j : Json) : Reader SssdReleaseProcess := do
  let pid ← small (lit "pid") j
  let parent ← small (lit "parent") j
  let uid ← small (lit "uid") j
  let gid ← small (lit "gid") j
  let role ← stringAt (lit "role") j
  let domain ← stringAt (lit "domain") j
  let startToken ← stringAt (lit "start_token") j
  let executable ← stringAt (lit "executable") j
  let consumerSocket ← small (lit "consumer_socket") j
  let monitorSocket ← small (lit "monitor_socket") j
  .ok { pid, parent, uid, gid, role, domain, startToken, executable, consumerSocket,
        monitorSocket }

def runtimeReceipt (receipt : Option SssdReleaseRuntimeReceipt) : Json :=
  Json.ofOption (fun receipt : SssdReleaseRuntimeReceipt => .mkObject
    [(lit "invocation", .string receipt.invocation),
      (lit "configdb_generation", .string receipt.configDbGeneration),
      (lit "native_code", .ofMap .string receipt.nativeCode),
      (lit "processes", .array (receipt.processes.map process))]) receipt

def parseRuntimeReceipt (j : Json) : Reader (Option SssdReleaseRuntimeReceipt) :=
  if j.isNull then .ok none
  else do
    let invocation ← stringAt (lit "invocation") j
    let configDbGeneration ← stringAt (lit "configdb_generation") j
    let nativeCode ← j.atKey (lit "native_code") >>= Json.getMap Json.getString
    let processes ← j.atKey (lit "processes")
    requireOrThrow (processes.isArray && processes.size ≤ 260)
      (lit "SSSD runtime receipt process bound")
    let processes ← Json.readAll parseProcess (← processes.getArray)
    .ok (some { invocation, configDbGeneration, nativeCode, processes })

def survivor (o : SssdReleaseSurvivor) : Json :=
  .mkObject
    [(lit "id", .unsigned o.id), (lit "policy", .string o.policy),
      (lit "state", state o.state), (lit "container", container o.container)]

def parseSurvivor (j : Json) : Reader SssdReleaseSurvivor := do
  let id ← number (lit "id") j
  let policy ← stringAt (lit "policy") j
  let state ← j.atKey (lit "state") >>= parseState
  let container ← j.atKey (lit "container") >>= parseContainer
  .ok { id, policy, state, container }

def intentName : SssdReleaseIntent → Bytes
  | .ReleaseOnly => lit "release_only"
  | .DisableRelease => lit "disable_release"

def release (d : SssdReleaseDetails) (version : UInt32) : Json :=
  .mkObject
    ([(lit "intent", .string (intentName d.intent)),
      (lit "survivors", .array (d.survivors.map survivor)),
      (lit "remaining", assignments d.remaining), (lit "target_absent", .bool d.targetAbsent),
      (lit "offline", .bool d.offline), (lit "offline_verified", .bool d.offlineVerified),
      (lit "ownership_generation", .string d.ownershipGeneration),
      (lit "service_before", .string d.serviceBefore),
      (lit "service_after", .string d.serviceAfter), (lit "staged_path", .string d.stagedPath),
      (lit "disable_generation", .string d.disableGeneration),
      (lit "released_graph_fingerprint", .string d.releasedGraphFingerprint)] ++
      if version = 3 then [(lit "runtime_receipt", runtimeReceipt d.runtimeReceipt)] else [])

def parseIntent (j : Json) : Reader SssdReleaseIntent :=
  if j.isText (lit "release_only") then .ok .ReleaseOnly
  else if j.isText (lit "disable_release") then .ok .DisableRelease
  else throwing (lit "unknown SSSD release intent")

def parseRelease (version : UInt32) (j : Json) : Reader SssdReleaseDetails := do
  let intent ← j.atKey (lit "intent") >>= parseIntent
  let survivors ← j.atKey (lit "survivors")
  requireOrThrow (survivors.isArray && survivors.size ≤ 2) (lit "SSSD surviving owner bound")
  let survivors ← Json.readAll parseSurvivor (← survivors.getArray)
  let remaining ← j.atKey (lit "remaining") >>= parseAssignments
  let targetAbsent ← boolAt (lit "target_absent") j
  let offline ← boolAt (lit "offline") j
  let offlineVerified ← boolAt (lit "offline_verified") j
  let ownershipGeneration ← stringAt (lit "ownership_generation") j
  let serviceBefore ← stringAt (lit "service_before") j
  let serviceAfter ← stringAt (lit "service_after") j
  let stagedPath ← stringAt (lit "staged_path") j
  let disableGeneration ← stringAt (lit "disable_generation") j
  let releasedGraphFingerprint ← stringAt (lit "released_graph_fingerprint") j
  let runtimeReceipt ←
    if version = 3 then j.atKey (lit "runtime_receipt") >>= parseRuntimeReceipt
    else do
      requireOrThrow (!j.contains (lit "runtime_receipt"))
        (lit "legacy SSSD release cannot contain runtime receipt")
      .ok none
  .ok { intent, survivors, remaining, targetAbsent, offline, offlineVerified,
        ownershipGeneration, serviceBefore, serviceAfter, stagedPath, disableGeneration,
        releasedGraphFingerprint, runtimeReceipt }

/-! ## Ownership -/

def transition (t : SssdOwnershipTransition) : Json :=
  .mkObject
    ([(lit "version", .ofUInt32 t.version), (lit "sequence", .unsigned t.sequence),
      (lit "phase", .string (phaseName t.phase)), (lit "previous", state t.previous),
      (lit "target", assignments t.target), (lit "target_scope", .string t.targetScope),
      (lit "input_fingerprint", .string t.inputFingerprint),
      (lit "target_sha256", .string t.targetSha256), (lit "before", image t.before),
      (lit "publication", image t.publication),
      (lit "publication_durable", .bool t.publicationDurable),
      (lit "activation_possible", .bool t.activationPossible), (lit "a", .bool t.a),
      (lit "b", .bool t.b), (lit "c", .bool t.c), (lit "p", .bool t.p),
      (lit "clean", .bool t.clean), (lit "residuals", .ofStrings t.residuals),
      (lit "cleanup_errors", .ofStrings t.cleanupErrors),
      (lit "runtime_facts", .ofMap .string t.runtimeFacts)] ++
      (t.release.map fun d => (lit "release", release d t.version)).toList)

/-- A handoff or a release needs the second format. -/
def needsHandoff (own : SssdJournalOwnership) : Bool :=
  own.container.isSome || own.transition.any fun t => t.release.isSome

def formatVersion (own : SssdJournalOwnership) : UInt64 :=
  if own.transition.any fun t => t.version = 3 then 3
  else if needsHandoff own then 2
  else 1

def encode (own : SssdJournalOwnership) : Json :=
  .mkObject
    ([(lit "version", .unsigned (formatVersion own)), (lit "current", state own.current),
      (lit "transition", Json.ofOption transition own.transition)] ++
      if needsHandoff own then [(lit "container", container own.container)] else [])

def allPhases : List SssdTransitionPhase :=
  [.Prepared, .MutationArmed, .Published, .DurablePublished, .ActivationArmed,
    .RuntimeVerified, .Completed, .OfflineVerified, .ReleasedAwaitingDisable]

def parsePhase (j : Json) : Reader SssdTransitionPhase :=
  match allPhases.find? fun phase => j.isText (phaseName phase) with
  | some phase => .ok phase
  | none => throwing (lit "unknown SSSD transition phase")

def parseTransition (formatVersion : UInt64) (v : Json) : Reader SssdOwnershipTransition := do
  let version ← small (lit "version") v
  let sequence ← number (lit "sequence") v
  let phase ← v.atKey (lit "phase") >>= parsePhase
  let previous ← v.atKey (lit "previous") >>= parseState
  let target ← v.atKey (lit "target") >>= parseAssignments
  let targetScope ← stringAt (lit "target_scope") v
  let inputFingerprint ← stringAt (lit "input_fingerprint") v
  let targetSha256 ← stringAt (lit "target_sha256") v
  let before ← v.atKey (lit "before") >>= parseImage
  let publication ← v.atKey (lit "publication") >>= parseImage
  let publicationDurable ← boolAt (lit "publication_durable") v
  let activationPossible ← boolAt (lit "activation_possible") v
  let a ← boolAt (lit "a") v
  let b ← boolAt (lit "b") v
  let c ← boolAt (lit "c") v
  let p ← boolAt (lit "p") v
  let clean ← boolAt (lit "clean") v
  let residuals ← v.atKey (lit "residuals") >>= Json.getStrings
  let cleanupErrors ← v.atKey (lit "cleanup_errors") >>= Json.getStrings
  let runtimeFacts ← v.atKey (lit "runtime_facts") >>= Json.getMap Json.getString
  let release ←
    if v.contains (lit "release") then do
      requireOrThrow (2 ≤ formatVersion && version.toUInt64 = formatVersion)
        (lit "SSSD release version mismatch")
      let d ← v.atKey (lit "release") >>= parseRelease version
      .ok (some d)
    else .ok none
  .ok { version, sequence, phase, previous, target, targetScope, inputFingerprint,
        targetSha256, before, publication, publicationDurable, activationPossible, a, b, c, p,
        clean, residuals, cleanupErrors, runtimeFacts, release }

def decode (j : Json) : Reader SssdJournalOwnership := do
  let version ← number (lit "version") j
  requireOrThrow (version = 1 || version = 2 || version = 3)
    (lit "unknown SSSD ownership version")
  let current ← j.atKey (lit "current") >>= parseState
  let container ←
    if version ≥ 2 then j.atKey (lit "container") >>= parseContainer
    else do
      requireOrThrow (!j.contains (lit "container"))
        (lit "I4 version 1 cannot contain handoff authority")
      .ok none
  let v ← j.atKey (lit "transition")
  let transition ←
    if v.isNull then .ok none else (parseTransition version v).map some
  requireOrThrow (version ≠ 3 || transition.any fun t => t.release.isSome)
    (lit "SSSD v3 requires release")
  .ok { current, transition, container }

end Fic.Journal.Sssd
