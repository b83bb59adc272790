import Fic.Journal.Validate.Payload

/-!
# Validators of SYSCTL and SSH records
-/

namespace Fic.Journal

open Fic.Lib

/-! ## SYSCTL -/

def sysctlSameBytesMetadata (a b : AtomicTargetState) : Bool :=
  a.content = b.content && a.mode = b.mode && a.owner = b.owner && a.group = b.group

/-- The intent and the receipts of a release fit together. -/
def validSysctlRelease (record : MutationRecord) (x : SysctlSettingState)
    (r : SysctlReleaseIntent) : Bool :=
  r.version = 1 && !x.pending && record.status = .Prepared &&
    !(r.previousLegacy && (x.containerCreated || x.legacyContainerOrigin ≠ record.id)) &&
    r.before.all (fun before => before.inode ≠ 0) &&
    r.target.all (fun target =>
      r.before.any (fun before =>
        target.mode = before.mode && target.owner = before.owner &&
          target.group = before.group) &&
        target.inode = 0 && target.device = 0) &&
    r.prepared.all fun prepared =>
      prepared.inode ≠ 0 && r.target.any (sysctlSameBytesMetadata prepared)

def isSysctlValue (value : Bytes) : Bool := lineFreeOfControlCharacters value

def validSysctlRecord (record : MutationRecord) : Except Bytes Unit :=
  match record.undo.payload with
  | .RemoveManagedSetting p =>
    match p.sysctl with
    | none => .ok ()
    | some x => do
      rejectIf (!x.release.all (validSysctlRelease record x))
        (lit "invalid SYSCTL release intent/receipt")
      rejectIf
        (record.undo.backend ≠ .Sysctl || record.policy.moduleName ≠ lit "SYSCTL" ||
          record.resource ≠ p.key || x.version ≠ 1 ||
          (x.containerCreated && x.legacyContainerOrigin ≠ 0) ||
          (!x.containerCreated && x.containerIdentity.isSome) ||
          (x.containerCreated && (!x.pending || x.hadApplied) && x.containerIdentity.isNone) ||
          x.containerIdentity.any (fun identity => identity.inode = 0) ||
          (x.pending && (record.status ≠ .Prepared || x.targetValue.isEmpty ||
            (x.hadApplied && record.id = 0))) ||
          (!x.pending && ((record.status = .Prepared && x.release.isNone) || x.hadApplied ||
            x.previousLegacy || x.attempted || !x.targetValue.isEmpty)) ||
          (x.previousLegacy && (!x.hadApplied || x.legacyContainerOrigin ≠ record.id)) ||
          !isSysctlValue p.appliedValue || !isSysctlValue x.targetValue)
        (lit "invalid SYSCTL typed ownership/status")
  | _ =>
    rejectIf (record.undo.backend = .Sysctl) (lit "SYSCTL undo payload unavailable")

/-! ## SSH projections -/

/-- Every disabled id is new, bounded and has a digest. -/
def validWrapperProofs (fingerprints : OrderedMap Bytes) (ids : List Bytes) : Bool :=
  allDistinct ids && ids.all fun id =>
    !id.isEmpty && id.length ≤ 256 && (fingerprints.find? id).any isCanonicalSha256Hex

def isPlainPathByte (b : UInt8) : Bool := b = '/'.toUInt8 || isAlnum b || (lit "._-+").contains b

def validIncludedPath (prim : Primitives) (path : Bytes) : Bool :=
  isAbsolutePath path && prim.lexicallyNormal path = path &&
    path.getLast? ≠ some '/'.toUInt8 && path.all isPlainPathByte

/-- The ids of one file are new, and their number stays bounded. -/
def validFileProofs (knownIds : List Bytes) (count : Nat) (wrappers : OrderedMap Bytes) : Bool :=
  wrappers.entries.all (fun entry =>
    !entry.1.isEmpty && entry.1.length ≤ 256 && !knownIds.contains entry.1 &&
      isCanonicalSha256Hex entry.2) &&
    count + wrappers.size ≤ 65536

/-- The loop over the included files; `knownIds` and `count` are the ids so
far. -/
def validIncludedFiles (prim : Primitives) :
    List Bytes → Nat → List (Bytes × OrderedMap Bytes) → Except Bytes Unit
  | _, _, [] => .ok ()
  | knownIds, count, (path, wrappers) :: files => do
    rejectIf (!validIncludedPath prim path || wrappers.isEmpty)
      (lit "invalid SSH included wrapper path/set")
    rejectIf (!validFileProofs knownIds count wrappers)
      (lit "invalid/duplicate SSH per-file creation proof")
    validIncludedFiles prim (knownIds ++ wrappers.entries.map Prod.fst)
      (count + wrappers.size) files

/-- A versioned projection proves every wrapper it has created. -/
def validVersionedProjection (p : SshOwnedProjection) : Except Bytes Unit :=
  if p.ownershipVersion = 1 then do
    rejectIf (p.value.length > 4096 || !lineFreeOfControlCharacters p.value)
      (lit "invalid SSH versioned value")
    rejectIf (!validWrapperProofs p.wrapperFingerprints p.disabledIds)
      (lit "SSH creation-bound wrapper proof incomplete/duplicated")
    rejectIf (p.disabledIds.length ≠ p.wrapperFingerprints.size)
      (lit "extra SSH wrapper fingerprint")
  else .ok ()

def validSshProjection (prim : Primitives) (p : SshOwnedProjection) : Except Bytes Unit := do
  rejectIf
    (p.value.isEmpty || p.ownershipVersion > 1 ||
      (p.ownershipVersion = 0 && !p.wrapperFingerprints.isEmpty))
    (lit "invalid SSH ownership projection")
  validVersionedProjection p
  rejectIf
    (p.includedWrappers.size > 256 ||
      (!p.includedWrappers.isEmpty && p.ownershipVersion ≠ 1))
    (lit "invalid SSH included ownership bounds/version")
  validIncludedFiles prim p.disabledIds p.disabledIds.dedup.length p.includedWrappers.entries

/-! ## SSH transitions -/

/-- The transition belongs to the policy and the file the record names. -/
def sshIdentity (record : MutationRecord) (p : UndoRemoveSshManagedPolicy) : Bool :=
  record.policy.moduleName = lit "NET" && record.policy.submoduleName = lit "SshEdit" &&
    record.policy.policyName = p.policyName && lit "ssh:/" <+: record.resource

def isRelease (t : SshOwnershipTransition) : Bool := t.intent = .Release

def validSshTransitionBasics (prim : Primitives) (record : MutationRecord)
    (p : UndoRemoveSshManagedPolicy) (t : SshOwnershipTransition) : Bool :=
  sshIdentity record p && (t.version = 3 || t.version = (if isRelease t then 2 else 1)) &&
    t.sequence ≠ 0 && t.sequence = p.operationSequence &&
    ((t.version = 3 && t.initial) || (validSshProjection prim t.previous).isOk) &&
    isCanonicalSha256Hex t.beforeSha256 && isCanonicalSha256Hex t.targetSha256 &&
    t.runtimeFacts.size ≤ 32

/-- A release owns nothing afterwards and keeps what preceded it. -/
def validSshRelease (t : SshOwnershipTransition) : Bool :=
  t.target = {} && (t.predecessorStatus = .Applied || t.predecessorStatus = .RollbackFailed) &&
    (t.fileReplacement = (t.beforeSha256 ≠ t.targetSha256))

def validSshRefreshContract (prim : Primitives) (t : SshOwnershipTransition) : Bool :=
  (validSshProjection prim t.target).isOk && t.target.ownershipVersion = 1 &&
    !(t.previous.ownershipVersion = 0 && !t.previous.disabledIds.isEmpty) &&
    !(t.version ≠ 3 && t.beforeSha256 = t.targetSha256) && t.fileReplacement &&
    t.predecessorStatus = .Applied && t.predecessorError.isEmpty &&
    t.phase ≠ .OfflineVerified && t.phase ≠ .ReleasedAwaitingDisable

/-- Every included wrapper is kept with its digest. -/
def keepsIncludedWrappers (t : SshOwnershipTransition) : Bool :=
  t.previous.includedWrappers.entries.all fun file =>
    file.2.entries.all fun wrapper =>
      ((t.target.includedWrappers.find? file.1).bind fun kept => kept.find? wrapper.1) =
        some wrapper.2

/-- Every disabled wrapper is kept with its digest.  The digest lookups throw
for an id without one. -/
def keepDisabledWrappers (t : SshOwnershipTransition) : List Bytes → Reader Unit
  | [] => .ok ()
  | id :: ids => do
    let lost := lit "SSH refresh lost prior wrapper authority"
    require (t.target.disabledIds.contains id) lost
    match t.previous.wrapperFingerprints.find? id, t.target.wrapperFingerprints.find? id with
    | some before, some after => require (before = after) lost
    | _, _ => throwing (lit "map::at")
    keepDisabledWrappers t ids

/-- The file the resource of a record names. -/
def sshMainPath (resource : Bytes) : Bytes :=
  let rest := resource.drop 4
  if rest.contains ':'.toUInt8 then
    (rest.rdropWhile (· ≠ ':'.toUInt8)).dropLast
  else rest

def validSshPlanIdentity (p : UndoRemoveSshManagedPolicy) (t : SshOwnershipTransition) : Bool :=
  p.policyName = lit "ssh_port" && p.directive = lit "Port" && !t.files.isEmpty &&
    t.files.size ≤ 257 &&
    !(t.initial && (isRelease t || t.sequence ≠ 1 || t.previous ≠ {}))

def validPlannedPrecondition (prim : Primitives) (path : Bytes)
    (f : SshPlannedFilePublication) : Bool :=
  isAbsolutePath path && prim.lexicallyNormal path = path && f.before.inode ≠ 0 &&
    f.before.mode ≤ 0o7777 && f.before.owner = 0 && f.before.mode &&& 0o22 = 0 &&
    isCanonicalSha256Hex f.before.sha256 && isCanonicalSha256Hex f.targetSha256 &&
    f.replacement = (f.before.sha256 ≠ f.targetSha256)

def validPlannedReceipt (f : SshPlannedFilePublication) : Bool :=
  f.publication.all fun v =>
    f.attempted && v.inode ≠ 0 && v.sha256 = f.targetSha256 && v.mode = f.before.mode &&
      v.owner = f.before.owner && v.group = f.before.group

/-- The loop over the planned files. -/
def validPlannedFiles (prim : Primitives) (phase : SshTransitionPhase) :
    List (Bytes × SshPlannedFilePublication) → Except Bytes Unit
  | [] => .ok ()
  | (path, f) :: files => do
    rejectIf (!validPlannedPrecondition prim path f)
      (lit "invalid SSH planned file precondition")
    rejectIf (!validPlannedReceipt f) (lit "invalid SSH per-file publication receipt")
    rejectIf (phase ≠ .Prepared && !f.publication.any (·.durable))
      (lit "SSH operation advanced before every file was durable")
    validPlannedFiles prim phase files

def validSshPlan (prim : Primitives) (record : MutationRecord)
    (p : UndoRemoveSshManagedPolicy) (t : SshOwnershipTransition) : Except Bytes Unit :=
  if t.version = 3 then do
    rejectIf (!validSshPlanIdentity p t) (lit "invalid SSH multi-file operation identity")
    rejectIf
      (!(t.files.find? (sshMainPath record.resource)).any fun root =>
        root.before.sha256 = t.beforeSha256 && root.targetSha256 = t.targetSha256)
      (lit "SSH multi-file plan is not bound to its main resource")
    validPlannedFiles prim t.phase t.files.entries
    rejectIf (!isRelease t && !t.files.entries.any fun file => file.2.replacement)
      (lit "empty SSH multi-file mutation")
  else
    rejectIf (!t.files.isEmpty || t.initial)
      (lit "multi-file facts require explicit operation version")

def validSshPublication (t : SshOwnershipTransition) : Except Bytes Unit := do
  rejectIf
    (!t.runtimeFacts.entries.all fun fact =>
      !fact.1.isEmpty && fact.1.length ≤ 128 && fact.2.length ≤ 4096 && !fact.2.contains 0)
    (lit "invalid SSH runtime fact")
  rejectIf (decide (t.phase = .Prepared) ≠ t.publication.isNone)
    (lit "SSH publication phase/facts mismatch")
  rejectIf
    (!t.publication.all fun pub =>
      pub.inode ≠ 0 && pub.mode ≤ 0o7777 && pub.sha256 = t.targetSha256 &&
        pub.durable = decide (t.phase ≠ .Published) &&
        (!isRelease t || (pub.owner = 0 && pub.mode &&& 0o22 = 0)))
    (lit "SSH publication identity/durability unproven")

/-- The phases behind the verification of the running service. -/
def SshTransitionPhase.isVerified : SshTransitionPhase → Bool
  | .RuntimeVerified | .OfflineVerified | .ReleasedAwaitingDisable | .Completed => true
  | .Prepared | .Published | .DurablePublished => false

def runtimeFact (t : SshOwnershipTransition) (key : Bytes) : Bytes :=
  (t.runtimeFacts.find? key).getD []

def provenFacts : List Bytes := [lit "inputs", lit "semantics", lit "persistent"]

def validSshVerification (t : SshOwnershipTransition) : Except Bytes Unit :=
  if !t.phase.isVerified then .ok ()
  else do
    rejectIf
      (!provenFacts.all fun key => t.runtimeFacts.find? key = some (lit "Proven"))
      (lit "SSH verified activation facts incomplete")
    let offline := isRelease t && t.runtimeFacts.find? (lit "offline") = some (lit "true")
    let mainPid := runtimeFact t (lit "MainPID")
    let invocation := runtimeFact t (lit "InvocationID")
    let readiness := runtimeFact t (lit "readiness")
    rejectIf
      ((runtimeFact t (lit "unit")).isEmpty || mainPid.isEmpty ||
        if offline then mainPid ≠ lit "0" || readiness ≠ lit "false"
        else invocation.isEmpty || readiness ≠ lit "true")
      (lit "SSH runtime/offline proof missing")
    rejectIf
      (isRelease t && (runtimeFact t (lit "status") ≠ lit "Success" ||
        (t.phase = .OfflineVerified && !offline) || (t.phase = .RuntimeVerified && offline) ||
        (!offline && (mainPid = lit "0" || !mainPid.all isDigit || invocation.length ≠ 32 ||
          !invocation.all isLowerHex))))
      (lit "SSH release proof kind/identity inconsistent")

/-- The permission the record must carry, and the status it must have. -/
def validSshCurrent (record : MutationRecord) (p : UndoRemoveSshManagedPolicy)
    (t : SshOwnershipTransition) : Except Bytes Unit :=
  let expected :=
    if !isRelease t && (t.phase = .Completed || t.initial) then t.target else t.previous
  let status : Bool :=
    if t.phase = .Completed then
      if isRelease t then record.status = .RolledBack else record.status ≠ .Prepared
    else record.status = .Prepared
  -- the source compares the encodings, which keep every field
  rejectIf (sshOwnedProjection p ≠ expected || !status)
    (lit "SSH current permission/transition phase mismatch")

/-- The library's exceptions are not caught here. -/
def ofChecked {α : Type} (checked : Except Bytes α) : Reader α :=
  checked.mapError .refused

@[simp] theorem ofChecked_eq_ok {α : Type} {checked : Except Bytes α} {a : α} :
    ofChecked checked = .ok a ↔ checked = .ok a := by
  cases checked <;> simp [ofChecked, Except.mapError]

/-- A release gives everything up; a refresh keeps what was owned before. -/
def validSshIntent (prim : Primitives) (t : SshOwnershipTransition) : Reader Unit :=
  if isRelease t then
    require (validSshRelease t)
      (lit "invalid SSH release previous/absent-target/publication contract")
  else do
    require (validSshRefreshContract prim t) (lit "invalid SSH refresh contract")
    require (keepsIncludedWrappers t) (lit "SSH refresh lost included wrapper authority")
    keepDisabledWrappers t t.previous.disabledIds

def validSshTransition (prim : Primitives) (record : MutationRecord)
    (p : UndoRemoveSshManagedPolicy) (t : SshOwnershipTransition) : Reader Unit := do
  require (validSshTransitionBasics prim record p t)
    (lit "invalid SSH ownership transition/provenance")
  validSshIntent prim t
  ofChecked (validSshPlan prim record p t)
  ofChecked (validSshPublication t)
  ofChecked (validSshVerification t)
  ofChecked (validSshCurrent record p t)

def validSshRecord (prim : Primitives) (record : MutationRecord) : Reader Unit :=
  if record.undo.backend ≠ .Ssh then .ok ()
  else
    match record.undo.payload with
    | .RemoveSshManagedPolicy p => do
      ofChecked (validSshProjection prim (sshOwnedProjection p))
      require (p.includedWrappers.isEmpty ||
          (p.policyName = lit "ssh_port" && p.directive = lit "Port"))
        (lit "per-file SSH ownership is Port-only")
      require (p.ownershipVersion ≠ 1 || sshIdentity record p)
        (lit "invalid SSH versioned ownership identity")
      match p.transition with
      | none => .ok ()
      | some t => validSshTransition prim record p t
    | _ => refuse []

end Fic.Journal
