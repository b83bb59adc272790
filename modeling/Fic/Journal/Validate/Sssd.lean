import Fic.Journal.Validate.Payload

/-!
# Validators of SSSD ownership records

`SssdJournalPayload.h`: a record owns a set of assignments in the shared
drop-in, possibly with a transition under way.  A release is a transition that
leaves the assignments of the surviving owners behind.
-/

namespace Fic.Journal

open Fic.Lib

/-! ## Images, assignments and states -/

def validImage (w : SssdImageWitness) : Bool :=
  if !w.present then w = {}
  else
    w.inode ≠ 0 && w.owner = 0 && (w.mode = 0o600 || w.mode = 0o640) &&
      isCanonicalSha256Hex w.sha256

/-- The order of `(section, key)` pairs. -/
def SssdAssignment.before (a b : SssdAssignment) : Bool :=
  a.section_ < b.section_ || (a.section_ = b.section_ && a.key < b.key)

def isSortedBy {α : Type} (before : α → α → Bool) : List α → Bool
  | a :: b :: rest => before a b && isSortedBy before (b :: rest)
  | _ => true

def isDomainByte (b : UInt8) : Bool := isAlnum b || (lit "_-.").contains b

def isDomainSection (name : Bytes) : Bool :=
  lit "domain/" <+: name && 7 < name.length && name.length ≤ 262 &&
    (name.drop 7).all isDomainByte

/-- The assignment is one the policy may own; `count` is the number of all its
assignments. -/
def validAssignment (policy : Bytes) (count : Nat) (a : SssdAssignment) : Bool :=
  (if a.key = lit "offline_credentials_expiration" then
      policy = lit "sssd_offline_credentials_expiration" && a.section_ = lit "pam" && count = 1
    else
      isDomainSection a.section_ &&
        (a.key = lit "cache_credentials" || a.key = lit "account_cache_expiration") &&
        policy = lit "sssd_" ++ a.key) &&
    if a.key = lit "cache_credentials" then a.value = lit "true"
    else isCanonicalUpTo 3650 a.value

def validAssignments (assignments : List SssdAssignment) (policy : Bytes) : Bool :=
  !assignments.isEmpty && assignments.length ≤ 256 &&
    isSortedBy SssdAssignment.before assignments &&
    assignments.all (validAssignment policy assignments.length)

def validState (s : SssdOwnedState) (policy : Bytes) (emptyAllowed : Bool) : Bool :=
  if s.assignments.isEmpty then
    emptyAllowed && s.scope.isEmpty && s.sequence = 0 && !s.publication.present &&
      validImage s.publication
  else
    validAssignments s.assignments policy && s.sequence > 0 && !s.scope.isEmpty &&
      s.scope.length < 65536 && s.publication.present && validImage s.publication

def validContainer (c : Option SssdContainerWitness) (s : SssdOwnedState) : Bool :=
  c.all fun c =>
    c.sequence > s.sequence && c.releaseId > 0 && c.publication.present &&
      validImage c.publication

/-- The sequence and the image a container witness supersedes. -/
def witnessedSequence (c : Option SssdContainerWitness) (s : SssdOwnedState) : UInt64 :=
  (c.map (·.sequence)).getD s.sequence

def witnessedPublication (c : Option SssdContainerWitness) (s : SssdOwnedState) :
    SssdImageWitness :=
  (c.map (·.publication)).getD s.publication

/-- The drop-in file with these assignments; none if one is assigned twice. -/
def rendered (assignments : List SssdAssignment) : Option Bytes :=
  if (assignments.map fun a => (a.section_, a.key)).Nodup then
    let sections := (assignments.map (·.section_)).dedup.mergeSort
    some (sections.flatMap fun name =>
      let keys := (assignments.filter fun a => a.section_ = name).mergeSort fun a b =>
        a.key ≤ b.key
      lit "[" ++ name ++ lit "]\n" ++
        keys.flatMap (fun a => a.key ++ lit " = " ++ a.value ++ lit "\n") ++ lit "\n")
  else none

/-! ## Releases -/

def SssdTransitionPhase.rank : SssdTransitionPhase → Nat
  | .Prepared => 0
  | .MutationArmed => 1
  | .Published => 2
  | .DurablePublished => 3
  | .ActivationArmed => 4
  | .RuntimeVerified => 5
  | .Completed => 6
  | .OfflineVerified => 7
  | .ReleasedAwaitingDisable => 8

def validReleaseIdentity (r : MutationRecord) (o : SssdJournalOwnership)
    (t : SssdOwnershipTransition) (d : SssdReleaseDetails) : Bool :=
  (t.version = 2 || t.version = 3) && t.targetScope.isEmpty &&
    !t.previous.assignments.isEmpty && o.current = t.previous && t.target.isEmpty &&
    validState t.previous r.policy.policyName false &&
    witnessedSequence o.container o.current < t.sequence && t.before.present &&
    validImage t.before && validImage t.publication && isCanonicalSha256Hex t.inputFingerprint &&
    isCanonicalSha256Hex t.targetSha256 && isCanonicalSha256Hex d.ownershipGeneration &&
    isCanonicalSha256Hex d.serviceBefore && d.survivors.length ≤ 2 &&
    d.targetAbsent = d.remaining.isEmpty && t.residuals.length ≤ 64 &&
    t.cleanupErrors.length ≤ 64 && t.runtimeFacts.size ≤ 128 &&
    d.stagedPath =
      (if d.targetAbsent then
        lit "/etc/sssd/conf.d/zzzz-fic.conf.fic-removing-i5-" ++ toDecimal r.id.toNat ++
          lit "-" ++ toDecimal t.sequence.toNat
      else [])

def validSurvivor (r : MutationRecord) (t : SssdOwnershipTransition)
    (p : SssdReleaseSurvivor) : Bool :=
  p.id ≠ 0 && p.id ≠ r.id && p.policy ≠ r.policy.policyName &&
    validState p.state p.policy false && validContainer p.container p.state &&
    witnessedSequence p.container p.state < t.sequence

/-- What the survivors own, in the order of the file. -/
def survivingAssignments (survivors : List SssdReleaseSurvivor) : List SssdAssignment :=
  (survivors.flatMap fun p => p.state.assignments).mergeSort fun a b => !b.before a

/-- The latest image among the owner's and the survivors'; none if two images
claim the same sequence. -/
def latestImage : List SssdReleaseSurvivor → UInt64 → SssdImageWitness → Option SssdImageWitness
  | [], _, image => some image
  | p :: survivors, latest, image =>
    let sequence := witnessedSequence p.container p.state
    let publication := witnessedPublication p.container p.state
    if sequence = latest ∧ publication ≠ image then none
    else if latest < sequence then latestImage survivors sequence publication
    else latestImage survivors latest image

def validReleaseProjection (prim : Primitives) (r : MutationRecord) (o : SssdJournalOwnership)
    (t : SssdOwnershipTransition) (d : SssdReleaseDetails) : Bool :=
  let expected := survivingAssignments d.survivors
  d.survivors.all (validSurvivor r t) && (d.survivors.map (·.id)).Nodup &&
    (d.survivors.map (·.policy)).Nodup && expected = d.remaining &&
    -- the released keys and the remaining ones are all different
    ((t.previous.assignments.map fun a => (a.section_, a.key)).dedup ++
      d.remaining.map fun a => (a.section_, a.key)).Nodup &&
    latestImage d.survivors (witnessedSequence o.container o.current)
      (witnessedPublication o.container o.current) = some t.before &&
    (rendered expected).any fun text => prim.sha256Hex text = t.targetSha256

def validReleasePhase (r : MutationRecord) (t : SssdOwnershipTransition)
    (d : SssdReleaseDetails) : Bool :=
  r.status = (if t.phase = .Completed then .RolledBack else .Prepared) &&
    match t.phase with
    | .Prepared | .MutationArmed =>
      !t.publication.present && !t.publicationDurable && !t.activationPossible &&
        !d.offlineVerified && !t.a && !t.b && !t.c && !t.p && !t.clean && t.runtimeFacts.isEmpty
    | phase =>
      t.publication.present = !d.targetAbsent &&
        (d.targetAbsent || t.publication.sha256 = t.targetSha256) &&
        (phase = .Published || t.publicationDurable)

/-- The phases behind the verification of the running, or stopped, service. -/
def SssdTransitionPhase.isVerified : SssdTransitionPhase → Bool
  | .RuntimeVerified | .OfflineVerified | .ReleasedAwaitingDisable | .Completed => true
  | _ => false

def validReleaseVerification (t : SssdOwnershipTransition) (d : SssdReleaseDetails) : Bool :=
  let verified := t.phase.isVerified
  (if d.offline then
      !t.activationPossible && !t.a && !t.b && !t.c && t.phase ≠ .ActivationArmed &&
        t.phase ≠ .RuntimeVerified && (!verified || d.offlineVerified)
    else
      !d.offlineVerified && t.phase ≠ .OfflineVerified &&
        (!verified || (t.activationPossible && t.a && t.b && t.c))) &&
    (!verified || (t.p && t.clean && t.residuals.isEmpty && t.cleanupErrors.isEmpty &&
      isCanonicalSha256Hex d.serviceAfter &&
      isCanonicalSha256Hex d.releasedGraphFingerprint)) &&
    !(t.phase = .ReleasedAwaitingDisable && d.intent ≠ .DisableRelease)

/-! ## Runtime receipts -/

def validProcess (p : SssdReleaseProcess) : Bool :=
  p.pid ≠ 0 && p.pid.toNat ≤ 2 ^ 31 - 1 && p.parent.toNat ≤ 2 ^ 31 - 1 &&
    !p.startToken.isEmpty && p.startToken.length ≤ 64 && isAbsolutePath p.executable &&
    p.executable.length ≤ 4096 && !p.role.isEmpty && p.role.length ≤ 32 &&
    p.domain.length ≤ 256 &&
    (p.role = lit "monitor" || (p.consumerSocket ≠ 0 && p.monitorSocket ≠ 0))

/-- An array of eleven values of which the last is a string that passes. -/
def isObservation (test : Bytes → Bool) : Json → Bool
  | .array elements =>
    elements.length = 11 && elements.getLast?.any fun
      | .string text => test text
      | _ => false
  | _ => false

/-- The alias observations around the fingerprint of a shell command. -/
def aliasedSource (fingerprint : Json) : Option Bytes :=
  match fingerprint.find? (lit "aliases"), fingerprint.find? (lit "source") with
  | some (.array aliases), some (.string source) =>
    if aliases.length ≤ 2 ∧ aliases.all (isObservation fun text => text.length ≤ 4096) then
      some source
    else none
  | _, _ => none

def validNativeCode (prim : Primitives) (path pin : Bytes) : Bool :=
  isAbsolutePath path && path.length ≤ 4096 && !pin.isEmpty && pin.length ≤ 65536 &&
    let fingerprint :=
      if [lit "/bin/sh", lit "/bin/chmod", lit "/bin/chown"].contains path then
        (prim.parseJson pin).bind fun outer => (aliasedSource outer).bind prim.parseJson
      else prim.parseJson pin
    fingerprint.any fun fingerprint =>
      (fingerprint.find? (lit "file")).any (isObservation isCanonicalSha256Hex)

def validReceipt (prim : Primitives) (t : SssdOwnershipTransition)
    (receipt : SssdReleaseRuntimeReceipt) : Bool :=
  t.a && t.b && t.c && !receipt.invocation.isEmpty && receipt.invocation.length ≤ 128 &&
    !receipt.configDbGeneration.isEmpty && receipt.configDbGeneration.length ≤ 1024 &&
    !receipt.nativeCode.isEmpty && receipt.nativeCode.size ≤ 32 &&
    receipt.processes.length ≤ 260 &&
    receipt.processes.head?.any (fun p => p.role = lit "monitor") &&
    (receipt.processes.map (·.pid)).Nodup && receipt.processes.all validProcess &&
    receipt.nativeCode.entries.all (fun entry => validNativeCode prim entry.1 entry.2) &&
    t.runtimeFacts.find? (lit "new_invocation") = some receipt.invocation &&
    t.runtimeFacts.find? (lit "configdb") = some receipt.configDbGeneration

def validReleaseReceipt (prim : Primitives) (t : SssdOwnershipTransition)
    (d : SssdReleaseDetails) : Bool :=
  if t.version = 3 then
    !(d.offline && d.runtimeReceipt.isSome) &&
      !(!d.offline && t.phase.isVerified && d.runtimeReceipt.isNone) &&
      d.runtimeReceipt.all (validReceipt prim t)
  else d.runtimeReceipt.isNone

def validDisableGeneration (t : SssdOwnershipTransition) (d : SssdReleaseDetails) : Bool :=
  if t.phase = .Completed ∧ d.intent = .DisableRelease then
    t.version = 3 && isCanonicalSha256Hex d.disableGeneration
  else d.disableGeneration.isEmpty

def validReleaseRecord (prim : Primitives) (r : MutationRecord) (o : SssdJournalOwnership)
    (t : SssdOwnershipTransition) (d : SssdReleaseDetails) : Bool :=
  validReleaseIdentity r o t d && validReleaseProjection prim r o t d &&
    validReleasePhase r t d && validReleaseVerification t d && validReleaseReceipt prim t d &&
    validDisableGeneration t d

/-! ## Records -/

def validOwnershipTransition (r : MutationRecord) (own : SssdJournalOwnership)
    (t : SssdOwnershipTransition) : Bool :=
  let policy := r.policy.policyName
  let rank := t.phase.rank
  let target : SssdOwnedState :=
    { assignments := t.target
      scope := t.targetScope
      sequence := t.sequence
      publication := t.publication }
  rank ≤ 6 && t.version = 1 && validAssignments t.target policy &&
    validState t.previous policy true && t.sequence > t.previous.sequence &&
    !t.targetScope.isEmpty && t.targetScope.length < 65536 && validImage t.before &&
    validImage t.publication && isCanonicalSha256Hex t.inputFingerprint &&
    isCanonicalSha256Hex t.targetSha256 && t.residuals.length ≤ 64 &&
    t.cleanupErrors.length ≤ 64 && t.runtimeFacts.size ≤ 128 &&
    r.status = (if t.phase = .Completed then .Applied else .Prepared) &&
    own.current = (if t.phase = .Completed then target else t.previous) &&
    (rank > 1 || (!t.publication.present && !t.publicationDurable && !t.activationPossible &&
      !t.a && !t.b && !t.c && !t.p && !t.clean && t.runtimeFacts.isEmpty &&
      t.residuals.isEmpty && t.cleanupErrors.isEmpty)) &&
    (rank < 2 || (t.publication.present && t.publication.sha256 = t.targetSha256)) &&
    (rank < 3 || t.publicationDurable) &&
    (rank ≥ 4 || (!t.activationPossible && !t.a && !t.b && !t.c && !t.p && !t.clean)) &&
    (rank < 5 || (t.activationPossible && t.a && t.b && t.c && t.p && t.clean &&
      t.residuals.isEmpty && t.cleanupErrors.isEmpty))

def validSssdIdentity (r : MutationRecord) (own : SssdJournalOwnership) : Bool :=
  r.undo.backend = .Sssd && r.policy.moduleName = lit "IDENTITY_ACCESS" &&
    r.policy.submoduleName = lit "SSSD" &&
    r.resource = lit "sssd/managed/" ++ r.policy.policyName &&
    validState own.current r.policy.policyName true && validContainer own.container own.current

def validSssdRecord (prim : Primitives) (r : MutationRecord) : Except Bytes Unit :=
  let failed := lit "Invalid SSSD I4 identity/ownership/transition facts"
  match r.undo.payload with
  | .SssdOwnership own => do
    rejectIf (!validSssdIdentity r own) failed
    match own.transition with
    | none => rejectIf (own.current.assignments.isEmpty || r.status ≠ .Applied) failed
    | some t =>
      match t.release with
      | some d =>
        rejectIf (!validReleaseRecord prim r own t d)
          (lit "Invalid SSSD I5 release identity/projection/proof")
      | none => rejectIf (!validOwnershipTransition r own t) failed
  | _ => .ok ()

/-! ## Links between records -/

/-- The record whose completed release left this container to its survivors. -/
def releaseOf (records : List MutationRecord) (releaseId : UInt64) :
    Option (MutationRecord × SssdJournalOwnership) :=
  match records.reverse.find? fun r => r.id = releaseId with
  | none => none
  | some r =>
    match r.undo.payload with
    | .SssdOwnership released => some (r, released)
    | _ => none

def validContainerLink (records : List MutationRecord) (owner : MutationRecord)
    (p : SssdJournalOwnership) (c : SssdContainerWitness) : Except Bytes Unit :=
  let unproven := lit "SSSD container handoff has no terminal release provenance"
  match releaseOf records c.releaseId with
  | none => .error unproven
  | some (source, released) =>
    match released.transition with
    | none => .error unproven
    | some t =>
      match t.release with
      | none => .error unproven
      | some d => do
        rejectIf
          (source.status ≠ .RolledBack || t.phase ≠ .Completed || t.sequence ≠ c.sequence ||
            t.publication ≠ c.publication)
          unproven
        rejectIf
          (!(d.survivors.find? fun s => s.id = owner.id).any fun s =>
            s.policy = owner.policy.policyName && s.state = p.current)
          (lit "SSSD handoff changed surviving assignment authority")

/-- The loop over the active owners with a container witness. -/
def validContainerLinksFrom (records : List MutationRecord) :
    List MutationRecord → Except Bytes Unit
  | [] => .ok ()
  | owner :: owners => do
    match owner.undo.payload with
    | .SssdOwnership p =>
      match p.container with
      | some c =>
        if owner.isActive then validContainerLink records owner p c else .ok ()
      | none => .ok ()
    | _ => .ok ()
    validContainerLinksFrom records owners

def validContainerLinks (records : List MutationRecord) : Except Bytes Unit :=
  validContainerLinksFrom records records

end Fic.Journal
