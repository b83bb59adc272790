import Fic.Execution.Registry

/-!
# Mutation records

The data of `MutationRecord.h`: a record says which policy changed which
resource and carries a typed undo payload, one of twenty kinds.  Strings that
the journal itself treats as text (phases, kinds, lines) stay byte strings;
what the C++ code declares as an enumeration is one here.
-/

namespace Fic.Journal

open Fic.Lib

export Fic.Execution (PolicyRef)

inductive MutationStatus
  | Prepared
  | Applied
  | RolledBack
  | RollbackFailed
  | Detached
  deriving DecidableEq, Repr

inductive MutationBackend
  | Sysctl
  | Sudo
  | Ssh
  | Firewall
  | Grub
  | Sssd
  | Kerberos
  | Pam
  | UserCreation
  | IdentityLoginDefs
  | Scope
  | Desktop
  | DisplayManager
  deriving DecidableEq, Repr

/-! ## SYSCTL -/

/-- The state of a file as the atomic writer captures it. -/
structure AtomicTargetState where
  device : UInt64 := 0
  inode : UInt64 := 0
  content : Bytes := []
  mode : UInt32 := 0
  owner : UInt32 := 0
  group : UInt32 := 0
  deriving DecidableEq, Repr

structure SysctlContainerIdentity where
  device : UInt64 := 0
  inode : UInt64 := 0
  deriving DecidableEq, Repr

structure SysctlReleaseIntent where
  version : UInt32 := 1
  previousLegacy : Bool := false
  before : Option AtomicTargetState := none
  target : Option AtomicTargetState := none
  prepared : Option AtomicTargetState := none
  deriving DecidableEq, Repr

structure SysctlSettingState where
  version : UInt32 := 1
  containerCreated : Bool := false
  containerIdentity : Option SysctlContainerIdentity := none
  legacyContainerOrigin : UInt64 := 0
  pending : Bool := false
  hadApplied : Bool := false
  previousLegacy : Bool := false
  attempted : Bool := false
  targetValue : Bytes := []
  release : Option SysctlReleaseIntent := none
  deriving DecidableEq, Repr

structure UndoRemoveManagedSetting where
  key : Bytes := []
  appliedValue : Bytes := []
  sysctl : Option SysctlSettingState := none
  deriving DecidableEq, Repr

/-! ## SUDO -/

structure UndoReleaseSudoGlobalDefault where
  key : Bytes := []
  appliedLine : Bytes := []
  previousLine : Bytes := []
  containerId : Bytes := []
  addedSeparator : Bool := false
  separatorPrefixDigest : Bytes := []
  deriving DecidableEq, Repr

structure SudoScopedDefaultsWrapperProof where
  wrapperId : Bytes := []
  canonicalPath : Bytes := []
  payloadDigest : Bytes := []
  deriving DecidableEq, Repr

structure UndoReleaseSudoScopedDefaults where
  policyName : Bytes := []
  previousProofs : List SudoScopedDefaultsWrapperProof := []
  targetProofs : List SudoScopedDefaultsWrapperProof := []
  deriving DecidableEq, Repr

structure AuthenticationProof where
  wrapperId : Bytes := []
  canonicalPath : Bytes := []
  originalDigest : Bytes := []
  replacementDigest : Bytes := []
  deriving DecidableEq, Repr

structure UndoReleaseSudoAuthentication where
  previousProofs : List AuthenticationProof := []
  targetProofs : List AuthenticationProof := []
  deriving DecidableEq, Repr

/-! ## GRUB, firewall, Kerberos, legacy SSSD -/

structure UndoRemoveGrubManagedSetting where
  key : Bytes := []
  appliedValue : Bytes := []
  deriving DecidableEq, Repr

structure UndoRemoveFirewallPolicy where
  policyName : Bytes := []
  deriving DecidableEq, Repr

structure UndoRemoveSssdManagedSetting where
  section_ : Bytes := []
  option : Bytes := []
  appliedValue : Bytes := []
  deriving DecidableEq, Repr

inductive KerberosBeforeKind
  | Missing
  | Present
  deriving DecidableEq, Repr

structure UndoRestoreKerberosScalar where
  section_ : Bytes := []
  relation : Bytes := []
  appliedValue : Bytes := []
  beforeKind : KerberosBeforeKind := .Missing
  beforeRawLine : Bytes := []
  sectionExistedBefore : Bool := false
  deriving DecidableEq, Repr

/-! ## SSH -/

inductive SshTransitionPhase
  | Prepared
  | Published
  | DurablePublished
  | RuntimeVerified
  | Completed
  | OfflineVerified
  | ReleasedAwaitingDisable
  deriving DecidableEq, Repr

inductive SshTransitionIntent
  | Refresh
  | Release
  deriving DecidableEq, Repr

/-- Wrapper fingerprints by wrapper id, by file. -/
abbrev SshIncludedWrappers := OrderedMap (OrderedMap Bytes)

structure SshOwnedProjection where
  value : Bytes := []
  disabledIds : List Bytes := []
  ownershipVersion : UInt32 := 0
  wrapperFingerprints : OrderedMap Bytes := .empty
  includedWrappers : SshIncludedWrappers := .empty
  deriving DecidableEq

structure SshPublicationProof where
  device : UInt64 := 0
  inode : UInt64 := 0
  mode : UInt32 := 0
  owner : UInt32 := 0
  group : UInt32 := 0
  sha256 : Bytes := []
  durable : Bool := false
  deriving DecidableEq, Repr

structure SshPlannedFilePublication where
  before : SshPublicationProof := {}
  targetSha256 : Bytes := []
  replacement : Bool := false
  attempted : Bool := false
  publication : Option SshPublicationProof := none
  deriving DecidableEq, Repr

structure SshOwnershipTransition where
  version : UInt32 := 1
  sequence : UInt64 := 0
  phase : SshTransitionPhase := .Prepared
  previous : SshOwnedProjection := {}
  target : SshOwnedProjection := {}
  beforeSha256 : Bytes := []
  targetSha256 : Bytes := []
  publication : Option SshPublicationProof := none
  runtimeFacts : OrderedMap Bytes := .empty
  intent : SshTransitionIntent := .Refresh
  fileReplacement : Bool := true
  predecessorStatus : MutationStatus := .Applied
  predecessorError : Bytes := []
  files : OrderedMap SshPlannedFilePublication := .empty
  initial : Bool := false
  deriving DecidableEq

structure UndoRemoveSshManagedPolicy where
  policyName : Bytes := []
  directive : Bytes := []
  appliedValue : Bytes := []
  disabledMutationIds : List Bytes := []
  ownershipVersion : UInt32 := 0
  wrapperFingerprints : OrderedMap Bytes := .empty
  operationSequence : UInt64 := 0
  transition : Option SshOwnershipTransition := none
  includedWrappers : SshIncludedWrappers := .empty
  deriving DecidableEq

def sshOwnedProjection (p : UndoRemoveSshManagedPolicy) : SshOwnedProjection :=
  { value := p.appliedValue
    disabledIds := p.disabledMutationIds
    ownershipVersion := p.ownershipVersion
    wrapperFingerprints := p.wrapperFingerprints
    includedWrappers := p.includedWrappers }

/-! ## User creation and login.defs -/

inductive UserCreationConfigKind
  | UseraddDefaults
  | LoginDefs
  | Adduser
  deriving DecidableEq, Repr

structure UserCreationManagedAssignment where
  key : Bytes := []
  appliedLine : Bytes := []
  deriving DecidableEq, Repr

structure UndoRemoveUserCreationManagedPolicy where
  policyName : Bytes := []
  configKind : UserCreationConfigKind := .UseraddDefaults
  configPath : Bytes := []
  appliedAssignments : List UserCreationManagedAssignment := []
  previousAppliedAssignments : List UserCreationManagedAssignment := []
  deriving DecidableEq, Repr

structure UndoRemoveIdentityLoginDefsManagedPolicy where
  policyName : Bytes := []
  configPath : Bytes := []
  key : Bytes := []
  appliedLine : Bytes := []
  previousAppliedLine : Bytes := []
  deriving DecidableEq, Repr

/-! ## SSSD -/

structure SssdAssignment where
  section_ : Bytes := []
  key : Bytes := []
  value : Bytes := []
  deriving DecidableEq, Repr

structure SssdImageWitness where
  present : Bool := false
  device : UInt64 := 0
  inode : UInt64 := 0
  mode : UInt32 := 0
  owner : UInt32 := 0
  group : UInt32 := 0
  sha256 : Bytes := []
  deriving DecidableEq, Repr

structure SssdOwnedState where
  assignments : List SssdAssignment := []
  scope : Bytes := []
  sequence : UInt64 := 0
  publication : SssdImageWitness := {}
  deriving DecidableEq, Repr

structure SssdContainerWitness where
  sequence : UInt64 := 0
  releaseId : UInt64 := 0
  publication : SssdImageWitness := {}
  deriving DecidableEq, Repr

inductive SssdReleaseIntent
  | ReleaseOnly
  | DisableRelease
  deriving DecidableEq, Repr

structure SssdReleaseSurvivor where
  id : UInt64 := 0
  policy : Bytes := []
  state : SssdOwnedState := {}
  container : Option SssdContainerWitness := none
  deriving DecidableEq, Repr

structure SssdReleaseProcess where
  pid : UInt32 := 0
  parent : UInt32 := 0
  uid : UInt32 := 0
  gid : UInt32 := 0
  role : Bytes := []
  domain : Bytes := []
  startToken : Bytes := []
  executable : Bytes := []
  consumerSocket : UInt32 := 0
  monitorSocket : UInt32 := 0
  deriving DecidableEq, Repr

structure SssdReleaseRuntimeReceipt where
  invocation : Bytes := []
  configDbGeneration : Bytes := []
  nativeCode : OrderedMap Bytes := .empty
  processes : List SssdReleaseProcess := []
  deriving DecidableEq

structure SssdReleaseDetails where
  intent : SssdReleaseIntent := .ReleaseOnly
  survivors : List SssdReleaseSurvivor := []
  remaining : List SssdAssignment := []
  targetAbsent : Bool := false
  offline : Bool := false
  offlineVerified : Bool := false
  ownershipGeneration : Bytes := []
  serviceBefore : Bytes := []
  serviceAfter : Bytes := []
  stagedPath : Bytes := []
  disableGeneration : Bytes := []
  releasedGraphFingerprint : Bytes := []
  runtimeReceipt : Option SssdReleaseRuntimeReceipt := none
  deriving DecidableEq

/-- The phases in the order the source compares them by. -/
inductive SssdTransitionPhase
  | Prepared
  | MutationArmed
  | Published
  | DurablePublished
  | ActivationArmed
  | RuntimeVerified
  | Completed
  | OfflineVerified
  | ReleasedAwaitingDisable
  deriving DecidableEq, Repr

structure SssdOwnershipTransition where
  version : UInt32 := 1
  sequence : UInt64 := 0
  phase : SssdTransitionPhase := .Prepared
  previous : SssdOwnedState := {}
  target : List SssdAssignment := []
  targetScope : Bytes := []
  inputFingerprint : Bytes := []
  targetSha256 : Bytes := []
  before : SssdImageWitness := {}
  publication : SssdImageWitness := {}
  publicationDurable : Bool := false
  activationPossible : Bool := false
  a : Bool := false
  b : Bool := false
  c : Bool := false
  p : Bool := false
  clean : Bool := false
  residuals : List Bytes := []
  cleanupErrors : List Bytes := []
  runtimeFacts : OrderedMap Bytes := .empty
  release : Option SssdReleaseDetails := none
  deriving DecidableEq

structure SssdJournalOwnership where
  current : SssdOwnedState := {}
  transition : Option SssdOwnershipTransition := none
  container : Option SssdContainerWitness := none
  deriving DecidableEq

/-! ## PAM -/

inductive PamTopologyKind
  | PamAuthUpdate
  | AltTcbManaged
  deriving DecidableEq, Repr

structure UndoDisablePamCapability where
  capability : Bytes := []
  topology : PamTopologyKind := .PamAuthUpdate
  activationIdentifiers : List Bytes := []
  hadAppliedProvenance : Bool := false
  previousStrategy : Option Bytes := none
  targetStrategy : Option Bytes := none
  previousError : Bytes := []
  deriving DecidableEq, Repr

inductive PamProviderBlockPlacementContract
  | Beginning
  | End
  deriving DecidableEq, Repr

structure UndoOwnPamProviderContainer where
  providerName : Bytes := []
  configPath : Bytes := []
  deriving DecidableEq, Repr

structure UndoRemovePamProviderManagedEntry where
  policyName : Bytes := []
  providerName : Bytes := []
  configPath : Bytes := []
  managedKey : Bytes := []
  appliedBody : Bytes := []
  previousAppliedBody : Bytes := []
  placement : PamProviderBlockPlacementContract := .End
  deriving DecidableEq, Repr

structure UndoRemovePamProviderManagedFlag where
  policyName : Bytes := []
  providerName : Bytes := []
  configPath : Bytes := []
  managedKey : Bytes := []
  appliedEnabled : Bool := false
  previousAppliedEnabled : Option Bool := none
  placement : PamProviderBlockPlacementContract := .End
  suppressionIds : List Bytes := []
  previousSuppressionIds : List Bytes := []
  deriving DecidableEq, Repr

/-! ## Graphical scope, desktops, display managers -/

structure ScopeTransitionCheckpoint where
  committedScope : List Bytes := []
  targetScope : List Bytes := []
  phase : Bytes := lit "pending"
  deriving DecidableEq, Repr

structure UndoRestoreDesktopScalar where
  desktop : Bytes := []
  setting : Bytes := []
  originalLine : Option Bytes := none
  appliedLine : Bytes := []
  previousAppliedLine : Option Bytes := none
  owners : List PolicyRef := []
  hadApplied : Bool := false
  phase : Bytes := lit "ensure"
  originalLockLine : Option Bytes := none
  compiledBeforeDigest : Bytes := []
  compiledTargetDigest : Bytes := []
  deriving DecidableEq

structure UndoOwnDesktopArtifact where
  kind : Bytes := []
  phase : Bytes := lit "ensure"
  hadApplied : Bool := false
  device : UInt64 := 0
  inode : UInt64 := 0
  deriving DecidableEq, Repr

structure UndoRemoveDisplayManagerBlock where
  manager : Bytes := []
  route : UInt32 := 0
  seats : List Bytes := []
  createdFile : Bool := false
  creationDevice : UInt64 := 0
  creationInode : UInt64 := 0
  separator : Bytes := []
  hadApplied : Bool := false
  phase : Bytes := lit "ensure"
  deriving DecidableEq, Repr

/-! ## Records -/

inductive UndoPayload
  | RemoveManagedSetting (payload : UndoRemoveManagedSetting)
  | ReleaseSudoGlobalDefault (payload : UndoReleaseSudoGlobalDefault)
  | ReleaseSudoScopedDefaults (payload : UndoReleaseSudoScopedDefaults)
  | ReleaseSudoAuthentication (payload : UndoReleaseSudoAuthentication)
  | RemoveSshManagedPolicy (payload : UndoRemoveSshManagedPolicy)
  | RemoveUserCreationManagedPolicy (payload : UndoRemoveUserCreationManagedPolicy)
  | RemoveFirewallPolicy (payload : UndoRemoveFirewallPolicy)
  | RemoveGrubManagedSetting (payload : UndoRemoveGrubManagedSetting)
  | RemoveSssdManagedSetting (payload : UndoRemoveSssdManagedSetting)
  | SssdOwnership (payload : SssdJournalOwnership)
  | RestoreKerberosScalar (payload : UndoRestoreKerberosScalar)
  | DisablePamCapability (payload : UndoDisablePamCapability)
  | RemovePamProviderManagedEntry (payload : UndoRemovePamProviderManagedEntry)
  | RemovePamProviderManagedFlag (payload : UndoRemovePamProviderManagedFlag)
  | OwnPamProviderContainer (payload : UndoOwnPamProviderContainer)
  | RemoveIdentityLoginDefsManagedPolicy (payload : UndoRemoveIdentityLoginDefsManagedPolicy)
  | ScopeCheckpoint (payload : ScopeTransitionCheckpoint)
  | RestoreDesktopScalar (payload : UndoRestoreDesktopScalar)
  | OwnDesktopArtifact (payload : UndoOwnDesktopArtifact)
  | RemoveDisplayManagerBlock (payload : UndoRemoveDisplayManagerBlock)
  deriving DecidableEq

structure UndoAction where
  backend : MutationBackend
  payload : UndoPayload
  deriving DecidableEq

structure MutationRecord where
  id : UInt64 := 0
  policy : PolicyRef
  resource : Bytes
  undo : UndoAction
  status : MutationStatus := .Prepared
  createdAtEpoch : Int64 := 0
  updatedAtEpoch : Int64 := 0
  error : Bytes := []
  deriving DecidableEq

def MutationStatus.isActive : MutationStatus → Bool
  | .Prepared | .Applied | .RollbackFailed => true
  | .RolledBack | .Detached => false

def MutationRecord.isActive (record : MutationRecord) : Bool := record.status.isActive

/-! ## Names -/

def mutationStatusToString : MutationStatus → Bytes
  | .Prepared => lit "prepared"
  | .Applied => lit "applied"
  | .RolledBack => lit "rolled_back"
  | .RollbackFailed => lit "rollback_failed"
  | .Detached => lit "detached"

def mutationStatusFromString (value : Bytes) : Option MutationStatus :=
  [.Prepared, .Applied, .RolledBack, .RollbackFailed, .Detached].find? fun status =>
    mutationStatusToString status = value

def mutationBackendToString : MutationBackend → Bytes
  | .Sysctl => lit "sysctl"
  | .Sudo => lit "sudo"
  | .Ssh => lit "ssh"
  | .Firewall => lit "firewall"
  | .Grub => lit "grub"
  | .Sssd => lit "sssd"
  | .Kerberos => lit "kerberos"
  | .Pam => lit "pam"
  | .UserCreation => lit "user_creation"
  | .IdentityLoginDefs => lit "identity_login_defs"
  | .Scope => lit "scope"
  | .Desktop => lit "desktop"
  | .DisplayManager => lit "display_manager"

def mutationBackendFromString (value : Bytes) : Option MutationBackend :=
  [.Sysctl, .Sudo, .Ssh, .Firewall, .Grub, .Sssd, .Kerberos, .Pam, .UserCreation,
    .IdentityLoginDefs, .Scope, .Desktop, .DisplayManager].find? fun backend =>
    mutationBackendToString backend = value

def undoActionTypeName : UndoPayload → Bytes
  | .RemoveManagedSetting _ => lit "remove_managed_setting"
  | .ReleaseSudoGlobalDefault _ => lit "release_sudo_global_default"
  | .ReleaseSudoScopedDefaults _ => lit "release_sudo_scoped_defaults"
  | .ReleaseSudoAuthentication _ => lit "release_sudo_authentication"
  | .RemoveSshManagedPolicy _ => lit "remove_ssh_managed_policy"
  | .RemoveUserCreationManagedPolicy _ => lit "remove_user_creation_managed_policy"
  | .RemoveFirewallPolicy _ => lit "remove_firewall_policy"
  | .RemoveGrubManagedSetting _ => lit "remove_grub_managed_setting"
  | .RemoveSssdManagedSetting _ => lit "remove_sssd_managed_setting"
  | .SssdOwnership _ => lit "sssd_journal_ownership"
  | .RestoreKerberosScalar _ => lit "restore_kerberos_scalar"
  | .DisablePamCapability _ => lit "disable_pam_capability"
  | .RemovePamProviderManagedEntry _ => lit "remove_pam_provider_managed_entry"
  | .RemovePamProviderManagedFlag _ => lit "remove_pam_provider_managed_flag"
  | .OwnPamProviderContainer _ => lit "own_pam_provider_container"
  | .RemoveIdentityLoginDefsManagedPolicy _ => lit "remove_identity_login_defs_managed_policy"
  | .ScopeCheckpoint _ => lit "scope_transition_checkpoint"
  | .RestoreDesktopScalar _ => lit "restore_desktop_scalar"
  | .OwnDesktopArtifact _ => lit "own_desktop_artifact"
  | .RemoveDisplayManagerBlock _ => lit "remove_display_manager_block"

@[simp] theorem mutationStatusFromString_toString (status : MutationStatus) :
    mutationStatusFromString (mutationStatusToString status) = some status := by
  cases status <;> decide

@[simp] theorem mutationBackendFromString_toString (backend : MutationBackend) :
    mutationBackendFromString (mutationBackendToString backend) = some backend := by
  cases backend <;> decide

end Fic.Journal
