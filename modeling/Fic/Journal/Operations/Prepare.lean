import Fic.Journal.State

/-!
# Preparing a mutation

`MutationJournal::prepareMutationImpl`: the checks of an incoming record, the
guards that compare it with the records of the journal, and the two ways to go
on, refreshing the active record of the same mutation or appending a new one.
-/

namespace Fic.Journal

open Fic.Lib Journal

/-- The outcome of a check that runs before anything is changed. -/
def refuseWith {ε : Type} (fault : ε → Reply) (check : Except ε Unit) (j : Journal)
    (continue_ : Outcome) : Outcome :=
  match check with
  | .error e => (j, fault e)
  | .ok () => continue_

def faultReply : Fault → Reply
  | .refused error => .refused error
  | .thrown _ => .threw

/-- Some active record stands for the same mutation. -/
def refreshesActiveRecord (records : List MutationRecord) (record : MutationRecord) : Bool :=
  records.any fun current => current.isActive && sameIdentity current record

/-! ## Graphical payloads -/

/-- A fresh scalar claims nothing; a refresh keeps what the predecessor has. -/
def desktopScalarGuard (records : List MutationRecord) (record : MutationRecord) :
    Reader Unit :=
  match record.undo.backend, record.undo.payload with
  | .Desktop, .RestoreDesktopScalar incoming =>
    match records.reverse.find? fun e => e.isActive && sameIdentity e record with
    | none =>
      require
        (!(incoming.hadApplied || incoming.previousAppliedLine.isSome ||
          incoming.phase ≠ lit "ensure"))
        (lit "fresh desktop scalar must not claim previous ownership or release authority")
    | some predecessor =>
      match predecessor.undo.payload with
      | .RestoreDesktopScalar previous =>
        require
          (!(incoming.originalLine ≠ previous.originalLine ||
            incoming.originalLockLine ≠ previous.originalLockLine ||
            (previous.hadApplied && !incoming.hadApplied) ||
            (previous.phase = lit "release" && incoming.phase ≠ lit "release") ||
            (incoming.previousAppliedLine.isSome &&
              incoming.previousAppliedLine ≠ previous.previousAppliedLine &&
              incoming.previousAppliedLine ≠ some previous.appliedLine)))
          (lit "desktop scalar refresh would lose or invent ownership provenance")
      | _ => throwing (lit "std::get: wrong index for variant")
  | _, _ => .ok ()

/-- The payload of the last active record of a backend for a resource. -/
def lastPayload (records : List MutationRecord) (backend : MutationBackend) (resource : Bytes) :
    Option UndoPayload :=
  (records.reverse.find? fun e =>
    e.isActive && e.resource = resource && e.undo.backend = backend).map (·.undo.payload)

def desktopArtifactGuard (records : List MutationRecord) (record : MutationRecord) :
    Except Bytes Unit :=
  match record.undo.payload with
  | .OwnDesktopArtifact incoming =>
    let lost := lit "GNOME artifact refresh loses or invents ownership"
    match lastPayload records .Desktop record.resource with
    | some (.OwnDesktopArtifact previous) =>
      rejectIf
        ((previous.hadApplied && (!incoming.hadApplied || incoming.device ≠ previous.device ||
            incoming.inode ≠ previous.inode)) ||
          (previous.phase = lit "release" && incoming.phase ≠ lit "release"))
        lost
    | _ => rejectIf (incoming.hadApplied || incoming.phase ≠ lit "ensure") lost
  | _ => .ok ()

def displayManagerGuard (records : List MutationRecord) (record : MutationRecord) :
    Except Bytes Unit :=
  match record.undo.payload with
  | .RemoveDisplayManagerBlock incoming =>
    let lost := lit "DM refresh loses or invents ownership"
    match lastPayload records .DisplayManager record.resource with
    | some (.RemoveDisplayManagerBlock previous) =>
      rejectIf
        (incoming.manager ≠ previous.manager || incoming.route ≠ previous.route ||
          incoming.seats ≠ previous.seats || incoming.createdFile ≠ previous.createdFile ||
          incoming.separator ≠ previous.separator ||
          (previous.hadApplied && (!incoming.hadApplied ||
            incoming.creationDevice ≠ previous.creationDevice ||
            incoming.creationInode ≠ previous.creationInode)) ||
          (previous.phase = lit "release" && incoming.phase ≠ lit "release"))
        lost
    | _ =>
      rejectIf
        (incoming.hadApplied || incoming.phase ≠ lit "ensure" || incoming.creationDevice ≠ 0 ||
          incoming.creationInode ≠ 0)
        lost
  | _ => .ok ()

/-! ## Payloads that have to agree with the identity of their record -/

def inconsistent (what : Bytes) (record : MutationRecord) : Bytes :=
  what ++ lit " (" ++ quoted record.resource ++
    lit "): payload не согласован с identity (fail closed)"

def grubGuard (record : MutationRecord) : Except Bytes Unit :=
  let error := inconsistent (lit "GRUB mutation record требует undo key == resource") record
  match record.undo.payload with
  | .RemoveGrubManagedSetting grub => do
    rejectIf (grub.key ≠ record.resource) error
    validateGrubUndoPayload grub
  | _ => .error error

def sssdGuard (record : MutationRecord) : Except Bytes Unit :=
  let error := inconsistent (lit ("SSSD mutation record требует resource " ++
    "'<section>/<option>', согласованный с undo payload")) record
  match record.undo.payload with
  | .SssdOwnership _ => .ok ()
  | .RemoveSssdManagedSetting sssd => do
    rejectIf (sssd.section_ ++ lit "/" ++ sssd.option ≠ record.resource) error
    validateSssdUndoPayload sssd
  | _ => .error error

def kerberosGuard (record : MutationRecord) : Except Bytes Unit :=
  let error := inconsistent (lit ("Kerberos mutation record требует resource " ++
    "'<section>/<relation>', согласованный с undo payload")) record
  match record.undo.payload with
  | .RestoreKerberosScalar kerberos => do
    rejectIf (kerberos.section_ ++ lit "/" ++ kerberos.relation ≠ record.resource) error
    validateKerberosUndoPayload kerberos
  | _ => .error error

def pamGuard (record : MutationRecord) : Except Bytes Unit :=
  match record.undo.payload with
  | .RemovePamProviderManagedEntry entry => do
    rejectIf (!record.isIdentityRecord (lit "PAM") entry.policyName entry.configPath)
      (lit ("PAM provider managed-entry mutation record identity " ++
        "does not match undo payload (fail closed)"))
    validatePamProviderManagedEntryUndoPayload entry
  | .RemovePamProviderManagedFlag flag => do
    rejectIf (!record.isIdentityRecord (lit "PAM") flag.policyName flag.configPath)
      (lit ("PAM provider managed-flag mutation record identity " ++
        "does not match undo payload (fail closed)"))
    validatePamProviderManagedFlagUndoPayload flag
  | .OwnPamProviderContainer container => do
    rejectIf
      (!record.isIdentityRecord (lit "PAM_CONTAINER") container.providerName
        container.configPath)
      (lit ("PAM provider container-ownership mutation record " ++
        "identity does not match undo payload (fail closed)"))
    validatePamProviderContainerUndoPayload container
  | .DisablePamCapability pam => do
    rejectIf
      (!record.isIdentityRecord (lit "PAM") pam.capability
        (lit "capability/" ++ pam.capability))
      (lit "PAM mutation record identity does not match undo")
    validatePamUndoPayload pam
  | _ => .error (lit "PAM mutation record identity does not match undo")

def kScopedDefaultsResource : Bytes := lit "sudo/scoped_defaults/wrappers"

def sudoPolicy (policyName : Bytes) : PolicyRef :=
  { moduleName := lit "DAC", submoduleName := lit "SudoEdit", policyName := policyName }

def sudoGuard (prim : Primitives) (records : List MutationRecord) (record : MutationRecord) :
    Except Bytes Unit :=
  match record.undo.payload with
  | .ReleaseSudoAuthentication auth =>
    rejectIf
      (!(records.any fun current => current.isActive && current.policy = record.policy &&
          current.resource = record.resource) && !auth.previousProofs.isEmpty)
      (lit "Fresh authentication record claims previous ownership")
  | .ReleaseSudoScopedDefaults payload => do
    rejectIf
      (record.policy ≠ sudoPolicy payload.policyName ||
        record.resource ≠ kScopedDefaultsResource)
      (lit ("SUDO scoped-defaults mutation record identity does " ++
        "not match undo payload (fail closed)"))
    validateSudoScopedDefaultsUndoPayload prim payload
    rejectIf (!refreshesActiveRecord records record && !payload.previousProofs.isEmpty)
      (lit ("fresh SUDO scoped-defaults mutation must not claim " ++
        "previous wrapper proofs (fail closed)"))
  | _ => .ok ()

def userCreationGuard (records : List MutationRecord) (record : MutationRecord) :
    Except Bytes Unit :=
  let error := lit "USER_CREATION mutation record identity/payload is invalid"
  match record.undo.payload with
  | .RemoveUserCreationManagedPolicy payload => do
    rejectIf
      (!record.isIdentityRecord (lit "USER_CREATION") payload.policyName payload.configPath)
      error
    validateUserCreationUndoPayload payload
    rejectIf
      (!refreshesActiveRecord records record && !payload.previousAppliedAssignments.isEmpty)
      (lit ("fresh USER_CREATION mutation must not claim previous " ++
        "applied assignments (fail closed)"))
  | _ => .error error

def loginDefsGuard (records : List MutationRecord) (record : MutationRecord) :
    Except Bytes Unit :=
  let error := lit ("identity_login_defs mutation record identity/payload " ++ "is invalid")
  match record.undo.payload with
  | .RemoveIdentityLoginDefsManagedPolicy payload =>
    match findSharedLoginDefsPolicySpec payload.policyName with
    | none => .error error
    | some spec => do
      rejectIf (!record.isIdentityRecord spec.submodule payload.policyName payload.configPath)
        error
      validateIdentityLoginDefsUndoPayload payload
      rejectIf (!refreshesActiveRecord records record && !payload.previousAppliedLine.isEmpty)
        (lit ("fresh identity_login_defs mutation must not claim a " ++
          "previous applied line (fail closed)"))
  | _ => .error error

/-! ## PAM provider records side by side -/

/-- The suppression ids an unresolved transition may have to release. -/
def preparedPamFlagSuppressionAuthority (flag : UndoRemovePamProviderManagedFlag) :
    List Bytes :=
  flag.suppressionIds ++ flag.previousSuppressionIds

def activePamFlagSuppressionAuthority (record : MutationRecord)
    (flag : UndoRemovePamProviderManagedFlag) : List Bytes :=
  if !record.isActive then []
  else if record.status = .Prepared then preparedPamFlagSuppressionAuthority flag
  else flag.suppressionIds

/-- The first id of the incoming flag that another active record may release. -/
def flagCollision (incoming : List Bytes) (flag : UndoRemovePamProviderManagedFlag)
    (record other : MutationRecord) : Option Bytes :=
  if !other.isActive || other.undo.backend ≠ .Pam || other.policy = record.policy ||
      other.resource ≠ record.resource then none
  else
    match other.undo.payload with
    | .RemovePamProviderManagedFlag otherFlag =>
      if otherFlag.configPath ≠ flag.configPath then none
      else incoming.find? (activePamFlagSuppressionAuthority other otherFlag).contains
    | _ => none

def pamFlagGuard (records : List MutationRecord) (record : MutationRecord)
    (flag : UndoRemovePamProviderManagedFlag) : Except Bytes Unit :=
  let incoming := preparedPamFlagSuppressionAuthority flag
  match records.findSome? fun other =>
      (flagCollision incoming flag record other).map fun id => (other, id) with
  | none => .ok ()
  | some (other, id) =>
    .error (lit "suppression id " ++ quoted id ++
      lit (" of the prepared PAM provider managed-flag " ++
        "record is already provable rollback authority " ++ "of active record ") ++
      toDecimal other.id.toNat ++ lit " for " ++ flag.configPath ++ lit " (fail closed)")

/-- Another provider has created this file. -/
def claimsContainer (record : MutationRecord) (configPath : Bytes) (other : MutationRecord) :
    Bool :=
  match other.undo.payload with
  | .OwnPamProviderContainer container =>
    other.isActive && container.configPath = configPath && other.policy ≠ record.policy
  | _ => false

def pamLifecycleGuard (records : List MutationRecord) (record : MutationRecord) :
    Except Bytes Unit :=
  match record.undo.payload with
  | .RemovePamProviderManagedEntry entry =>
    rejectIf (!refreshesActiveRecord records record && !entry.previousAppliedBody.isEmpty)
      (lit ("remove_pam_provider_managed_entry fresh record " ++
        "must not claim a previous applied body (fail " ++
        "closed): refresh the active record instead"))
  | .RemovePamProviderManagedFlag flag => pamFlagGuard records record flag
  | .OwnPamProviderContainer container =>
    rejectIf (records.any (claimsContainer record container.configPath))
      (lit ("an active own_pam_provider_container record " ++
        "for another provider already exists for this " ++ "config path (fail closed): ") ++
        quoted container.configPath)
  | _ => .ok ()

/-! ## Admission -/

def isSssdOwnership : UndoPayload → Bool
  | .SssdOwnership _ => true
  | _ => false

/-- Typed SSH ownership that only the typed operations may write. -/
def hasTypedSsh : UndoPayload → Bool
  | .RemoveSshManagedPolicy p => p.transition.isSome || !p.includedWrappers.isEmpty
  | _ => false

/-- Every check in front of the search for the active record. -/
def admitMutation (prim : Primitives) (sshInitial : Bool) (record : MutationRecord)
    (j : Journal) : Reader Unit := do
  let backend := record.undo.backend
  require (!isSssdOwnership record.undo.payload)
    (lit "SSSD I4 ownership requires typed transaction API")
  ofChecked (validateSudoGlobalRecord prim record)
  validSshRecord prim record
  ofChecked (validSysctlRecord record)
  require (!(hasTypedSsh record.undo.payload && !sshInitial))
    (lit "SSH transitions require the typed journal API")
  ofChecked (requireHealthy kIndeterminate j)
  require (!(record.policy.moduleName.isEmpty || record.policy.policyName.isEmpty))
    (lit "Mutation record требует module и policy")
  require (!record.resource.isEmpty) (lit "Mutation record требует resource")
  ofChecked (checkIf record.isScope (validScopeRecord record))
  ofChecked (checkIf record.isDesktop (validDesktopRecord record))
  desktopScalarGuard j.records record
  ofChecked (desktopArtifactGuard j.records record)
  ofChecked (checkIf record.isDm (validDmRecord record))
  ofChecked (displayManagerGuard j.records record)
  ofChecked (checkIf (backend = .Grub) (grubGuard record))
  ofChecked (checkIf (backend = .Sssd) (sssdGuard record))
  ofChecked (checkIf (backend = .Kerberos) (kerberosGuard record))
  ofChecked (checkIf (backend = .Pam) (pamGuard record))
  ofChecked (checkIf (backend = .Sudo) (sudoGuard prim j.records record))
  ofChecked (checkIf (backend = .UserCreation) (userCreationGuard j.records record))
  ofChecked (checkIf (backend = .IdentityLoginDefs) (loginDefsGuard j.records record))
  ofChecked (checkIf (backend = .Pam) (pamLifecycleGuard j.records record))

/-! ## Refreshing -/

def userCreationRefreshGuard (status : MutationStatus) :
    UndoPayload → UndoPayload → Except Bytes Unit
  | .RemoveUserCreationManagedPolicy old, .RemoveUserCreationManagedPolicy new => do
    rejectIf
      (old.policyName ≠ new.policyName || old.configKind ≠ new.configKind ||
        old.configPath ≠ new.configPath)
      (lit ("USER_CREATION refresh changed ownership identity " ++ "(fail closed)"))
    match status with
    | .Prepared =>
      rejectIf
        (old.appliedAssignments ≠ new.appliedAssignments ||
          old.previousAppliedAssignments ≠ new.previousAppliedAssignments)
        (lit ("USER_CREATION refresh conflicts with an " ++
          "unresolved Prepared transition (fail closed)"))
    | .RollbackFailed =>
      .error (lit ("USER_CREATION RollbackFailed provenance cannot " ++
        "be refreshed by ordinary apply (fail closed)"))
    | .Applied =>
      rejectIf (new.previousAppliedAssignments ≠ old.appliedAssignments)
        (lit ("USER_CREATION refresh does not carry the " ++
          "currently owned assignments as previous state " ++ "(fail closed)"))
    | _ => .ok ()
  | _, _ =>
    .error (lit ("USER_CREATION refresh changed ownership identity " ++ "(fail closed)"))

def loginDefsRefreshGuard (status : MutationStatus) :
    UndoPayload → UndoPayload → Except Bytes Unit
  | .RemoveIdentityLoginDefsManagedPolicy old, .RemoveIdentityLoginDefsManagedPolicy new => do
    rejectIf
      (old.policyName ≠ new.policyName || old.configPath ≠ new.configPath ||
        old.key ≠ new.key)
      (lit ("identity_login_defs refresh changed ownership " ++ "identity (fail closed)"))
    match status with
    | .Prepared =>
      rejectIf
        (old.appliedLine ≠ new.appliedLine ||
          old.previousAppliedLine ≠ new.previousAppliedLine)
        (lit ("identity_login_defs refresh conflicts with " ++
          "an unresolved Prepared transition (fail " ++
          "closed): recover or complete the existing " ++ "transaction first"))
    | .RollbackFailed =>
      .error (lit ("identity_login_defs RollbackFailed provenance " ++
        "cannot be refreshed by ordinary apply (fail " ++ "closed)"))
    | .Applied =>
      rejectIf (new.previousAppliedLine ≠ old.appliedLine)
        (lit ("identity_login_defs refresh does not carry the " ++
          "currently owned applied line as previous state " ++ "(fail closed)"))
    | _ => .ok ()
  | _, _ =>
    .error (lit ("identity_login_defs refresh changed ownership " ++ "identity (fail closed)"))

/-- The three typed kinds of SUDO payload are refreshed by their own kind only;
the older kind has no guard. -/
def sudoRefreshGuard (status : MutationStatus) : UndoPayload → UndoPayload → Except Bytes Unit
  | .ReleaseSudoGlobalDefault old, .ReleaseSudoGlobalDefault next =>
    rejectIf
      (next.key ≠ old.key || next.containerId ≠ old.containerId ||
        next.addedSeparator ≠ old.addedSeparator ||
        next.separatorPrefixDigest ≠ old.separatorPrefixDigest ||
        if status = .Prepared then
          next.appliedLine ≠ old.appliedLine || next.previousLine ≠ old.previousLine
        else next.previousLine ≠ old.appliedLine)
      (lit "SUDO global refresh conflicts with durable ownership")
  | .ReleaseSudoAuthentication old, .ReleaseSudoAuthentication next =>
    rejectIf
      (status = .RollbackFailed ||
        if status = .Prepared then
          next.previousProofs ≠ old.previousProofs || next.targetProofs ≠ old.targetProofs
        else next.previousProofs ≠ old.targetProofs)
      (lit "Authentication refresh conflicts with durable ownership")
  | .ReleaseSudoScopedDefaults old, .ReleaseSudoScopedDefaults next =>
    match status with
    | .Prepared =>
      rejectIf (old ≠ next)
        (lit ("SUDO scoped-defaults refresh conflicts " ++
          "with an unresolved Prepared transition " ++
          "(fail closed): recover or complete the " ++ "existing transaction first"))
    | .RollbackFailed =>
      .error (lit ("SUDO scoped-defaults RollbackFailed provenance " ++
        "cannot be refreshed by ordinary apply (fail " ++ "closed)"))
    | _ => do
      rejectIf (next.previousProofs ≠ old.targetProofs)
        (lit ("SUDO scoped-defaults refresh does not carry " ++
          "the currently owned wrapper proofs as its " ++ "previous state (fail closed)"))
      match old.targetProofs.find? fun proof =>
          !(next.targetProofs.map (·.wrapperId)).contains proof.wrapperId with
      | some proof =>
        .error (lit ("SUDO scoped-defaults refresh would drop " ++
          "ownership of existing wrapper ") ++ quoted proof.wrapperId ++ lit " (fail closed)")
      | none => .ok ()
  | .ReleaseSudoGlobalDefault _, _ | _, .ReleaseSudoGlobalDefault _ =>
    .error (lit "SUDO global refresh conflicts with durable ownership")
  | .ReleaseSudoAuthentication _, _ | _, .ReleaseSudoAuthentication _ =>
    .error (lit "Authentication refresh conflicts with durable ownership")
  | .ReleaseSudoScopedDefaults _, _ | _, .ReleaseSudoScopedDefaults _ =>
    .error (lit ("SUDO refresh changed the undo payload type " ++ "(fail closed)"))
  | _, _ => .ok ()

def samePamProviderPreparedTransition (old new : UndoRemovePamProviderManagedEntry) : Bool :=
  old = new

def samePamProviderPreparedFlagTransition (old new : UndoRemovePamProviderManagedFlag) : Bool :=
  old = new

/-- Outside a Prepared transition a refresh has to carry the applied state as
its previous one; the managed key is not compared then. -/
def pamRefreshGuard (status : MutationStatus) (old new : UndoPayload) : Except Bytes Unit :=
  match new with
  | .RemovePamProviderManagedEntry newEntry =>
    let changed := lit ("PAM provider managed-entry refresh changed " ++
      "the undo payload identity (fail closed)")
    match old with
    | .RemovePamProviderManagedEntry oldEntry => do
      rejectIf (oldEntry.providerName ≠ newEntry.providerName) changed
      if status = .Prepared then
        rejectIf (!samePamProviderPreparedTransition oldEntry newEntry)
          (lit ("PAM provider managed-entry refresh " ++
            "conflicts with an unresolved Prepared " ++
            "transition (fail closed): recover or " ++ "complete the existing transaction first"))
      else
        rejectIf (newEntry.previousAppliedBody ≠ oldEntry.appliedBody)
          (lit ("PAM provider managed-entry refresh does " ++
            "not carry the currently owned applied body " ++ "as its previous state (fail closed)"))
    | _ => .error changed
  | .RemovePamProviderManagedFlag newFlag =>
    let changed := lit ("PAM provider managed-flag refresh changed " ++
      "the undo payload identity (fail closed)")
    match old with
    | .RemovePamProviderManagedFlag oldFlag => do
      rejectIf (oldFlag.providerName ≠ newFlag.providerName) changed
      if status = .Prepared then
        rejectIf (!samePamProviderPreparedFlagTransition oldFlag newFlag)
          (lit ("PAM provider managed-flag refresh " ++
            "conflicts with an unresolved Prepared " ++
            "transition (fail closed): recover or " ++ "complete the existing transaction first"))
      else
        rejectIf
          (newFlag.previousAppliedEnabled ≠ some oldFlag.appliedEnabled ||
            newFlag.previousSuppressionIds ≠ oldFlag.suppressionIds)
          (lit ("PAM provider managed-flag refresh does " ++
            "not carry the currently owned applied " ++
            "state as its previous state (fail closed)"))
    | _ => .error changed
  | .OwnPamProviderContainer _ =>
    rejectIf (status = .Applied)
      (lit ("own_pam_provider_container provenance is " ++
        "already Applied and must not be re-Prepared " ++ "(fail closed)"))
  | _ => .ok ()

/-- Typed SYSCTL ownership is never refreshed here. -/
def sysctlRefreshGuard (old new : UndoPayload) : Reader Unit :=
  match old, new with
  | .RemoveManagedSetting old, .RemoveManagedSetting new =>
    require (!(old.sysctl.isSome || new.sysctl.isSome))
      (lit "typed SYSCTL ownership requires typed refresh; generic reprepare refused")
  | _, _ => throwing (lit "std::get: wrong index for variant")

/-- The active record `existing` may be refreshed with the payload of
`record`. -/
def refreshGuard (existing record : MutationRecord) : Reader Unit :=
  let status := existing.status
  let old := existing.undo.payload
  let new := record.undo.payload
  match record.undo.backend with
  | .Sysctl => sysctlRefreshGuard old new
  | .Ssh =>
    refuse (lit "active SSH ownership requires typed transition; generic reprepare refused")
  | .UserCreation => ofChecked (userCreationRefreshGuard status old new)
  | .IdentityLoginDefs => ofChecked (loginDefsRefreshGuard status old new)
  | .Sudo => ofChecked (sudoRefreshGuard status old new)
  | .Pam => ofChecked (pamRefreshGuard status old new)
  | _ => .ok ()

/-- An SSH mutation may be prepared again exactly as it is. -/
def isSshRetry (existing record : MutationRecord) : Bool :=
  record.undo.backend = .Ssh && existing.status = .Prepared &&
    serializeUndoAction existing.undo == serializeUndoAction record.undo

namespace Journal

def refreshed (env : Env) (existing record : MutationRecord) : MutationRecord :=
  { existing with
    undo := record.undo, status := .Prepared, error := [], updatedAtEpoch := env.now }

def fresh (env : Env) (id : UInt64) (record : MutationRecord) : MutationRecord :=
  { record with
    id := id, status := .Prepared, error := [], createdAtEpoch := env.now
    updatedAtEpoch := env.now }

def append (env : Env) (record : MutationRecord) (j : Journal) : Journal :=
  { j with records := j.records ++ [fresh env j.nextId record], nextId := j.nextId + 1 }

def dropLast (j : Journal) : Journal :=
  { j with records := j.records.dropLast, nextId := j.nextId - 1 }

def prepareMutationImpl (prim : Primitives) (env : Env) (sshInitial : Bool)
    (record : MutationRecord) (j : Journal) : Outcome :=
  refuseWith faultReply (admitMutation prim sshInitial record j) j <|
    match j.records.findIdx? fun e => e.isActive && sameIdentity e record with
    | some i =>
      match j.records[i]? with
      | none => (j, .refused []) -- the position is that of a record
      | some existing =>
        if isSshRetry existing record then (j, .success existing.id)
        else
          refuseWith faultReply (refreshGuard existing record) j <|
            (j.setRecord i (refreshed env existing record)).commit env existing.id
              (·.setRecord i existing)
    | none => (j.append env record).commit env j.nextId dropLast

def prepareMutation (prim : Primitives) (env : Env) (record : MutationRecord) (j : Journal) :
    Outcome :=
  j.prepareMutationImpl prim env false record

end Journal

end Fic.Journal
