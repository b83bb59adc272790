import Fic.Journal.Codec.UndoAction
import Fic.Journal.Validate.Sssd

/-!
# The codec of records

`serializeRecord` and `deserializeRecord`.  Behind the reader of the undo action
the loader checks that the payload fits the identity and the status of the
record; these checks only look at the record, but for one that also looks at
the backend the document names.
-/

namespace Fic.Journal

open Fic.Lib

/-! ## Checks of a record -/

/-- A check that only some records have to pass. -/
def checkIf {ε : Type} (applies : Bool) (check : Except ε Unit) : Except ε Unit :=
  if applies then check else .ok ()

def MutationRecord.isScope (record : MutationRecord) : Bool :=
  match record.undo.payload with
  | .ScopeCheckpoint _ => true
  | _ => record.undo.backend = .Scope

def MutationRecord.isDesktop (record : MutationRecord) : Bool :=
  match record.undo.payload with
  | .RestoreDesktopScalar _ | .OwnDesktopArtifact _ => true
  | _ => record.undo.backend = .Desktop

def MutationRecord.isDm (record : MutationRecord) : Bool :=
  match record.undo.payload with
  | .RemoveDisplayManagerBlock _ => true
  | _ => record.undo.backend = .DisplayManager

def checkGrubIdentity (record : MutationRecord) : Except Bytes Unit :=
  let mismatch := lit "GRUB journal resource does not match undo key: resource " ++
    quoted record.resource
  match record.undo.payload with
  | .RemoveGrubManagedSetting grub => rejectIf (grub.key ≠ record.resource) mismatch
  | _ => .error mismatch

def checkSssdIdentity (record : MutationRecord) : Except Bytes Unit :=
  let mismatch := lit ("SSSD journal resource does not match undo " ++
    "section/option: resource ") ++ quoted record.resource
  match record.undo.payload with
  | .SssdOwnership _ => .ok ()
  | .RemoveSssdManagedSetting sssd =>
    rejectIf (sssd.section_ ++ lit "/" ++ sssd.option ≠ record.resource) mismatch
  | _ => .error mismatch

def checkKerberosIdentity (record : MutationRecord) : Except Bytes Unit :=
  let mismatch := lit ("Kerberos journal resource does not match undo " ++
    "section/relation: resource ") ++ quoted record.resource
  match record.undo.payload with
  | .RestoreKerberosScalar kerberos =>
    rejectIf (kerberos.section_ ++ lit "/" ++ kerberos.relation ≠ record.resource) mismatch
  | _ => .error mismatch

/-- The record belongs to this policy of the identity module and to this
resource. -/
def MutationRecord.isIdentityRecord (record : MutationRecord)
    (submodule policyName resource : Bytes) : Bool :=
  record.policy = { moduleName := lit "IDENTITY_ACCESS", submoduleName := submodule
                    policyName := policyName } && record.resource = resource

/-- `namesPam` says that the document names the backend "pam". -/
def checkPamIdentity (namesPam : Bool) (record : MutationRecord) : Except Bytes Unit :=
  match record.undo.payload with
  | .RemovePamProviderManagedEntry entry =>
    rejectIf (!record.isIdentityRecord (lit "PAM") entry.policyName entry.configPath)
      (lit ("PAM journal resource/policy does not match the " ++
        "managed-entry undo payload"))
  | .RemovePamProviderManagedFlag flag =>
    rejectIf (!record.isIdentityRecord (lit "PAM") flag.policyName flag.configPath)
      (lit ("PAM journal resource/policy does not match the " ++
        "managed-flag undo payload"))
  | .OwnPamProviderContainer container =>
    rejectIf
      (!record.isIdentityRecord (lit "PAM_CONTAINER") container.providerName
        container.configPath)
      (lit ("PAM journal resource/policy does not match the " ++
        "container-ownership undo payload"))
  | .DisablePamCapability pam =>
    rejectIf
      (!namesPam || !record.isIdentityRecord (lit "PAM") pam.capability
        (lit "capability/" ++ pam.capability))
      (lit "PAM journal resource/policy does not match undo capability")
  | _ => .error (lit "PAM journal resource/policy does not match undo capability")

def checkUserCreationIdentity (record : MutationRecord) : Except Bytes Unit :=
  let mismatch := lit "USER_CREATION journal identity does not match payload"
  match record.undo.payload with
  | .RemoveUserCreationManagedPolicy p =>
    rejectIf (!record.isIdentityRecord (lit "USER_CREATION") p.policyName p.configPath) mismatch
  | _ => .error mismatch

def checkLoginDefsIdentity (record : MutationRecord) : Except Bytes Unit :=
  let mismatch := lit ("identity_login_defs journal identity does not match " ++ "payload")
  match record.undo.payload with
  | .RemoveIdentityLoginDefsManagedPolicy p =>
    match findSharedLoginDefsPolicySpec p.policyName with
    | some spec =>
      rejectIf (!record.isIdentityRecord spec.submodule p.policyName p.configPath) mismatch
    | none => .error mismatch
  | _ => .error mismatch

/-- The checks in front of the status, which is still the initial one then. -/
def identityChecks (prim : Primitives) (namesPam : Bool) (record : MutationRecord) :
    Except Bytes Unit := do
  checkIf record.isScope (validScopeRecord record)
  validateSudoGlobalRecord prim record
  checkIf (record.undo.backend = .Grub) (checkGrubIdentity record)
  checkIf (record.undo.backend = .Sssd) (checkSssdIdentity record)
  checkIf (record.undo.backend = .Kerberos) (checkKerberosIdentity record)
  checkIf (record.undo.backend = .Pam) (checkPamIdentity namesPam record)
  checkIf (record.undo.backend = .UserCreation) (checkUserCreationIdentity record)
  checkIf (record.undo.backend = .IdentityLoginDefs) (checkLoginDefsIdentity record)

/-- The checks behind the status. -/
def statusChecks (prim : Primitives) (record : MutationRecord) : Reader Unit := do
  validSshRecord prim record
  ofChecked (validSysctlRecord record)
  ofChecked (validSssdRecord prim record)
  ofChecked (checkIf record.isDesktop (validDesktopRecord record))
  ofChecked (checkIf (record.undo.backend = .Scope) (validScopeRecord record))
  ofChecked (checkIf record.isDm (validDmRecord record))

/-! ## Writing and reading -/

def serializeRecord (record : MutationRecord) : Json :=
  .mkObject
    [(lit "id", .unsigned record.id), (lit "policy", serializePolicyRef record.policy),
      (lit "resource", .string record.resource),
      (lit "backend", .string (mutationBackendToString record.undo.backend)),
      (lit "status", .string (mutationStatusToString record.status)),
      (lit "undo", serializeUndoAction record.undo),
      (lit "created_at_epoch", .ofInt64 record.createdAtEpoch),
      (lit "updated_at_epoch", .ofInt64 record.updatedAtEpoch),
      (lit "error", .string record.error)]

def readPolicy (policy : Json) : Reader PolicyRef := do
  let moduleName ← policy.valueString (lit "module")
  let submoduleName ← policy.valueString (lit "submodule")
  let policyName ← policy.valueString (lit "policy")
  require (!(moduleName.isEmpty || policyName.isEmpty))
    (lit "journal record policy requires module and policy names")
  .ok { moduleName, submoduleName, policyName }

def readStatus (value : Json) : Reader MutationStatus := do
  let text ← value.valueString (lit "status")
  match mutationStatusFromString text with
  | some status => .ok status
  | none => refuse (lit "unknown mutation status: " ++ text)

def deserializeRecord (prim : Primitives) (value : Json) : Reader MutationRecord := do
  require value.isObject (lit "journal record must be an object")
  let id ← unsignedMember (lit "id") (lit "journal record requires an unsigned id") value
  let policy ← requireMember (lit "policy") Json.isObject
    (lit "journal record requires a policy object") value >>= readPolicy
  let resource ← value.valueString (lit "resource")
  let undo ← requireMember (lit "undo") Json.isObject
    (lit "journal record requires an undo object") value >>= deserializeUndoAction prim
  let identified : MutationRecord := { id, policy, resource, undo }
  let namesPam := value.hasMember (lit "backend") (Json.isText (lit "pam"))
  ofChecked (identityChecks prim namesPam identified)
  let status ← readStatus value
  let record : MutationRecord := { identified with status := status }
  statusChecks prim record
  let createdAtEpoch ← value.value Json.getInt64 (lit "created_at_epoch") 0
  let updatedAtEpoch ← value.value Json.getInt64 (lit "updated_at_epoch") 0
  let error ← value.valueString (lit "error")
  .ok { record with
    createdAtEpoch := createdAtEpoch, updatedAtEpoch := updatedAtEpoch, error := error }

end Fic.Journal
