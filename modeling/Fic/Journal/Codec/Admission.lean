import Fic.Journal.Codec.Record

/-!
# What the loader accepts

`LoadAccepted` is what the loader checks of the values of a record,
`readerBounds` what only the readers of nested objects check.
-/

namespace Fic.Journal

open Fic.Lib

/-- The payload is of a kind that records of the backend have. -/
def belongsTo : MutationBackend → UndoPayload → Bool
  | .Sssd, .SssdOwnership _ | .Sssd, .RemoveSssdManagedSetting _ => true
  | .Desktop, .OwnDesktopArtifact _ | .Desktop, .RestoreDesktopScalar _ => true
  | .DisplayManager, .RemoveDisplayManagerBlock _ => true
  | .Scope, .ScopeCheckpoint _ => true
  | .Pam, .DisablePamCapability _ | .Pam, .RemovePamProviderManagedEntry _
  | .Pam, .RemovePamProviderManagedFlag _ | .Pam, .OwnPamProviderContainer _ => true
  | .Sudo, .ReleaseSudoGlobalDefault _ | .Sudo, .RemoveManagedSetting _
  | .Sudo, .ReleaseSudoAuthentication _ | .Sudo, .ReleaseSudoScopedDefaults _ => true
  | .Sysctl, .RemoveManagedSetting _ => true
  | .Ssh, .RemoveSshManagedPolicy _ => true
  | .UserCreation, .RemoveUserCreationManagedPolicy _ => true
  | .IdentityLoginDefs, .RemoveIdentityLoginDefsManagedPolicy _ => true
  | .Firewall, .RemoveFirewallPolicy _ => true
  | .Grub, .RemoveGrubManagedSetting _ => true
  | .Kerberos, .RestoreKerberosScalar _ => true
  | _, _ => false

/-- The checks of a payload at the end of its reader. -/
def payloadChecks (prim : Primitives) (backend : MutationBackend) :
    UndoPayload → Except Bytes Unit
  | .RemoveDisplayManagerBlock _ | .OwnDesktopArtifact _ | .RestoreDesktopScalar _
  | .SssdOwnership _ => .ok ()
  | .ScopeCheckpoint checkpoint => validScopeCheckpoint checkpoint
  | .ReleaseSudoGlobalDefault p => validateSudoGlobalDefaultPayload p
  | .RemoveManagedSetting p =>
    rejectIf (p.key.isEmpty || (backend = .Sudo && p.appliedValue.isEmpty))
      (lit "remove_managed_setting undo requires a key")
  | .ReleaseSudoAuthentication p => validateSudoAuthenticationPayload prim p
  | .ReleaseSudoScopedDefaults p => validateSudoScopedDefaultsUndoPayload prim p
  | .RemoveSshManagedPolicy p => do
    rejectIf (p.policyName.isEmpty || p.directive.isEmpty || p.appliedValue.isEmpty)
      (lit ("remove_ssh_managed_policy undo requires a policy, a " ++
        "directive and an applied value"))
    rejectIf (p.disabledMutationIds.any (·.isEmpty))
      (lit "disabled mutation ids must be non-empty strings")
  | .RemoveUserCreationManagedPolicy p => validateUserCreationUndoPayload p
  | .RemoveFirewallPolicy p =>
    rejectIf p.policyName.isEmpty (lit "remove_firewall_policy undo requires a policy")
  | .RemoveGrubManagedSetting p => validateGrubUndoPayload p
  | .RemoveSssdManagedSetting p => validateSssdUndoPayload p
  | .RestoreKerberosScalar p => validateKerberosUndoPayload p
  | .DisablePamCapability p => validatePamUndoPayload p
  | .RemovePamProviderManagedEntry p => validatePamProviderManagedEntryUndoPayload p
  | .RemovePamProviderManagedFlag p => validatePamProviderManagedFlagUndoPayload p
  | .OwnPamProviderContainer p => validatePamProviderContainerUndoPayload p
  | .RemoveIdentityLoginDefsManagedPolicy p => validateIdentityLoginDefsUndoPayload p

def SysctlReleaseIntent.inBounds (r : SysctlReleaseIntent) : Bool :=
  r.before.all (·.inBounds) && r.target.all (·.inBounds) && r.prepared.all (·.inBounds)

/-- The bounds that only the readers of nested objects know: a snapshot of a
SYSCTL release has the mode of a file and at most a mebibyte of content, and at
most 256 assignments remain behind an SSSD release. -/
def readerBounds : UndoPayload → Bool
  | .RemoveManagedSetting p =>
    p.sysctl.all fun x => x.release.all (·.inBounds)
  | .SssdOwnership own =>
    own.transition.all fun t => t.release.all fun d => d.remaining.length ≤ 256
  | _ => true

/-- A record as the checks of its identity see it: the status is still unread. -/
def MutationRecord.identified (record : MutationRecord) : MutationRecord :=
  { id := record.id, policy := record.policy, resource := record.resource, undo := record.undo }

/-- The load-time validators accept the record. -/
structure LoadAccepted (prim : Primitives) (record : MutationRecord) : Prop where
  named : record.policy.moduleName ≠ [] ∧ record.policy.policyName ≠ []
  belongs : belongsTo record.undo.backend record.undo.payload = true
  payload : payloadChecks prim record.undo.backend record.undo.payload = .ok ()
  identity : identityChecks prim true record.identified = .ok ()
  status : statusChecks prim record = .ok ()

end Fic.Journal
