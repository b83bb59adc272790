import Fic.Journal.Codec.Ssh
import Fic.Journal.Codec.Sssd
import Fic.Journal.Validate.Graphical
import Fic.Journal.Validate.Ssh

/-!
# The codec of undo actions

`serializeUndoAction` and `deserializeUndoAction`: twenty kinds of payload,
each with its own members.  The loader reads a payload only for the action name
and the backend it belongs to, and validates it before it accepts it.
-/

namespace Fic.Journal

open Fic.Lib

/-! ## Writing -/

def serializePolicyRef (policy : PolicyRef) : Json :=
  .mkObject
    [(lit "module", .string policy.moduleName), (lit "submodule", .string policy.submoduleName),
      (lit "policy", .string policy.policyName)]

def serializeAuthenticationProof (proof : AuthenticationProof) : Json :=
  .mkObject
    [(lit "wrapper_id", .string proof.wrapperId),
      (lit "canonical_path", .string proof.canonicalPath),
      (lit "original_digest", .string proof.originalDigest),
      (lit "replacement_digest", .string proof.replacementDigest)]

def serializeScopedProof (proof : SudoScopedDefaultsWrapperProof) : Json :=
  .mkObject
    [(lit "wrapper_id", .string proof.wrapperId),
      (lit "canonical_path", .string proof.canonicalPath),
      (lit "payload_digest", .string proof.payloadDigest)]

def serializeAssignment (item : UserCreationManagedAssignment) : Json :=
  .mkObject [(lit "key", .string item.key), (lit "line", .string item.appliedLine)]

/-- Everything but the defaults of useradd is written as adduser. -/
def configKindName : UserCreationConfigKind → Bytes
  | .UseraddDefaults => lit "useradd_defaults"
  | .LoginDefs | .Adduser => lit "adduser"

def beforeKindName : KerberosBeforeKind → Bytes
  | .Present => lit "present"
  | .Missing => lit "missing"

def topologyName : PamTopologyKind → Bytes
  | .PamAuthUpdate => lit "pam_auth_update"
  | .AltTcbManaged => lit "alt_tcb_managed"

def placementName : PamProviderBlockPlacementContract → Bytes
  | .Beginning => lit "beginning"
  | .End => lit "end"

def previousEnabledName : Option Bool → Bytes
  | none => lit "none"
  | some true => lit "enabled"
  | some false => lit "disabled"

/-- The members of an SSH payload.  Typed ownership is only written when there
is any. -/
def sshMembers (p : UndoRemoveSshManagedPolicy) : List (Bytes × Json) :=
  [(lit "policy", .string p.policyName), (lit "directive", .string p.directive),
    (lit "applied_value", .string p.appliedValue),
    (lit "disabled_mutation_ids", .ofStrings p.disabledMutationIds)] ++
    (if p.ownershipVersion ≠ 0 ∨ p.operationSequence ≠ 0 ∨ p.transition.isSome then
      [(lit "ownership_version", .ofUInt32 p.ownershipVersion),
        (lit "wrapper_fingerprints", .ofMap .string p.wrapperFingerprints),
        (lit "operation_sequence", .unsigned p.operationSequence)]
    else []) ++
    includedMember p.includedWrappers ++
    (p.transition.map fun t => (lit "transition", serializeSshTransition t)).toList

/-- The members each kind of payload is written with. -/
def payloadMembers : UndoPayload → List (Bytes × Json)
  | .RemoveDisplayManagerBlock dm =>
    [(lit "manager", .string dm.manager), (lit "route", .ofUInt32 dm.route),
      (lit "seats", .ofStrings dm.seats), (lit "created_file", .bool dm.createdFile),
      (lit "separator", .string dm.separator),
      (lit "creation_device", .unsigned dm.creationDevice),
      (lit "creation_inode", .unsigned dm.creationInode),
      (lit "had_applied", .bool dm.hadApplied), (lit "phase", .string dm.phase)]
  | .OwnDesktopArtifact artifact =>
    [(lit "kind", .string artifact.kind), (lit "phase", .string artifact.phase),
      (lit "had_applied", .bool artifact.hadApplied),
      (lit "device", .unsigned artifact.device), (lit "inode", .unsigned artifact.inode)]
  | .ScopeCheckpoint checkpoint =>
    [(lit "committed_scope", .ofStrings checkpoint.committedScope),
      (lit "target_scope", .ofStrings checkpoint.targetScope),
      (lit "phase", .string checkpoint.phase)]
  | .RestoreDesktopScalar scalar =>
    [(lit "desktop", .string scalar.desktop), (lit "setting", .string scalar.setting),
      (lit "original_line", .ofOption .string scalar.originalLine),
      (lit "applied_line", .string scalar.appliedLine),
      (lit "previous_applied_line", .ofOption .string scalar.previousAppliedLine),
      (lit "owners", .array (scalar.owners.map serializePolicyRef)),
      (lit "had_applied", .bool scalar.hadApplied), (lit "phase", .string scalar.phase),
      (lit "original_lock_line", .ofOption .string scalar.originalLockLine),
      (lit "compiled_before_digest", .string scalar.compiledBeforeDigest),
      (lit "compiled_target_digest", .string scalar.compiledTargetDigest)]
  | .ReleaseSudoGlobalDefault global =>
    [(lit "key", .string global.key), (lit "applied_line", .string global.appliedLine),
      (lit "previous_line", .string global.previousLine),
      (lit "container_id", .string global.containerId),
      (lit "added_separator", .bool global.addedSeparator),
      (lit "separator_prefix_digest", .string global.separatorPrefixDigest)]
  | .RemoveManagedSetting setting =>
    [(lit "key", .string setting.key), (lit "applied_value", .string setting.appliedValue)] ++
      (setting.sysctl.map fun x => (lit "sysctl", serializeSysctlState x)).toList
  | .ReleaseSudoAuthentication auth =>
    [(lit "previous_proofs", .array (auth.previousProofs.map serializeAuthenticationProof)),
      (lit "target_proofs", .array (auth.targetProofs.map serializeAuthenticationProof))]
  | .ReleaseSudoScopedDefaults p =>
    [(lit "policy", .string p.policyName),
      (lit "previous_proofs", .array (p.previousProofs.map serializeScopedProof)),
      (lit "target_proofs", .array (p.targetProofs.map serializeScopedProof))]
  | .RemoveSshManagedPolicy p => sshMembers p
  | .RemoveUserCreationManagedPolicy p =>
    [(lit "policy", .string p.policyName),
      (lit "config_kind", .string (configKindName p.configKind)),
      (lit "config_path", .string p.configPath),
      (lit "applied_assignments", .array (p.appliedAssignments.map serializeAssignment)),
      (lit "previous_applied_assignments",
        .array (p.previousAppliedAssignments.map serializeAssignment))]
  | .RemoveFirewallPolicy p => [(lit "policy", .string p.policyName)]
  | .RemoveGrubManagedSetting p =>
    [(lit "key", .string p.key), (lit "applied_value", .string p.appliedValue)]
  | .RemoveSssdManagedSetting p =>
    [(lit "section", .string p.section_), (lit "option", .string p.option),
      (lit "applied_value", .string p.appliedValue)]
  | .SssdOwnership own => [(lit "ownership", Sssd.encode own)]
  | .RestoreKerberosScalar p =>
    [(lit "section", .string p.section_), (lit "relation", .string p.relation),
      (lit "applied_value", .string p.appliedValue),
      (lit "before_kind", .string (beforeKindName p.beforeKind)),
      (lit "before_raw_line", .string p.beforeRawLine),
      (lit "section_existed_before", .bool p.sectionExistedBefore)]
  | .DisablePamCapability p =>
    [(lit "capability", .string p.capability),
      (lit "topology", .string (topologyName p.topology)),
      (lit "activation_identifiers", .ofStrings p.activationIdentifiers),
      (lit "had_applied_provenance", .bool p.hadAppliedProvenance),
      (lit "previous_strategy", .ofOption .string p.previousStrategy),
      (lit "target_strategy", .ofOption .string p.targetStrategy),
      (lit "previous_error", .string p.previousError)]
  | .RemovePamProviderManagedEntry p =>
    [(lit "policy", .string p.policyName), (lit "provider", .string p.providerName),
      (lit "config_path", .string p.configPath), (lit "managed_key", .string p.managedKey),
      (lit "applied_body", .string p.appliedBody),
      (lit "previous_applied_body", .string p.previousAppliedBody),
      (lit "placement", .string (placementName p.placement))]
  | .RemovePamProviderManagedFlag p =>
    [(lit "policy", .string p.policyName), (lit "provider", .string p.providerName),
      (lit "config_path", .string p.configPath), (lit "managed_key", .string p.managedKey),
      (lit "applied_enabled", .bool p.appliedEnabled),
      (lit "previous_applied_enabled",
        .string (previousEnabledName p.previousAppliedEnabled)),
      (lit "placement", .string (placementName p.placement)),
      (lit "suppression_ids", .ofStrings p.suppressionIds),
      (lit "previous_suppression_ids", .ofStrings p.previousSuppressionIds)]
  | .OwnPamProviderContainer p =>
    [(lit "provider", .string p.providerName), (lit "config_path", .string p.configPath)]
  | .RemoveIdentityLoginDefsManagedPolicy p =>
    [(lit "policy", .string p.policyName), (lit "config_path", .string p.configPath),
      (lit "key", .string p.key), (lit "applied_line", .string p.appliedLine),
      (lit "previous_applied_line", .string p.previousAppliedLine)]

def serializeUndoAction (action : UndoAction) : Json :=
  .mkObject
    ([(lit "action", .string (undoActionTypeName action.payload)),
      (lit "backend", .string (mutationBackendToString action.backend))] ++
      payloadMembers action.payload)

/-! ## Members of a document -/

def stringMember (key error : Bytes) (j : Json) : Reader Bytes :=
  requireMember key Json.isString error j >>= Json.getString

def boolMember (key error : Bytes) (j : Json) : Reader Bool :=
  requireMember key Json.isBool error j >>= Json.getBool

def unsignedMember (key error : Bytes) (j : Json) : Reader UInt64 :=
  requireMember key Json.isUnsigned error j >>= Json.getUInt64

/-- A string or `null`. -/
def optionalText : Json → Reader (Option Bytes)
  | .null => .ok none
  | j => j.getString.map some

def optionalStringMember (key error : Bytes) (j : Json) : Reader (Option Bytes) :=
  requireMember key (fun member => member.isString || member.isNull) error j >>= optionalText

def readStrings (error : Bytes) (elements : List Json) : Reader (List Bytes) :=
  Json.readAll (fun j => do require j.isString error; j.getString) elements

/-! ## Graphical payloads -/

def readDesktopArtifact (value : Json) : Reader UndoPayload := do
  let malformed := lit "malformed GNOME artifact creation payload"
  let kind ← stringMember (lit "kind") malformed value
  let phase ← stringMember (lit "phase") malformed value
  let hadApplied ← boolMember (lit "had_applied") malformed value
  let device ← unsignedMember (lit "device") malformed value
  let inode ← unsignedMember (lit "inode") malformed value
  .ok (.OwnDesktopArtifact { kind, phase, hadApplied, device, inode })

def readOwner (owner : Json) : Reader PolicyRef := do
  let malformed := lit "malformed desktop scalar owner"
  require owner.isObject malformed
  let moduleName ← stringMember (lit "module") malformed owner
  let submoduleName ← stringMember (lit "submodule") malformed owner
  let policyName ← stringMember (lit "policy") malformed owner
  .ok { moduleName, submoduleName, policyName }

def readDesktopScalar (value : Json) : Reader UndoPayload := do
  let field := lit "malformed desktop scalar field"
  let desktop ← stringMember (lit "desktop") field value
  let setting ← stringMember (lit "setting") field value
  let appliedLine ← stringMember (lit "applied_line") field value
  let phase ← stringMember (lit "phase") field value
  let compiledBeforeDigest ← stringMember (lit "compiled_before_digest") field value
  let compiledTargetDigest ← stringMember (lit "compiled_target_digest") field value
  let line := lit "malformed optional desktop scalar line"
  let originalLine ← optionalStringMember (lit "original_line") line value
  let previousAppliedLine ← optionalStringMember (lit "previous_applied_line") line value
  let originalLockLine ← optionalStringMember (lit "original_lock_line") line value
  let progress := lit "malformed desktop scalar owners/progress"
  let owners ← requireMember (lit "owners") Json.isArray progress value
  let hadApplied ← boolMember (lit "had_applied") progress value
  let owners ← Json.readAll readOwner (← owners.getArray)
  .ok (.RestoreDesktopScalar
    { desktop, setting, originalLine, appliedLine, previousAppliedLine, owners, hadApplied,
      phase, originalLockLine, compiledBeforeDigest, compiledTargetDigest })

def readDisplayManagerBlock (value : Json) : Reader UndoPayload := do
  let malformed := lit "malformed DM block"
  let manager ← stringMember (lit "manager") malformed value
  let separator ← stringMember (lit "separator") malformed value
  let phase ← stringMember (lit "phase") malformed value
  let lifecycle := lit "malformed DM block lifecycle"
  let route ← requireMember (lit "route") (isNumber 0) lifecycle value
  let creationDevice ← unsignedMember (lit "creation_device") lifecycle value
  let creationInode ← unsignedMember (lit "creation_inode") lifecycle value
  let seats ← requireMember (lit "seats") Json.isArray lifecycle value
  let createdFile ← boolMember (lit "created_file") lifecycle value
  let hadApplied ← boolMember (lit "had_applied") lifecycle value
  let route ← route.getUInt32
  let seats ← seats.getStrings
  .ok (.RemoveDisplayManagerBlock
    { manager, route, seats, createdFile, creationDevice, creationInode, separator,
      hadApplied, phase })

def readScopeCheckpoint (value : Json) : Reader UndoPayload := do
  let malformed := lit "malformed scope checkpoint"
  let committed ← requireMember (lit "committed_scope") Json.isArray malformed value
  let target ← requireMember (lit "target_scope") Json.isArray malformed value
  let phase ← stringMember (lit "phase") malformed value
  let committedScope ← committed.getStrings
  let targetScope ← target.getStrings
  let checkpoint : ScopeTransitionCheckpoint := { committedScope, targetScope, phase }
  ofChecked (validScopeCheckpoint checkpoint)
  .ok (.ScopeCheckpoint checkpoint)

/-! ## PAM payloads -/

def readTopology (text : Bytes) : Reader PamTopologyKind :=
  if text = lit "pam_auth_update" then .ok .PamAuthUpdate
  else if text = lit "alt_tcb_managed" then .ok .AltTcbManaged
  else refuse (lit "unknown PAM topology in undo")

def readPamCapability (value : Json) : Reader UndoPayload := do
  let malformed := lit "malformed disable_pam_capability undo"
  let capability ← stringMember (lit "capability") malformed value
  let topology ← stringMember (lit "topology") malformed value
  let identifiers ← requireMember (lit "activation_identifiers") Json.isArray malformed value
  let hadAppliedProvenance ← boolMember (lit "had_applied_provenance") malformed value
  let transition := lit "malformed PAM strategy transition provenance"
  let previousError ← stringMember (lit "previous_error") transition value
  let previousStrategy ← optionalStringMember (lit "previous_strategy") transition value
  let targetStrategy ← optionalStringMember (lit "target_strategy") transition value
  let topology ← readTopology topology
  let activationIdentifiers ←
    readStrings (lit "PAM activation identifiers must be strings") (← identifiers.getArray)
  let payload : UndoDisablePamCapability :=
    { capability, topology, activationIdentifiers, hadAppliedProvenance, previousStrategy,
      targetStrategy, previousError }
  ofChecked (validatePamUndoPayload payload)
  .ok (.DisablePamCapability payload)

def readPlacement (what text : Bytes) : Reader PamProviderBlockPlacementContract :=
  if text = lit "beginning" then .ok .Beginning
  else if text = lit "end" then .ok .End
  else refuse (what ++ lit " undo has unknown placement: " ++ text)

def readPamEntry (value : Json) : Reader UndoPayload := do
  let what := lit "remove_pam_provider_managed_entry"
  let text (key : Bytes) : Reader Bytes :=
    stringMember key (what ++ lit " undo requires a string " ++ key) value
  let policyName ← text (lit "policy")
  let providerName ← text (lit "provider")
  let configPath ← text (lit "config_path")
  let managedKey ← text (lit "managed_key")
  let appliedBody ← text (lit "applied_body")
  let previousAppliedBody ← text (lit "previous_applied_body")
  let placement ← text (lit "placement") >>= readPlacement what
  let payload : UndoRemovePamProviderManagedEntry :=
    { policyName, providerName, configPath, managedKey, appliedBody, previousAppliedBody,
      placement }
  ofChecked (validatePamProviderManagedEntryUndoPayload payload)
  .ok (.RemovePamProviderManagedEntry payload)

def readPreviousEnabled (text : Bytes) : Reader (Option Bool) :=
  if text = lit "none" then .ok none
  else if text = lit "enabled" then .ok (some true)
  else if text = lit "disabled" then .ok (some false)
  else
    refuse (lit ("remove_pam_provider_managed_flag undo has an unknown " ++
      "previous_applied_enabled: ") ++ text)

def readPamFlag (value : Json) : Reader UndoPayload := do
  let what := lit "remove_pam_provider_managed_flag"
  let text (key : Bytes) : Reader Bytes :=
    stringMember key (what ++ lit " undo requires a string " ++ key) value
  let ids (key : Bytes) : Reader (List Bytes) := do
    let ids ← requireMember key Json.isArray
      (what ++ lit " undo requires a string array " ++ key) value
    readStrings (what ++ lit " undo requires string entries in " ++ key) (← ids.getArray)
  let policyName ← text (lit "policy")
  let providerName ← text (lit "provider")
  let configPath ← text (lit "config_path")
  let managedKey ← text (lit "managed_key")
  let appliedEnabled ← boolMember (lit "applied_enabled")
    (what ++ lit " undo requires a boolean applied_enabled") value
  let previousAppliedEnabled ← text (lit "previous_applied_enabled") >>= readPreviousEnabled
  let placement ← text (lit "placement") >>= readPlacement what
  let suppressionIds ← ids (lit "suppression_ids")
  let previousSuppressionIds ← ids (lit "previous_suppression_ids")
  let payload : UndoRemovePamProviderManagedFlag :=
    { policyName, providerName, configPath, managedKey, appliedEnabled,
      previousAppliedEnabled, placement, suppressionIds, previousSuppressionIds }
  ofChecked (validatePamProviderManagedFlagUndoPayload payload)
  .ok (.RemovePamProviderManagedFlag payload)

def readPamContainer (value : Json) : Reader UndoPayload := do
  let text (key : Bytes) : Reader Bytes :=
    stringMember key (lit "own_pam_provider_container undo requires a string " ++ key) value
  let providerName ← text (lit "provider")
  let configPath ← text (lit "config_path")
  let payload : UndoOwnPamProviderContainer := { providerName, configPath }
  ofChecked (validatePamProviderContainerUndoPayload payload)
  .ok (.OwnPamProviderContainer payload)

/-! ## SUDO and SYSCTL payloads -/

def readSudoGlobalDefault (value : Json) : Reader UndoPayload := do
  let field := lit "SUDO global payload requires canonical string fields"
  let key ← stringMember (lit "key") field value
  let appliedLine ← stringMember (lit "applied_line") field value
  let previousLine ← stringMember (lit "previous_line") field value
  let containerId ← stringMember (lit "container_id") field value
  let separatorPrefixDigest ← stringMember (lit "separator_prefix_digest") field value
  let addedSeparator ← boolMember (lit "added_separator")
    (lit "SUDO global payload requires separator provenance") value
  let payload : UndoReleaseSudoGlobalDefault :=
    { key, appliedLine, previousLine, containerId, addedSeparator, separatorPrefixDigest }
  ofChecked (validateSudoGlobalDefaultPayload payload)
  .ok (.ReleaseSudoGlobalDefault payload)

def readSysctlExtension (backend : MutationBackend) (value : Json) :
    Reader (Option SysctlSettingState) :=
  match value.find? (lit "sysctl") with
  | none => .ok none
  | some x => do
    require (backend = .Sysctl) (lit "SYSCTL extension on another backend")
    (deserializeSysctlState x).map some

def readManagedSetting (backend : MutationBackend) (value : Json) : Reader UndoPayload := do
  let key ← value.valueString (lit "key")
  let appliedValue ← value.valueString (lit "applied_value")
  let sysctl ← readSysctlExtension backend value
  require (!(key.isEmpty || (backend = .Sudo && appliedValue.isEmpty)))
    (lit "remove_managed_setting undo requires a key")
  .ok (.RemoveManagedSetting { key, appliedValue, sysctl })

def readAuthenticationProof (item : Json) : Reader AuthenticationProof := do
  require item.isObject (lit "Invalid authentication proof object")
  let wrapperId ← item.valueString (lit "wrapper_id")
  let canonicalPath ← item.valueString (lit "canonical_path")
  let originalDigest ← item.valueString (lit "original_digest")
  let replacementDigest ← item.valueString (lit "replacement_digest")
  .ok { wrapperId, canonicalPath, originalDigest, replacementDigest }

def readAuthenticationProofs (key : Bytes) (value : Json) :
    Reader (List AuthenticationProof) := do
  let proofs ← requireMember key Json.isArray (lit "Missing authentication proof array") value
  Json.readAll readAuthenticationProof (← proofs.getArray)

def readSudoAuthentication (prim : Primitives) (value : Json) : Reader UndoPayload := do
  let previousProofs ← readAuthenticationProofs (lit "previous_proofs") value
  let targetProofs ← readAuthenticationProofs (lit "target_proofs") value
  let payload : UndoReleaseSudoAuthentication := { previousProofs, targetProofs }
  ofChecked (validateSudoAuthenticationPayload prim payload)
  .ok (.ReleaseSudoAuthentication payload)

def readScopedProof (prim : Primitives) (field : Bytes) (item : Json) :
    Reader SudoScopedDefaultsWrapperProof := do
  require item.isObject (field ++ lit " entries must be objects")
  let wrapperId ← item.valueString (lit "wrapper_id")
  let canonicalPath ← item.valueString (lit "canonical_path")
  let payloadDigest ← item.valueString (lit "payload_digest")
  let proof : SudoScopedDefaultsWrapperProof := { wrapperId, canonicalPath, payloadDigest }
  ofChecked (validateSudoScopedDefaultsProof prim proof)
  .ok proof

/-- A missing array is an empty one. -/
def readScopedProofs (prim : Primitives) (field : Bytes) (value : Json) :
    Reader (List SudoScopedDefaultsWrapperProof) :=
  match value.find? field with
  | none => .ok []
  | some proofs => do
    require proofs.isArray (field ++ lit " must be an array")
    Json.readAll (readScopedProof prim field) (← proofs.getArray)

def readSudoScopedDefaults (prim : Primitives) (value : Json) : Reader UndoPayload := do
  let policyName ← value.valueString (lit "policy")
  let previousProofs ← readScopedProofs prim (lit "previous_proofs") value
  let targetProofs ← readScopedProofs prim (lit "target_proofs") value
  let payload : UndoReleaseSudoScopedDefaults := { policyName, previousProofs, targetProofs }
  ofChecked (validateSudoScopedDefaultsUndoPayload prim payload)
  .ok (.ReleaseSudoScopedDefaults payload)

/-! ## SSH payloads -/

def readDisabledId (item : Json) : Reader Bytes := do
  let invalid := lit "disabled mutation ids must be non-empty strings"
  require item.isString invalid
  let id ← item.getString
  require (!id.isEmpty) invalid
  .ok id

def readDisabledIds (value : Json) : Reader (List Bytes) :=
  match value.find? (lit "disabled_mutation_ids") with
  | none => .ok []
  | some ids => do
    require ids.isArray (lit "disabled_mutation_ids must be an array")
    Json.readAll readDisabledId (← ids.getArray)

/-- Version, fingerprints and sequence of typed ownership; a document without a
version has none of it. -/
def readSshOwnership (value : Json) : Reader (UInt32 × OrderedMap Bytes × UInt64) :=
  match value.find? (lit "ownership_version") with
  | some version => do
    let unsupported := lit "unsupported SSH ownership version"
    require (isAtMost 1 version) unsupported
    let sequence ← value.atKey (lit "operation_sequence")
    require sequence.isUnsigned unsupported
    let ownershipVersion ← version.getUInt32
    let fingerprints ← value.atKey (lit "wrapper_fingerprints") >>= Json.getMap Json.getString
    let sequence ← sequence.getUInt64
    .ok (ownershipVersion, fingerprints, sequence)
  | none => do
    require
      (!(value.contains (lit "wrapper_fingerprints") || value.contains (lit "transition") ||
        value.contains (lit "operation_sequence")))
      (lit "SSH ownership version missing")
    .ok (0, .empty, 0)

def readSshTransition (value : Json) : Reader (Option SshOwnershipTransition) :=
  match value.find? (lit "transition") with
  | none => .ok none
  | some t => (deserializeSshTransition t).map some

/-- The part of the payload that is read inside a `try` block. -/
def readSshContract (payload : UndoRemoveSshManagedPolicy) (value : Json) :
    Reader UndoRemoveSshManagedPolicy := do
  let (ownershipVersion, wrapperFingerprints, operationSequence) ← readSshOwnership value
  let includedWrappers ← readIncluded value
  let transition ← readSshTransition value
  .ok
    { payload with
      ownershipVersion := ownershipVersion, wrapperFingerprints := wrapperFingerprints
      operationSequence := operationSequence, includedWrappers := includedWrappers
      transition := transition }

def readSshPolicy (value : Json) : Reader UndoPayload := do
  let policyName ← value.valueString (lit "policy")
  let directive ← value.valueString (lit "directive")
  let appliedValue ← value.valueString (lit "applied_value")
  require (!(policyName.isEmpty || directive.isEmpty || appliedValue.isEmpty))
    (lit ("remove_ssh_managed_policy undo requires a policy, a " ++
      "directive and an applied value"))
  let disabledMutationIds ← readDisabledIds value
  let payload ← guarded (fun _ => lit "malformed SSH typed ownership contract")
    (readSshContract { policyName, directive, appliedValue, disabledMutationIds } value)
  .ok (.RemoveSshManagedPolicy payload)

/-! ## User creation and login.defs payloads -/

def readConfigKind (text : Bytes) : Reader UserCreationConfigKind :=
  if text = lit "useradd_defaults" then .ok .UseraddDefaults
  else if text = lit "adduser" then .ok .Adduser
  else refuse (lit "unknown USER_CREATION config kind")

/-- The loop over the assignments of a payload; the C string literal of the
control characters ends in front of its NUL. -/
def readAssignmentsFrom (malformed : Bytes) :
    List Bytes → List Json → Reader (List UserCreationManagedAssignment)
  | _, [] => .ok []
  | keys, item :: items => do
    require item.isObject malformed
    let key ← item.valueString (lit "key")
    let appliedLine ← item.valueString (lit "line")
    require
      (!(key.isEmpty || appliedLine.isEmpty || hasAny crLf key || hasAny crLf appliedLine ||
        keys.contains key))
      malformed
    let rest ← readAssignmentsFrom malformed (key :: keys) items
    .ok ({ key, appliedLine } :: rest)

def readAssignments (field malformed : Bytes) (value : Json) :
    Reader (List UserCreationManagedAssignment) := do
  let items ← requireMember field Json.isArray malformed value
  let assignments ← readAssignmentsFrom malformed [] (← items.getArray)
  require (!assignments.isEmpty) malformed
  .ok assignments

def readPreviousAssignments (value : Json) : Reader (List UserCreationManagedAssignment) := do
  let previous ← requireMember (lit "previous_applied_assignments") Json.isArray
    (lit "missing USER_CREATION previous assignments") value
  if previous.size = 0 then .ok []
  else
    readAssignments (lit "previous_applied_assignments")
      (lit "malformed USER_CREATION previous assignments") value

def readUserCreation (value : Json) : Reader UndoPayload := do
  let policyName ← value.valueString (lit "policy")
  let configPath ← value.valueString (lit "config_path")
  let configKind ← value.valueString (lit "config_kind") >>= readConfigKind
  let malformed := lit "malformed USER_CREATION ownership payload"
  require (!(policyName.isEmpty || configPath.isEmpty)) malformed
  let appliedAssignments ← readAssignments (lit "applied_assignments") malformed value
  let previousAppliedAssignments ← readPreviousAssignments value
  let payload : UndoRemoveUserCreationManagedPolicy :=
    { policyName, configKind, configPath, appliedAssignments, previousAppliedAssignments }
  ofChecked (validateUserCreationUndoPayload payload)
  .ok (.RemoveUserCreationManagedPolicy payload)

def readLoginDefs (value : Json) : Reader UndoPayload := do
  let policyName ← value.valueString (lit "policy")
  let configPath ← value.valueString (lit "config_path")
  let key ← value.valueString (lit "key")
  let appliedLine ← value.valueString (lit "applied_line")
  let previousAppliedLine ← stringMember (lit "previous_applied_line")
    (lit "missing identity_login_defs previous applied line") value
  let payload : UndoRemoveIdentityLoginDefsManagedPolicy :=
    { policyName, configPath, key, appliedLine, previousAppliedLine }
  ofChecked (validateIdentityLoginDefsUndoPayload payload)
  .ok (.RemoveIdentityLoginDefsManagedPolicy payload)

/-! ## The other payloads -/

def readFirewallPolicy (value : Json) : Reader UndoPayload := do
  let policyName ← value.valueString (lit "policy")
  require (!policyName.isEmpty) (lit "remove_firewall_policy undo requires a policy")
  .ok (.RemoveFirewallPolicy { policyName })

def readGrubSetting (value : Json) : Reader UndoPayload := do
  let key ← value.valueString (lit "key")
  let appliedValue ← stringMember (lit "applied_value")
    (lit ("remove_grub_managed_setting undo requires a string " ++
      "applied_value (an empty string is valid)")) value
  let payload : UndoRemoveGrubManagedSetting := { key, appliedValue }
  ofChecked (validateGrubUndoPayload payload)
  .ok (.RemoveGrubManagedSetting payload)

def readSssdSetting (value : Json) : Reader UndoPayload := do
  let what := lit "remove_sssd_managed_setting undo requires a string "
  let section_ ← stringMember (lit "section") (what ++ lit "section") value
  let option ← stringMember (lit "option") (what ++ lit "option") value
  let appliedValue ← stringMember (lit "applied_value") (what ++ lit "applied_value") value
  let payload : UndoRemoveSssdManagedSetting := { section_, option, appliedValue }
  ofChecked (validateSssdUndoPayload payload)
  .ok (.RemoveSssdManagedSetting payload)

def readBeforeKind (text : Bytes) : Reader KerberosBeforeKind :=
  if text = lit "present" then .ok .Present
  else if text = lit "missing" then .ok .Missing
  else refuse (lit "restore_kerberos_scalar undo has unknown before_kind: " ++ text)

def readKerberosScalar (value : Json) : Reader UndoPayload := do
  let what := lit "restore_kerberos_scalar undo requires a "
  let text (key : Bytes) : Reader Bytes :=
    stringMember key (what ++ lit "string " ++ key) value
  let section_ ← text (lit "section")
  let relation ← text (lit "relation")
  let appliedValue ← text (lit "applied_value")
  let beforeKind ← text (lit "before_kind") >>= readBeforeKind
  let beforeRawLine ← text (lit "before_raw_line")
  let sectionExistedBefore ← boolMember (lit "section_existed_before")
    (what ++ lit "boolean section_existed_before") value
  let payload : UndoRestoreKerberosScalar :=
    { section_, relation, appliedValue, beforeKind, beforeRawLine, sectionExistedBefore }
  ofChecked (validateKerberosUndoPayload payload)
  .ok (.RestoreKerberosScalar payload)

def readSssdOwnership (value : Json) : Reader UndoPayload :=
  guarded (fun what => lit "Malformed SSSD I4 payload: " ++ what) do
    let own ← value.atKey (lit "ownership") >>= Sssd.decode
    .ok (.SssdOwnership own)

/-! ## Reading -/

/-- The reader of the payload with this action name and backend. -/
def readPayload (prim : Primitives) (backend : MutationBackend) (actionName : Bytes)
    (value : Json) : Option (Reader UndoPayload) :=
  match backend with
  | .Sssd =>
    if actionName = lit "sssd_journal_ownership" then some (readSssdOwnership value)
    else if actionName = lit "remove_sssd_managed_setting" then some (readSssdSetting value)
    else none
  | .Desktop =>
    if actionName = lit "own_desktop_artifact" then some (readDesktopArtifact value)
    else if actionName = lit "restore_desktop_scalar" then some (readDesktopScalar value)
    else none
  | .DisplayManager =>
    if actionName = lit "remove_display_manager_block" then some (readDisplayManagerBlock value)
    else none
  | .Scope =>
    if actionName = lit "scope_transition_checkpoint" then some (readScopeCheckpoint value)
    else none
  | .Pam =>
    if actionName = lit "disable_pam_capability" then some (readPamCapability value)
    else if actionName = lit "remove_pam_provider_managed_entry" then some (readPamEntry value)
    else if actionName = lit "remove_pam_provider_managed_flag" then some (readPamFlag value)
    else if actionName = lit "own_pam_provider_container" then some (readPamContainer value)
    else none
  | .Sudo =>
    if actionName = lit "release_sudo_global_default" then some (readSudoGlobalDefault value)
    else if actionName = lit "remove_managed_setting" then
      some (readManagedSetting .Sudo value)
    else if actionName = lit "release_sudo_authentication" then
      some (readSudoAuthentication prim value)
    else if actionName = lit "release_sudo_scoped_defaults" then
      some (readSudoScopedDefaults prim value)
    else none
  | .Sysctl =>
    if actionName = lit "remove_managed_setting" then some (readManagedSetting .Sysctl value)
    else none
  | .Ssh =>
    if actionName = lit "remove_ssh_managed_policy" then some (readSshPolicy value) else none
  | .UserCreation =>
    if actionName = lit "remove_user_creation_managed_policy" then
      some (readUserCreation value)
    else none
  | .IdentityLoginDefs =>
    if actionName = lit "remove_identity_login_defs_managed_policy" then
      some (readLoginDefs value)
    else none
  | .Firewall =>
    if actionName = lit "remove_firewall_policy" then some (readFirewallPolicy value) else none
  | .Grub =>
    if actionName = lit "remove_grub_managed_setting" then some (readGrubSetting value)
    else none
  | .Kerberos =>
    if actionName = lit "restore_kerberos_scalar" then some (readKerberosScalar value) else none

def deserializeUndoAction (prim : Primitives) (value : Json) : Reader UndoAction := do
  let actionName ← value.valueString (lit "action")
  let backendName ← value.valueString (lit "backend")
  match mutationBackendFromString backendName with
  | none => refuse (lit "unknown mutation undo backend: " ++ backendName)
  | some backend =>
    match readPayload prim backend actionName value with
    | some reader => reader.map fun payload => { backend, payload }
    | none =>
      refuse (lit "unknown or inconsistent undo action: " ++ actionName ++
        lit " for backend " ++ backendName)

end Fic.Journal
