import Fic.Journal.Record
import Fic.Lib.Json
import Fic.Pam.ProviderBlock.Grammar

/-!
# Validators of undo payloads

The payload validators of `MutationJournal.cpp` that the writer and the loader
share.  Each one returns the message of the first check that fails.
-/

namespace Fic.Journal

open Fic.Lib Fic.Pam

/-! ## Helpers -/

/-- What the journal takes from libraries: path normalisation, the digest and
the JSON parser. -/
structure Primitives where
  lexicallyNormal : Bytes → Bytes
  sha256Hex : Bytes → Bytes
  parseJson : Bytes → Option Json

/-- Fails with the message if the condition holds. -/
def rejectIf (bad : Bool) (error : Bytes) : Except Bytes Unit :=
  if bad then .error error else .ok ()

@[simp] theorem rejectIf_eq_ok {bad : Bool} {error : Bytes} :
    rejectIf bad error = .ok () ↔ bad = false := by
  cases bad <;> simp [rejectIf]

/-- `find_first_of` finds something. -/
def hasAny (bytes value : Bytes) : Bool := value.any bytes.contains

def crLf : Bytes := [cr, lf]

/-- The value holds no CR, LF or NUL. -/
def lineFreeOfControlCharacters (line : Bytes) : Bool := !hasAny [cr, lf, 0] line

def isAbsolutePath (path : Bytes) : Bool := path.head? = some '/'.toUInt8

def isLowerHex (b : UInt8) : Bool := isDigit b || ('a'.toUInt8 ≤ b && b ≤ 'f'.toUInt8)

def isCanonicalSha256Hex (digest : Bytes) : Bool :=
  digest.length = 64 && digest.all isLowerHex

/-- The decimal digits of a number as `std::to_string` prints them. -/
def isCanonicalDecimal (text : Bytes) : Bool :=
  !text.isEmpty && text.all isDigit && toDecimal (ofDecimal text) = text

/-- No element occurs twice, as inserting into a `std::set` finds out. -/
def allDistinct (values : List Bytes) : Bool := decide values.Nodup

/-! ## SUDO -/

/-- Five groups of digits, joined by dashes. -/
def isCanonicalSudoWrapperId (wrapperId : Bytes) : Bool :=
  lit "FIC-SUDO-" <+: wrapperId &&
    let parts := (wrapperId.drop 9).splitOn '-'.toUInt8
    -- the loop of the source ends in front of an empty last part
    let groups := if parts.getLast? = some [] then parts.dropLast else parts
    groups.length = 5 && groups.all fun group => !group.isEmpty && group.all isDigit

def isCanonicalSudoProofPath (prim : Primitives) (value : Bytes) : Bool :=
  !value.isEmpty && !value.contains 0 && isAbsolutePath value &&
    prim.lexicallyNormal value = value

/-- A line that assigns the key and nothing else. -/
def validGlobalLine (key line : Bytes) : Bool :=
  if key = lit "exempt_group" then line = lit "Defaults !exempt_group"
  else if key = lit "env_reset" then
    line = lit "Defaults " ++ key || line = lit "Defaults !" ++ key
  else
    let assigned := lit "Defaults " ++ key ++ lit "="
    let value := line.drop assigned.length
    if !(assigned <+: line) || value.isEmpty then false
    else if key = lit "passwd_tries" ∨ key = lit "timestamp_timeout" then value.all isDigit
    else if key ≠ lit "secure_path" then false
    else !hasAny (crLf ++ lit ",=#\\") value && !value.contains 0

def validateSudoGlobalDefaultPayload (payload : UndoReleaseSudoGlobalDefault) :
    Except Bytes Unit := do
  rejectIf
    ((payload.addedSeparator && !isCanonicalSha256Hex payload.separatorPrefixDigest) ||
      (!payload.addedSeparator && !payload.separatorPrefixDigest.isEmpty))
    (lit "Invalid SUDO include separator provenance")
  rejectIf
    (!isCanonicalSudoWrapperId payload.containerId ||
      !validGlobalLine payload.key payload.appliedLine ||
      (!payload.previousLine.isEmpty && !validGlobalLine payload.key payload.previousLine))
    (lit "Invalid SUDO global ownership payload")

def validAuthenticationProofs (prim : Primitives) (proofs : List AuthenticationProof) : Bool :=
  allDistinct (proofs.map (·.wrapperId)) && proofs.all fun proof =>
    isCanonicalSudoWrapperId proof.wrapperId &&
      isCanonicalSudoProofPath prim proof.canonicalPath &&
      isCanonicalSha256Hex proof.originalDigest &&
      isCanonicalSha256Hex proof.replacementDigest

def validateSudoAuthenticationPayload (prim : Primitives)
    (payload : UndoReleaseSudoAuthentication) : Except Bytes Unit := do
  rejectIf
    (payload.targetProofs.isEmpty || !validAuthenticationProofs prim payload.previousProofs ||
      !validAuthenticationProofs prim payload.targetProofs)
    (lit "Invalid SUDO authentication ownership proofs")
  rejectIf (!payload.previousProofs.all payload.targetProofs.contains)
    (lit "Authentication refresh would orphan previous ownership")

def sudoGlobalPolicies : List (Bytes × Bytes) :=
  [(lit "env_reset", lit "sudo_env_reset"), (lit "passwd_tries", lit "sudo_passwd_tries"),
    (lit "secure_path", lit "sudo_securepath"), (lit "timestamp_timeout", lit "sudo_timeout"),
    (lit "exempt_group", lit "sudo_exempt_group_disable")]

def validateSudoGlobalRecord (prim : Primitives) (record : MutationRecord) :
    Except Bytes Unit :=
  match record.undo.payload with
  | .ReleaseSudoAuthentication auth => do
    rejectIf
      (record.undo.backend ≠ .Sudo || record.policy.moduleName ≠ lit "DAC" ||
        record.policy.submoduleName ≠ lit "SudoEdit" ||
        record.policy.policyName ≠ lit "sudo_require_authentication" ||
        record.resource ≠ lit "sudoers/authentication")
      (lit "SUDO authentication record identity mismatch")
    validateSudoAuthenticationPayload prim auth
  | .ReleaseSudoGlobalDefault payload => do
    rejectIf
      (sudoGlobalPolicies.lookup payload.key ≠ some record.policy.policyName ||
        record.undo.backend ≠ .Sudo || record.policy.moduleName ≠ lit "DAC" ||
        record.policy.submoduleName ≠ lit "SudoEdit" || record.resource ≠ payload.key)
      (lit "SUDO global record identity does not match ownership")
    validateSudoGlobalDefaultPayload payload
  | _ => .ok ()

def quoted (text : Bytes) : Bytes := lit "'" ++ text ++ lit "'"

def validateSudoScopedDefaultsProof (prim : Primitives)
    (proof : SudoScopedDefaultsWrapperProof) : Except Bytes Unit := do
  rejectIf proof.wrapperId.isEmpty
    (lit "SUDO scoped wrapper proof requires a non-empty wrapper id")
  rejectIf (!isCanonicalSudoWrapperId proof.wrapperId)
    (lit "SUDO scoped wrapper id has a non-canonical form: " ++ quoted proof.wrapperId)
  rejectIf (!isCanonicalSudoProofPath prim proof.canonicalPath)
    (lit "SUDO scoped wrapper proof requires a canonical absolute path, got: " ++
      quoted proof.canonicalPath)
  rejectIf (!isCanonicalSha256Hex proof.payloadDigest)
    (lit "SUDO scoped wrapper proof requires a canonical sha256 payload digest, got: " ++
      quoted proof.payloadDigest)

/-- The loop of `validateProofSetUnique`; `seen` are the ids so far. -/
def validateProofsFrom (prim : Primitives) (label : Bytes) :
    List Bytes → List SudoScopedDefaultsWrapperProof → Except Bytes Unit
  | _, [] => .ok ()
  | seen, proof :: proofs => do
    validateSudoScopedDefaultsProof prim proof
    rejectIf (seen.contains proof.wrapperId)
      (label ++ lit " contains a duplicate wrapper id: " ++ quoted proof.wrapperId)
    validateProofsFrom prim label (proof.wrapperId :: seen) proofs

def validateProofSetUnique (prim : Primitives) (proofs : List SudoScopedDefaultsWrapperProof)
    (label : Bytes) : Except Bytes Unit :=
  validateProofsFrom prim label [] proofs

/-- Every wrapper owned before the transition is owned after it. -/
def validatePreviousProofs (targets : List SudoScopedDefaultsWrapperProof) :
    List SudoScopedDefaultsWrapperProof → Except Bytes Unit
  | [] => .ok ()
  | proof :: proofs => do
    match targets.find? fun target => target.wrapperId = proof.wrapperId with
    | none =>
      .error (lit "wrapper id " ++ quoted proof.wrapperId ++
        lit (" is claimed as previously owned but is absent from the " ++
          "target proofs; FIC would orphan a live wrapper (fail closed)"))
    | some target =>
      rejectIf
        (target.canonicalPath ≠ proof.canonicalPath ||
          target.payloadDigest ≠ proof.payloadDigest)
        (lit "wrapper id " ++ quoted proof.wrapperId ++
          lit (" carries a different path or digest in previous and target " ++
            "proofs (fail closed)"))
    validatePreviousProofs targets proofs

def kScopedDefaultsPolicyName : Bytes := lit "sudo_disable_scoped_defaults"

def validateSudoScopedDefaultsUndoPayload (prim : Primitives)
    (payload : UndoReleaseSudoScopedDefaults) : Except Bytes Unit := do
  rejectIf (payload.policyName ≠ kScopedDefaultsPolicyName)
    (lit "SUDO scoped defaults payload policy mismatch: expected " ++
      quoted kScopedDefaultsPolicyName ++ lit ", got " ++ quoted payload.policyName)
  validateProofSetUnique prim payload.previousProofs (lit "previous_proofs")
  validateProofSetUnique prim payload.targetProofs (lit "target_proofs")
  validatePreviousProofs payload.targetProofs payload.previousProofs
  rejectIf (payload.previousProofs.isEmpty && payload.targetProofs.isEmpty)
    (lit "SUDO scoped-defaults record must prove at least one wrapper (fail closed)")

/-! ## GRUB, legacy SSSD, Kerberos -/

def isGrubManagedKey (key : Bytes) : Bool :=
  [lit "GRUB_CMDLINE_LINUX", lit "GRUB_DISABLE_RECOVERY", lit "GRUB_TIMEOUT"].contains key

def validateGrubUndoPayload (payload : UndoRemoveGrubManagedSetting) : Except Bytes Unit := do
  rejectIf payload.key.isEmpty
    (lit "remove_grub_managed_setting undo requires a managed key")
  rejectIf (!isGrubManagedKey payload.key)
    (lit "remove_grub_managed_setting undo requires a FIC supported GRUB key, got: " ++
      payload.key)
  rejectIf (!lineFreeOfControlCharacters payload.appliedValue)
    (lit ("remove_grub_managed_setting undo applied value must not " ++
      "contain CR, LF or NUL"))

def validateSssdUndoPayload (payload : UndoRemoveSssdManagedSetting) : Except Bytes Unit := do
  rejectIf (payload.section_.isEmpty || hasAny (lit "[]" ++ crLf) payload.section_)
    (lit "remove_sssd_managed_setting undo requires a valid SSSD section")
  rejectIf
    (payload.option.isEmpty || !payload.option.all fun c =>
      isAlnum c || c = '_'.toUInt8 || c = '-'.toUInt8)
    (lit "remove_sssd_managed_setting undo requires a valid SSSD option name")
  rejectIf (!lineFreeOfControlCharacters payload.appliedValue)
    (lit ("remove_sssd_managed_setting undo applied value must not " ++
      "contain CR, LF or NUL"))

def validKerberosSectionName (name : Bytes) : Bool :=
  !name.isEmpty && !hasAny (lit "[]*#;" ++ crLf) name

def validKerberosRelationName (relation : Bytes) : Bool :=
  !relation.isEmpty && !hasAny (lit "=*#;[]" ++ crLf ++ lit "\x7b\x7d \t") relation

def validateKerberosUndoPayload (payload : UndoRestoreKerberosScalar) : Except Bytes Unit := do
  rejectIf (!validKerberosSectionName payload.section_)
    (lit "restore_kerberos_scalar undo requires a valid Kerberos section")
  rejectIf (!validKerberosRelationName payload.relation)
    (lit "restore_kerberos_scalar undo requires a valid Kerberos relation name")
  rejectIf (payload.appliedValue.isEmpty || !lineFreeOfControlCharacters payload.appliedValue)
    (lit ("restore_kerberos_scalar undo requires a non-empty applied " ++
      "value without CR, LF or NUL"))
  match payload.beforeKind with
  | .Present =>
    rejectIf
      (payload.beforeRawLine.isEmpty || !lineFreeOfControlCharacters payload.beforeRawLine)
      (lit ("restore_kerberos_scalar undo requires a non-empty raw " ++
        "before line without CR, LF or NUL"))
    rejectIf (!payload.sectionExistedBefore)
      (lit ("restore_kerberos_scalar undo with a present relation " ++
        "requires sectionExistedBefore"))
  | .Missing =>
    rejectIf (!payload.beforeRawLine.isEmpty)
      (lit ("restore_kerberos_scalar undo with a missing relation must " ++
        "not carry a raw before line"))

/-! ## PAM -/

def validStrategy (strategy : Option Bytes) : Bool :=
  strategy.all fun value =>
    [lit "preauth_required", lit "preauth_requisite", lit "authsucc"].contains value

def validActivationIdentifier (id : Bytes) : Bool :=
  !id.isEmpty && id.head? ≠ some '-'.toUInt8 &&
    id.all fun c => isAlnum c || c = '-'.toUInt8 || c = '_'.toUInt8

def pamCapabilityNames : List Bytes :=
  [lit "enable_authentication_lockout", lit "enable_password_history",
    lit "enable_password_quality"]

def validatePamUndoPayload (payload : UndoDisablePamCapability) : Except Bytes Unit := do
  rejectIf
    (!validStrategy payload.previousStrategy || !validStrategy payload.targetStrategy ||
      (payload.previousStrategy.isSome &&
        (!payload.hadAppliedProvenance || payload.targetStrategy.isNone ||
          payload.previousStrategy = payload.targetStrategy)) ||
      (payload.hadAppliedProvenance && payload.targetStrategy.isSome &&
        payload.previousStrategy.isNone) ||
      ((payload.previousStrategy.isSome || payload.targetStrategy.isSome) &&
        payload.capability ≠ lit "enable_authentication_lockout") ||
      (!payload.hadAppliedProvenance && !payload.previousError.isEmpty))
    (lit "invalid PAM strategy transition provenance")
  rejectIf (!pamCapabilityNames.contains payload.capability)
    (lit "disable_pam_capability requires a supported capability")
  rejectIf (payload.topology = .PamAuthUpdate && payload.activationIdentifiers.isEmpty)
    (lit "pam_auth_update undo requires activation identifiers")
  rejectIf (payload.topology = .AltTcbManaged && !payload.activationIdentifiers.isEmpty)
    (lit "ALT PAM undo must not contain activation identifiers")
  rejectIf
    (!payload.activationIdentifiers.all validActivationIdentifier ||
      !allDistinct payload.activationIdentifiers)
    (lit "invalid or duplicate PAM activation identifier")

def validConfigPath (path : Bytes) : Bool :=
  isAbsolutePath path && lineFreeOfControlCharacters path

/-- The body is a canonical assignment of exactly this key. -/
def assignsKey (provider key body : Bytes) : Bool :=
  (parseCanonicalPamProviderEntryBody body provider).any fun parsed => parsed.1 = key

def validatePamProviderManagedEntryUndoPayload (payload : UndoRemovePamProviderManagedEntry) :
    Except Bytes Unit := do
  rejectIf (!isValidPamProviderIdentityToken payload.policyName)
    (lit ("remove_pam_provider_managed_entry undo requires a valid " ++
      "FIC policy identity token"))
  rejectIf (!isValidPamProviderIdentityToken payload.providerName)
    (lit ("remove_pam_provider_managed_entry undo requires a valid " ++
      "PAM provider identity token"))
  rejectIf (!validConfigPath payload.configPath)
    (lit ("remove_pam_provider_managed_entry undo requires an " ++
      "absolute config path free of CR/LF/NUL"))
  rejectIf (!isValidPamProviderManagedKey payload.managedKey)
    (lit "remove_pam_provider_managed_entry undo requires a valid managed key")
  rejectIf (!assignsKey payload.providerName payload.managedKey payload.appliedBody)
    (lit ("remove_pam_provider_managed_entry undo requires a " ++
      "canonical applied body of exactly the managed key"))
  rejectIf
    (!payload.previousAppliedBody.isEmpty &&
      (!assignsKey payload.providerName payload.managedKey payload.previousAppliedBody ||
        payload.previousAppliedBody = payload.appliedBody))
    (lit ("remove_pam_provider_managed_entry undo requires an " ++
      "empty (fresh create) or canonical previous applied " ++
      "body of the same managed key, different from the applied body"))

def validatePamProviderContainerUndoPayload (payload : UndoOwnPamProviderContainer) :
    Except Bytes Unit := do
  rejectIf (!isValidPamProviderIdentityToken payload.providerName)
    (lit ("own_pam_provider_container undo requires a valid PAM " ++ "provider identity token"))
  rejectIf (!validConfigPath payload.configPath)
    (lit ("own_pam_provider_container undo requires an absolute " ++
      "config path free of CR/LF/NUL"))

/-- The loop of `validateSuppressionSet`; `seen` are the ids so far. -/
def validateSuppressionSet (fieldName : Bytes) : List Bytes → List Bytes → Except Bytes Unit
  | _, [] => .ok ()
  | seen, id :: ids => do
    rejectIf (!isValidPamProviderSuppressionId id)
      (lit ("remove_pam_provider_managed_flag undo " ++
        "requires canonical suppression ids in ") ++ fieldName ++ lit ", got: " ++ id)
    rejectIf (seen.contains id)
      (lit ("remove_pam_provider_managed_flag undo has " ++
        "a duplicate suppression id in ") ++ fieldName ++ lit ": " ++ id)
    validateSuppressionSet fieldName (id :: seen) ids

def validatePamProviderManagedFlagUndoPayload (payload : UndoRemovePamProviderManagedFlag) :
    Except Bytes Unit := do
  rejectIf
    (!isValidPamProviderIdentityToken payload.policyName ||
      !isValidPamProviderIdentityToken payload.providerName)
    (lit ("remove_pam_provider_managed_flag undo requires valid " ++
      "policy and provider identity tokens"))
  rejectIf (!isValidPamProviderManagedKey payload.managedKey)
    (lit "remove_pam_provider_managed_flag undo requires a valid managed key")
  rejectIf (!validConfigPath payload.configPath)
    (lit ("remove_pam_provider_managed_flag undo requires an absolute " ++
      "config path free of CR/LF/NUL"))
  validateSuppressionSet (lit "suppression_ids") [] payload.suppressionIds
  validateSuppressionSet (lit "previous_suppression_ids") [] payload.previousSuppressionIds
  rejectIf (payload.appliedEnabled && !payload.suppressionIds.isEmpty)
    (lit ("remove_pam_provider_managed_flag undo has an enabled " ++
      "target with a non-empty suppression id set"))
  rejectIf
    (payload.previousAppliedEnabled = some true && !payload.previousSuppressionIds.isEmpty)
    (lit ("remove_pam_provider_managed_flag undo has an enabled " ++
      "previous state with a non-empty previous suppression id set"))
  rejectIf (payload.previousAppliedEnabled.isNone && !payload.previousSuppressionIds.isEmpty)
    (lit ("remove_pam_provider_managed_flag undo has a fresh " ++
      "transition with a non-empty previous suppression id set"))

/-! ## User creation and login.defs -/

/-- The keys a policy may assign in a file of this kind. -/
def userCreationKeys (policyName : Bytes) (kind : UserCreationConfigKind) :
    Except Bytes (List Bytes) :=
  let known : List (Bytes × Bytes) :=
    [(lit "user_home_base_directory", lit "HOME"), (lit "user_skeleton_directory", lit "SKEL"),
      (lit "user_default_shell", lit "SHELL"), (lit "user_default_primary_group", lit "GROUP")]
  match known.lookup policyName with
  | some key =>
    if kind ≠ .UseraddDefaults then .error (lit "USER_CREATION policy/config kind mismatch")
    else .ok [key]
  | none =>
    if policyName = lit "user_default_supplementary_groups" then
      match kind with
      | .Adduser => .ok [lit "ADD_EXTRA_GROUPS", lit "EXTRA_GROUPS"]
      | .UseraddDefaults => .ok [lit "GROUPS"]
      | .LoginDefs => .ok []
    else .error (lit "unknown USER_CREATION policy in undo")

/-- The assignments are lines `KEY=…` of distinct allowed keys, and of exactly
the set of keys the policy owns. -/
def validUserCreationAssignments (payload : UndoRemoveUserCreationManagedPolicy)
    (allowed : List Bytes) (assignments : List UserCreationManagedAssignment) : Bool :=
  let keys := assignments.map (·.key)
  let sameSet (expected : List Bytes) : Bool :=
    keys.all expected.contains && expected.all keys.contains
  allDistinct keys &&
    (assignments.all fun assignment =>
      allowed.contains assignment.key && !assignment.appliedLine.isEmpty &&
        lineFreeOfControlCharacters assignment.appliedLine &&
        assignment.key ++ lit "=" <+: assignment.appliedLine) &&
    if payload.policyName ≠ lit "user_default_supplementary_groups" then sameSet allowed
    else if payload.configKind = .UseraddDefaults then sameSet [lit "GROUPS"]
    else sameSet [lit "ADD_EXTRA_GROUPS"] || sameSet [lit "ADD_EXTRA_GROUPS", lit "EXTRA_GROUPS"]

def validateUserCreationUndoPayload (payload : UndoRemoveUserCreationManagedPolicy) :
    Except Bytes Unit := do
  rejectIf (payload.policyName.isEmpty || !isAbsolutePath payload.configPath)
    (lit "USER_CREATION undo requires known policy and absolute path")
  let allowed ← userCreationKeys payload.policyName payload.configKind
  rejectIf
    (payload.appliedAssignments.isEmpty ||
      !validUserCreationAssignments payload allowed payload.appliedAssignments ||
      (!payload.previousAppliedAssignments.isEmpty &&
        !validUserCreationAssignments payload allowed payload.previousAppliedAssignments))
    (lit "invalid USER_CREATION assignment/key/body payload")

inductive ValueDomain
  | Boolean
  | NonNegativeDays
  | DaysWithUnlimited
  | Uid
  deriving DecidableEq, Repr

structure SharedLoginDefsPolicySpec where
  policyName : Bytes
  submodule : Bytes
  key : Bytes
  domain : ValueDomain
  deriving DecidableEq, Repr

def sharedLoginDefsPolicySpecs : List SharedLoginDefsPolicySpec :=
  [⟨lit "user_create_home", lit "USER_CREATION", lit "CREATE_HOME", .Boolean⟩,
    ⟨lit "user_create_private_group", lit "USER_CREATION", lit "USERGROUPS_ENAB", .Boolean⟩,
    ⟨lit "password_min_age_days", lit "PASSWORD_AGING", lit "PASS_MIN_DAYS", .NonNegativeDays⟩,
    ⟨lit "password_max_age_days", lit "PASSWORD_AGING", lit "PASS_MAX_DAYS",
      .DaysWithUnlimited⟩,
    ⟨lit "password_expiration_warning_days", lit "PASSWORD_AGING", lit "PASS_WARN_AGE",
      .DaysWithUnlimited⟩,
    ⟨lit "regular_user_uid_min", lit "PASSWORD_AGING", lit "UID_MIN", .Uid⟩,
    ⟨lit "regular_user_uid_max", lit "PASSWORD_AGING", lit "UID_MAX", .Uid⟩]

def findSharedLoginDefsPolicySpec (policyName : Bytes) : Option SharedLoginDefsPolicySpec :=
  sharedLoginDefsPolicySpecs.find? fun spec => spec.policyName = policyName

/-- A canonical decimal number up to a bound. -/
def isCanonicalUpTo (maximum : Nat) (value : Bytes) : Bool :=
  isCanonicalDecimal value && ofDecimal value ≤ maximum

def ValueDomain.contains : ValueDomain → Bytes → Bool
  | .Boolean, value => value = lit "yes" || value = lit "no"
  | .NonNegativeDays, value => isCanonicalUpTo (2 ^ 31 - 1) value
  | .DaysWithUnlimited, value => value = lit "-1" || isCanonicalUpTo (2 ^ 31 - 1) value
  | .Uid, value => isCanonicalUpTo (2 ^ 32 - 1) value

def validateLoginDefsLine (spec : SharedLoginDefsPolicySpec)
    (payload : UndoRemoveIdentityLoginDefsManagedPolicy) (line field : Bytes) :
    Except Bytes Unit := do
  let assigned := payload.key ++ lit " "
  rejectIf (!(assigned <+: line))
    (lit "identity_login_defs undo " ++ field ++
      lit " must be a canonical assignment of the managed key")
  let value := line.drop assigned.length
  rejectIf (!spec.domain.contains value)
    (lit "identity_login_defs undo " ++ field ++ lit " carries an invalid value for " ++
      payload.policyName ++ lit ": " ++ lit "invalid canonical value for " ++ spec.key ++
      lit ": " ++ quoted value)

def validateIdentityLoginDefsUndoPayload (payload : UndoRemoveIdentityLoginDefsManagedPolicy) :
    Except Bytes Unit :=
  match findSharedLoginDefsPolicySpec payload.policyName with
  | none => .error (lit "unknown policy in identity_login_defs undo")
  | some spec => do
    rejectIf (!isAbsolutePath payload.configPath)
      (lit "identity_login_defs undo requires an absolute config path")
    rejectIf
      (payload.appliedLine.isEmpty || !lineFreeOfControlCharacters payload.appliedLine ||
        !lineFreeOfControlCharacters payload.previousAppliedLine)
      (lit "identity_login_defs undo requires applied lines without CR, LF or NUL")
    rejectIf (payload.key.isEmpty || payload.key ≠ spec.key)
      (lit "identity_login_defs undo key does not match the managed " ++ spec.key ++
        lit " assignment of " ++ payload.policyName)
    validateLoginDefsLine spec payload payload.appliedLine (lit "appliedLine")
    if payload.previousAppliedLine.isEmpty then .ok ()
    else
      validateLoginDefsLine spec payload payload.previousAppliedLine
        (lit "previousAppliedLine")

end Fic.Journal
