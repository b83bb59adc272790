import Fic.Journal.Codec.SssdRoundTrip

/-!
# Reading back records

What `serializeRecord` writes is read back as it was, for every record that the
loader accepts and that fits the bounds of the readers.
-/

namespace Fic.Journal

open Fic.Lib Json

variable {field malformed : Bytes} {seen : List Bytes} {kind : UserCreationConfigKind}
  {allowed : List Bytes} {assignments : List UserCreationManagedAssignment}
  {record : MutationRecord}

variable {prim : Primitives} {backend : MutationBackend}

/-! ## Names and lists -/

@[simp] theorem readPlacement_name (what : Bytes) (placement : PamProviderBlockPlacementContract) :
    readPlacement what (placementName placement) = .ok placement := by
  cases placement <;> rfl

@[simp] theorem readTopology_name (topology : PamTopologyKind) :
    readTopology (topologyName topology) = .ok topology := by
  cases topology <;> rfl

@[simp] theorem readPreviousEnabled_name (previous : Option Bool) :
    readPreviousEnabled (previousEnabledName previous) = .ok previous := by
  rcases previous with _ | _ | _ <;> rfl

@[simp] theorem readBeforeKind_name (kind : KerberosBeforeKind) :
    readBeforeKind (beforeKindName kind) = .ok kind := by
  cases kind <;> rfl

@[simp] theorem readStrings_map (error : Bytes) (texts : List Bytes) :
    readStrings error (texts.map .string) = .ok texts :=
  readAll_map fun _ _ => rfl

@[simp] theorem optionalText_ofOption (text : Option Bytes) :
    optionalText (.ofOption .string text) = .ok text := by
  cases text <;> rfl

@[simp] theorem isTextOrNull_ofOption (text : Option Bytes) :
    ((Json.ofOption .string text).isString || (Json.ofOption .string text).isNull) = true := by
  cases text <;> rfl

@[simp] theorem ofChecked_ok {α : Type} (a : α) : ofChecked (.ok a : Except Bytes α) = .ok a := rfl

/-! ## Graphical payloads -/

theorem readOwner_serialize (policy : PolicyRef) :
    readOwner (serializePolicyRef policy) = .ok policy := by
  simp [readOwner, serializePolicyRef, stringMember, Option.filter]

theorem readDesktopScalar_serialize (p : UndoRestoreDesktopScalar) :
    readDesktopScalar (serializeUndoAction { backend, payload := .RestoreDesktopScalar p }) =
      .ok (.RestoreDesktopScalar p) := by
  have howners : Json.readAll readOwner (p.owners.map serializePolicyRef) = .ok p.owners :=
    readAll_map fun policy _ => readOwner_serialize policy
  simp [readDesktopScalar, serializeUndoAction, payloadMembers, stringMember, boolMember,
    optionalStringMember, Option.filter, howners]

theorem readDisplayManagerBlock_serialize {p : UndoRemoveDisplayManagerBlock} (h : p.route = 0) :
    readDisplayManagerBlock
        (serializeUndoAction { backend, payload := .RemoveDisplayManagerBlock p }) =
      .ok (.RemoveDisplayManagerBlock p) := by
  simp [readDisplayManagerBlock, serializeUndoAction, payloadMembers, stringMember, boolMember,
    unsignedMember, Option.filter, h]
  rw [← h]

/-! ## SUDO and SYSCTL payloads -/

theorem readManagedSetting_serialize {p : UndoRemoveManagedSetting}
    (h : payloadChecks prim backend (.RemoveManagedSetting p) = .ok ())
    (hextension : ∀ x ∈ p.sysctl, backend = .Sysctl ∧
      deserializeSysctlState (serializeSysctlState x) = .ok x) :
    readManagedSetting backend
        (serializeUndoAction { backend, payload := .RemoveManagedSetting p }) =
      .ok (.RemoveManagedSetting p) := by
  have hrequire : (!p.key.isEmpty && (!decide (backend = .Sudo) || !p.appliedValue.isEmpty)) =
      true := by
    simpa [payloadChecks, imp_iff_not_or] using h
  cases hsysctl : p.sysctl with
  | none =>
    simp [readManagedSetting, serializeUndoAction, payloadMembers, readSysctlExtension, hsysctl,
      hrequire]
    rw [← hsysctl]
  | some x =>
    obtain ⟨hbackend, hread⟩ := hextension x hsysctl
    simp [readManagedSetting, serializeUndoAction, payloadMembers, readSysctlExtension, hsysctl,
      hread, Except.map, hrequire, ← hbackend]
    rw [← hsysctl]

theorem readAuthenticationProof_serialize (proof : AuthenticationProof) :
    readAuthenticationProof (serializeAuthenticationProof proof) = .ok proof := by
  simp [readAuthenticationProof, serializeAuthenticationProof]

theorem readSudoAuthentication_serialize {p : UndoReleaseSudoAuthentication}
    (h : validateSudoAuthenticationPayload prim p = .ok ()) :
    readSudoAuthentication prim
        (serializeUndoAction { backend, payload := .ReleaseSudoAuthentication p }) =
      .ok (.ReleaseSudoAuthentication p) := by
  have hread : ∀ proofs : List AuthenticationProof,
      Json.readAll readAuthenticationProof (proofs.map serializeAuthenticationProof) = .ok proofs :=
    fun proofs => readAll_map fun proof _ => readAuthenticationProof_serialize proof
  simp [readSudoAuthentication, readAuthenticationProofs, serializeUndoAction, payloadMembers,
    Option.filter, hread, h]

theorem validateProofsFrom_mem {label : Bytes} {proofs : List SudoScopedDefaultsWrapperProof}
    (h : validateProofsFrom prim label seen proofs = .ok ()) :
    ∀ proof ∈ proofs, validateSudoScopedDefaultsProof prim proof = .ok () := by
  induction proofs generalizing seen with
  | nil => simp
  | cons proof proofs ih =>
    simp only [validateProofsFrom, except_check_eq_ok] at h
    exact List.forall_mem_cons.mpr ⟨h.1, ih h.2.2⟩

theorem readScopedProof_serialize {proof : SudoScopedDefaultsWrapperProof}
    (h : validateSudoScopedDefaultsProof prim proof = .ok ()) :
    readScopedProof prim field (serializeScopedProof proof) = .ok proof := by
  simp [readScopedProof, serializeScopedProof, h]

theorem readSudoScopedDefaults_serialize {p : UndoReleaseSudoScopedDefaults}
    (h : validateSudoScopedDefaultsUndoPayload prim p = .ok ()) :
    readSudoScopedDefaults prim
        (serializeUndoAction { backend, payload := .ReleaseSudoScopedDefaults p }) =
      .ok (.ReleaseSudoScopedDefaults p) := by
  have hproofs := h
  simp only [validateSudoScopedDefaultsUndoPayload, except_check_eq_ok] at hproofs
  obtain ⟨-, hprevious, htarget, -, -⟩ := hproofs
  have hread : ∀ {label : Bytes} {proofs : List SudoScopedDefaultsWrapperProof},
      validateProofSetUnique prim proofs label = .ok () → ∀ field,
      Json.readAll (readScopedProof prim field) (proofs.map serializeScopedProof) = .ok proofs :=
    fun hproofs field => readAll_map fun proof hproof =>
      readScopedProof_serialize (validateProofsFrom_mem hproofs proof hproof)
  simp [readSudoScopedDefaults, readScopedProofs, serializeUndoAction, payloadMembers,
    hread hprevious, hread htarget, h]

/-! ## SSH payloads -/

theorem readDisabledIds_serialize {p : UndoRemoveSshManagedPolicy}
    (h : p.disabledMutationIds.any (·.isEmpty) = false) :
    readDisabledIds (serializeUndoAction { backend, payload := .RemoveSshManagedPolicy p }) =
      .ok p.disabledMutationIds := by
  have hread : Json.readAll readDisabledId (p.disabledMutationIds.map .string) =
      .ok p.disabledMutationIds := by
    refine readAll_map fun id hid => ?_
    have hne : id.isEmpty = false := by simpa using List.any_eq_false.mp h id hid
    simp [readDisabledId, hne]
  simp [readDisabledIds, serializeUndoAction, payloadMembers, sshMembers, hread]

section

variable {p : UndoRemoveSshManagedPolicy}

theorem unversioned_of_validSshProjection
    (h : validSshProjection prim (sshOwnedProjection p) = .ok ())
    (hversion : p.ownershipVersion = 0) : p.wrapperFingerprints = .empty := by
  simp only [validSshProjection, except_check_eq_ok, rejectIf_eq_ok, Bool.or_eq_false_iff] at h
  refine OrderedMap.eq_empty_of_isEmpty ?_
  simpa [sshOwnedProjection, hversion] using h.1.2

theorem readSshOwnership_serialize (h : validSshProjection prim (sshOwnedProjection p) = .ok ()) :
    readSshOwnership (serializeUndoAction { backend, payload := .RemoveSshManagedPolicy p }) =
      .ok (p.ownershipVersion, p.wrapperFingerprints, p.operationSequence) := by
  have hversion : p.ownershipVersion.toNat ≤ 1 := version_of_validSshProjection h
  by_cases htyped : p.ownershipVersion ≠ 0 ∨ p.operationSequence ≠ 0 ∨ p.transition.isSome
  · simp [readSshOwnership, serializeUndoAction, payloadMembers, sshMembers, htyped, hversion]
  · simp only [not_or, Decidable.not_not, Bool.not_eq_true, Option.isSome_eq_false_iff,
      Option.isNone_iff_eq_none] at htyped
    obtain ⟨hzero, hsequence, hnone⟩ := htyped
    simp [readSshOwnership, serializeUndoAction, payloadMembers, sshMembers, hzero,
      hsequence, hnone, unversioned_of_validSshProjection h hzero]

theorem readIncluded_serializeSsh :
    readIncluded (serializeUndoAction { backend, payload := .RemoveSshManagedPolicy p }) =
      .ok p.includedWrappers := by
  refine readIncluded_of_find ?_
  cases ht : p.transition with
  | none =>
    by_cases htyped : p.ownershipVersion ≠ 0 ∨ p.operationSequence ≠ 0 <;>
      simp [serializeUndoAction, payloadMembers, sshMembers, ht, htyped]
  | some t => simp [serializeUndoAction, payloadMembers, sshMembers, ht, List.lookup_append]

theorem readSshTransition_serialize (h : ∀ t ∈ p.transition, t.Fits) :
    readSshTransition (serializeUndoAction { backend, payload := .RemoveSshManagedPolicy p }) =
      .ok p.transition := by
  cases ht : p.transition with
  | none =>
    by_cases htyped : p.ownershipVersion ≠ 0 ∨ p.operationSequence ≠ 0 <;>
      simp [readSshTransition, serializeUndoAction, payloadMembers, sshMembers, ht, htyped]
  | some t =>
    have hread := deserializeSshTransition_serialize (h t ht)
    simp [readSshTransition, serializeUndoAction, payloadMembers, sshMembers, ht,
      List.lookup_append, hread, Except.map]

theorem readSshPolicy_serialize
    (hchecks : payloadChecks prim backend (.RemoveSshManagedPolicy p) = .ok ())
    (hprojection : validSshProjection prim (sshOwnedProjection p) = .ok ())
    (htransition : ∀ t ∈ p.transition, t.Fits) :
    readSshPolicy (serializeUndoAction { backend, payload := .RemoveSshManagedPolicy p }) =
      .ok (.RemoveSshManagedPolicy p) := by
  simp only [payloadChecks, except_check_eq_ok, rejectIf_eq_ok, Bool.or_eq_false_iff] at hchecks
  obtain ⟨⟨⟨hpolicy, hdirective⟩, happlied⟩, hids⟩ := hchecks
  have hcontract : ∀ payload, readSshContract payload
      (serializeUndoAction { backend, payload := .RemoveSshManagedPolicy p }) = .ok
        { payload with
          ownershipVersion := p.ownershipVersion, wrapperFingerprints := p.wrapperFingerprints
          operationSequence := p.operationSequence, includedWrappers := p.includedWrappers
          transition := p.transition } := by
    intro payload
    simp [readSshContract, readSshOwnership_serialize hprojection, readIncluded_serializeSsh,
      readSshTransition_serialize htransition]
  have hvalue := fun key : Bytes =>
    show valueString key (serializeUndoAction { backend, payload := .RemoveSshManagedPolicy p }) = _
      from valueString_mkObject
  unfold readSshPolicy
  rw [readDisabledIds_serialize hids]
  simp only [hcontract]
  simp [hvalue, payloadMembers, sshMembers, guarded, hpolicy, hdirective, happlied]

end

/-! ## User creation and login.defs payloads -/

@[simp] theorem readConfigKind_name (h : kind ≠ .LoginDefs) :
    readConfigKind (configKindName kind) = .ok kind := by
  cases kind with
  | LoginDefs => exact absurd rfl h
  | UseraddDefaults => rfl
  | Adduser => rfl

def userCreationKeyNames : List Bytes :=
  [lit "HOME", lit "SKEL", lit "SHELL", lit "GROUP", lit "ADD_EXTRA_GROUPS", lit "EXTRA_GROUPS",
    lit "GROUPS"]

theorem userCreationKeys_names {policyName : Bytes}
    (h : userCreationKeys policyName kind = .ok allowed) :
    (∀ key ∈ allowed, key ∈ userCreationKeyNames) ∧ (kind = .LoginDefs → allowed = []) := by
  unfold userCreationKeys at h
  dsimp only at h
  generalize hkey : List.lookup policyName _ = found at h
  cases found with
  | some key =>
    dsimp only at h
    split_ifs at h with hkind
    injection h with h
    subst h
    have hmem := mem_of_lookup hkey
    refine ⟨?_, fun hlogin => absurd (Decidable.not_not.mp hkind) (by simp [hlogin])⟩
    simp only [List.mem_cons, Prod.mk.injEq, List.not_mem_nil, or_false] at hmem
    rcases hmem with ⟨-, rfl⟩ | ⟨-, rfl⟩ | ⟨-, rfl⟩ | ⟨-, rfl⟩ <;> decide
  | none =>
    dsimp only at h
    split_ifs at h
    cases kind <;> cases h <;> decide

theorem readAssignmentsFrom_serialize
    (hplain : ∀ item ∈ assignments, (item.key.isEmpty || item.appliedLine.isEmpty ||
      hasAny crLf item.key || hasAny crLf item.appliedLine) = false)
    (hdistinct : (assignments.map (·.key)).Nodup) (hseen : ∀ item ∈ assignments, item.key ∉ seen) :
    readAssignmentsFrom malformed seen (assignments.map serializeAssignment) = .ok assignments := by
  induction assignments generalizing seen with
  | nil => rfl
  | cons item assignments ih =>
    rw [List.map_cons, List.nodup_cons] at hdistinct
    have hrest : readAssignmentsFrom malformed (item.key :: seen)
        (assignments.map serializeAssignment) = .ok assignments := by
      refine ih (fun other hother => hplain other (List.mem_cons_of_mem _ hother)) hdistinct.2 ?_
      intro other hother hmem
      rcases List.mem_cons.mp hmem with heq | hmem
      · exact hdistinct.1 (List.mem_map.mpr ⟨other, hother, heq⟩)
      · exact hseen other (List.mem_cons_of_mem _ hother) hmem
    have hitem := hplain item List.mem_cons_self
    simp only [Bool.or_eq_false_iff] at hitem
    obtain ⟨⟨⟨hkey, hline⟩, hkeyLine⟩, hlineLine⟩ := hitem
    have hnew : item.key ∉ seen := hseen item List.mem_cons_self
    have hobject : (serializeAssignment item).isObject = true := rfl
    have hvalue := fun key : Bytes =>
      show valueString key (serializeAssignment item) = _ from valueString_mkObject
    simp [readAssignmentsFrom, hobject, hvalue, hkey, hline, hkeyLine, hlineLine, hnew, hrest]

theorem hasAny_crLf_of_lineFree {line : Bytes} (h : lineFreeOfControlCharacters line = true) :
    hasAny crLf line = false := by
  simp only [lineFreeOfControlCharacters, hasAny, crLf, Bool.not_eq_eq_eq_not, Bool.not_true,
    List.any_eq_false, List.contains_cons, List.contains_nil, Bool.or_false, Bool.or_eq_true,
    not_or] at h ⊢
  intro b hb
  exact ⟨(h b hb).1, (h b hb).2.1⟩

variable {p : UndoRemoveUserCreationManagedPolicy}

/-- What the validator of a payload says about its assignments is all that their
reader checks. -/
theorem assignments_plain (hallowed : ∀ key ∈ allowed, key ∈ userCreationKeyNames)
    (h : validUserCreationAssignments p allowed assignments = true) :
    (∀ item ∈ assignments, (item.key.isEmpty || item.appliedLine.isEmpty ||
      hasAny crLf item.key || hasAny crLf item.appliedLine) = false) ∧
      (assignments.map (·.key)).Nodup := by
  have hnames : ∀ key ∈ userCreationKeyNames, key.isEmpty = false ∧ hasAny crLf key = false := by
    decide
  simp only [validUserCreationAssignments, Bool.and_eq_true, List.all_eq_true, allDistinct,
    decide_eq_true_eq] at h
  obtain ⟨⟨hdistinct, hitems⟩, -⟩ := h
  refine ⟨?_, hdistinct⟩
  intro item hitem
  obtain ⟨⟨⟨hkey, hline⟩, hfree⟩, -⟩ := hitems item hitem
  obtain ⟨hnonempty, hplain⟩ := hnames item.key (hallowed _ (by simpa using hkey))
  have hline : item.appliedLine.isEmpty = false := by simpa using hline
  simp [hnonempty, hline, hplain, hasAny_crLf_of_lineFree hfree]

theorem readAssignments_serialize
    {members : List (Bytes × Json)} (hallowed : ∀ key ∈ allowed, key ∈ userCreationKeyNames)
    (h : validUserCreationAssignments p allowed assignments = true)
    (hnonempty : assignments.isEmpty = false)
    (hmember : members.lookup field = some (.array (assignments.map serializeAssignment))) :
    readAssignments field malformed (.mkObject members) = .ok assignments := by
  obtain ⟨hplain, hdistinct⟩ := assignments_plain hallowed h
  have hread : readAssignmentsFrom malformed [] (assignments.map serializeAssignment) =
      .ok assignments := readAssignmentsFrom_serialize hplain hdistinct (by simp)
  simp [readAssignments, hmember, Option.filter, hread, hnonempty]

theorem readUserCreation_serialize (h : validateUserCreationUndoPayload p = .ok ()) :
    readUserCreation
        (serializeUndoAction { backend, payload := .RemoveUserCreationManagedPolicy p }) =
      .ok (.RemoveUserCreationManagedPolicy p) := by
  obtain ⟨⟨⟩, hnamed, hvalid⟩ := except_bind_eq_ok.mp h
  obtain ⟨allowed, hallowed, hvalid⟩ := except_bind_eq_ok.mp hvalid
  simp only [rejectIf_eq_ok, Bool.or_eq_false_iff, Bool.not_eq_eq_eq_not, Bool.not_false]
    at hnamed hvalid
  obtain ⟨⟨happlied, hassignments⟩, hprevious⟩ := hvalid
  obtain ⟨hnames, hlogin⟩ := userCreationKeys_names hallowed
  have hkind : p.configKind ≠ .LoginDefs := by
    intro hkind
    -- in such a file no key is allowed, and there is an assignment
    obtain ⟨item, hitem⟩ := List.exists_mem_of_ne_nil _ (List.isEmpty_eq_false_iff.mp happlied)
    simp only [validUserCreationAssignments, hlogin hkind, Bool.and_eq_true,
      List.all_eq_true] at hassignments
    have hkey := (hassignments.1.2 item hitem).1.1.1
    simp at hkey
  have hpath : p.configPath.isEmpty = false := by
    cases hp : p.configPath with
    | nil => simp [hp, isAbsolutePath] at hnamed
    | cons b rest => rfl
  have hread : readAssignments (lit "applied_assignments")
      (lit "malformed USER_CREATION ownership payload")
      (serializeUndoAction { backend, payload := .RemoveUserCreationManagedPolicy p }) =
      .ok p.appliedAssignments :=
    readAssignments_serialize hnames hassignments happlied (by simp [payloadMembers])
  have hreadPrevious : readPreviousAssignments
      (serializeUndoAction { backend, payload := .RemoveUserCreationManagedPolicy p }) =
      .ok p.previousAppliedAssignments := by
    cases hempty : p.previousAppliedAssignments.isEmpty with
    | true =>
      have hnil := List.isEmpty_iff.mp hempty
      simp [readPreviousAssignments, serializeUndoAction, payloadMembers, Option.filter, hnil,
        Json.size]
    | false =>
      have hitems : validUserCreationAssignments p allowed p.previousAppliedAssignments = true := by
        simpa [hempty] using hprevious
      have hread : readAssignments (lit "previous_applied_assignments")
          (lit "malformed USER_CREATION previous assignments")
          (serializeUndoAction { backend, payload := .RemoveUserCreationManagedPolicy p }) =
          .ok p.previousAppliedAssignments :=
        readAssignments_serialize hnames hitems hempty (by simp [payloadMembers])
      have hmember : requireMember (lit "previous_applied_assignments") Json.isArray
          (lit "missing USER_CREATION previous assignments")
          (serializeUndoAction { backend, payload := .RemoveUserCreationManagedPolicy p }) =
          .ok (.array (p.previousAppliedAssignments.map serializeAssignment)) := by
        simp [serializeUndoAction, payloadMembers, Option.filter]
      have hne := List.isEmpty_eq_false_iff.mp hempty
      simp [readPreviousAssignments, hmember, Json.size, hne, hread]
  have hvalue := fun key : Bytes =>
    show valueString key
      (serializeUndoAction { backend, payload := .RemoveUserCreationManagedPolicy p }) = _
      from valueString_mkObject
  simp [readUserCreation, hvalue, payloadMembers, hkind, hnamed.1, hpath, hread, hreadPrevious, h]

/-! ## The other payloads -/

theorem readFirewallPolicy_serialize {p : UndoRemoveFirewallPolicy}
    (h : payloadChecks prim backend (.RemoveFirewallPolicy p) = .ok ()) :
    readFirewallPolicy (serializeUndoAction { backend, payload := .RemoveFirewallPolicy p }) =
      .ok (.RemoveFirewallPolicy p) := by
  have hpolicy : p.policyName.isEmpty = false := by simpa [payloadChecks] using h
  simp [readFirewallPolicy, serializeUndoAction, payloadMembers, hpolicy]

theorem readSssdOwnership_serialize {own : SssdJournalOwnership} (h : Sssd.OwnershipFits own) :
    readSssdOwnership (serializeUndoAction { backend, payload := .SssdOwnership own }) =
      .ok (.SssdOwnership own) := by
  simp [readSssdOwnership, serializeUndoAction, payloadMembers, Sssd.decode_encode h, guarded]

/-! ## Records -/

/-- What the checks behind the status say. -/
structure StatusFacts (prim : Primitives) (record : MutationRecord) : Prop where
  ssh : validSshRecord prim record = .ok ()
  sysctl : validSysctlRecord record = .ok ()
  sssd : validSssdRecord prim record = .ok ()
  dm : record.isDm = true → validDmRecord record = .ok ()

theorem LoadAccepted.statusFacts (h : LoadAccepted prim record) : StatusFacts prim record := by
  have hstatus := h.status
  simp only [statusChecks, except_check_eq_ok, ofChecked_eq_ok] at hstatus
  obtain ⟨hssh, hsysctl, hsssd, -, -, hdm⟩ := hstatus
  exact ⟨hssh, hsysctl, hsssd, fun his => by simpa [checkIf, his] using hdm⟩

theorem deserializeUndoAction_of_read {action : UndoAction}
    (h : readPayload prim action.backend (undoActionTypeName action.payload)
      (serializeUndoAction action) = some (.ok action.payload)) :
    deserializeUndoAction prim (serializeUndoAction action) = .ok action := by
  have hvalue := fun key : Bytes =>
    show valueString key (serializeUndoAction action) = _ from valueString_mkObject
  simp [deserializeUndoAction, hvalue, h, Except.map]

/-- The flags of a valid setting are those its reader asks for. -/
theorem sysctlState_serialize {p : UndoRemoveManagedSetting}
    (hvalid : validSysctlRecord record = .ok ())
    (hpayload : record.undo.payload = .RemoveManagedSetting p)
    (hbounds : readerBounds record.undo.payload = true) :
    ∀ x ∈ p.sysctl, record.undo.backend = .Sysctl ∧
      deserializeSysctlState (serializeSysctlState x) = .ok x := by
  intro x hx
  have hx : p.sysctl = some x := hx
  simp only [validSysctlRecord, hpayload, hx, except_check_eq_ok, rejectIf_eq_ok,
    Bool.or_eq_false_iff, decide_eq_false_iff_not, Decidable.not_not] at hvalid
  obtain ⟨-, ⟨⟨⟨⟨⟨⟨⟨⟨⟨⟨⟨⟨hbackend, -⟩, -⟩, hversion⟩, hcontainer⟩, -⟩, -⟩, -⟩, hpending⟩, hsettled⟩,
    hlegacy⟩, -⟩, -⟩⟩ := hvalid
  have hflags : validSysctlFlags { x with release := none } = true := by
    simp only [validSysctlFlags, hversion, hcontainer]
    cases hp : x.pending <;> cases hl : x.previousLegacy <;> simp_all
  have hinBounds : x.release.all (·.inBounds) = true := by
    simpa [hpayload, readerBounds, hx] using hbounds
  exact ⟨hbackend, deserializeSysctlState_serialize hflags ((Option.all_eq_true _ _).mp hinBounds)⟩

theorem sshTransition_fits {p : UndoRemoveSshManagedPolicy}
    (hvalid : validSshRecord prim record = .ok ()) (hbackend : record.undo.backend = .Ssh)
    (hpayload : record.undo.payload = .RemoveSshManagedPolicy p) :
    validSshProjection prim (sshOwnedProjection p) = .ok () ∧ ∀ t ∈ p.transition, t.Fits := by
  simp only [validSshRecord, hbackend, hpayload, ne_eq, not_true_eq_false, if_false,
    except_check_eq_ok, ofChecked_eq_ok] at hvalid
  obtain ⟨hprojection, -, -, htransition⟩ := hvalid
  refine ⟨hprojection, ?_⟩
  intro t ht
  have ht : p.transition = some t := ht
  rw [ht] at htransition
  exact SshOwnershipTransition.fits_of_valid htransition

theorem route_of_validDm {p : UndoRemoveDisplayManagerBlock} (h : validDmRecord record = .ok ())
    (hpayload : record.undo.payload = .RemoveDisplayManagerBlock p) : p.route = 0 := by
  simp only [validDmRecord, hpayload, except_check_eq_ok, rejectIf_eq_ok, Bool.or_eq_false_iff,
    decide_eq_false_iff_not, Decidable.not_not] at h
  simp_all only

theorem readPayload_serialize (h : LoadAccepted prim record)
    (hbounds : readerBounds record.undo.payload = true) :
    readPayload prim record.undo.backend (undoActionTypeName record.undo.payload)
      (serializeUndoAction record.undo) = some (.ok record.undo.payload) := by
  have hbelongs := h.belongs
  have hchecks := h.payload
  obtain ⟨hssh, hsysctl, hsssd, hdm⟩ := h.statusFacts
  cases hundo : record.undo with
  | mk backend payload =>
    have hpayload : record.undo.payload = payload := by rw [hundo]
    have hbackend : record.undo.backend = backend := by rw [hundo]
    rw [hundo] at hbelongs hchecks
    cases payload <;> cases backend <;> simp only [belongsTo, Bool.false_eq_true] at hbelongs
    case RemoveManagedSetting.Sysctl | RemoveManagedSetting.Sudo =>
      have hread := sysctlState_serialize hsysctl hpayload hbounds
      rw [hbackend] at hread
      simp [readPayload, undoActionTypeName, readManagedSetting_serialize hchecks hread]
    case RemoveSshManagedPolicy.Ssh =>
      obtain ⟨hprojection, hfits⟩ := sshTransition_fits hssh hbackend hpayload
      simp [readPayload, undoActionTypeName, readSshPolicy_serialize hchecks hprojection hfits]
    case SssdOwnership.Sssd =>
      have hfits := Sssd.ownershipFits_of_valid hsssd hpayload hbounds
      simp [readPayload, undoActionTypeName, readSssdOwnership_serialize hfits]
    case RemoveDisplayManagerBlock.DisplayManager =>
      have hroute := route_of_validDm (hdm (by simp [MutationRecord.isDm, hpayload])) hpayload
      simp [readPayload, undoActionTypeName, readDisplayManagerBlock_serialize hroute]
    case RestoreDesktopScalar.Desktop =>
      simp [readPayload, undoActionTypeName, readDesktopScalar_serialize]
    case ReleaseSudoAuthentication.Sudo =>
      simp [readPayload, undoActionTypeName, readSudoAuthentication_serialize hchecks]
    case ReleaseSudoScopedDefaults.Sudo =>
      simp [readPayload, undoActionTypeName, readSudoScopedDefaults_serialize hchecks]
    case RemoveUserCreationManagedPolicy.UserCreation =>
      simp [readPayload, undoActionTypeName, readUserCreation_serialize hchecks]
    case RemoveFirewallPolicy.Firewall =>
      simp [readPayload, undoActionTypeName, readFirewallPolicy_serialize hchecks]
    -- the other readers build the payload and validate it at their end
    all_goals
      simp only [payloadChecks] at hchecks
      simp [readPayload, undoActionTypeName, serializeUndoAction, payloadMembers, stringMember,
        boolMember, unsignedMember, optionalStringMember, Option.filter, hchecks,
        readDesktopArtifact, readScopeCheckpoint, readSudoGlobalDefault, readGrubSetting,
        readSssdSetting, readKerberosScalar, readPamCapability, readPamEntry, readPamFlag,
        readPamContainer, readLoginDefs]

theorem deserializeUndoAction_serialize (h : LoadAccepted prim record)
    (hbounds : readerBounds record.undo.payload = true) :
    deserializeUndoAction prim (serializeUndoAction record.undo) = .ok record.undo :=
  deserializeUndoAction_of_read (readPayload_serialize h hbounds)

/-- The backend a document names matters for PAM records only. -/
theorem identityChecks_named {namesPam : Bool} (h : record.undo.backend = .Pam → namesPam = true) :
    identityChecks prim namesPam record = identityChecks prim true record := by
  by_cases hpam : record.undo.backend = .Pam
  · rw [h hpam]
  · simp [identityChecks, checkIf, hpam]

theorem readPolicy_serialize {policy : PolicyRef}
    (h : policy.moduleName ≠ [] ∧ policy.policyName ≠ []) :
    readPolicy (serializePolicyRef policy) = .ok policy := by
  have hmodule := List.isEmpty_eq_false_iff.mpr h.1
  have hpolicy := List.isEmpty_eq_false_iff.mpr h.2
  simp [readPolicy, serializePolicyRef, hmodule, hpolicy]

theorem deserializeRecord_serialize (h : LoadAccepted prim record)
    (hbounds : readerBounds record.undo.payload = true) :
    deserializeRecord prim (serializeRecord record) = .ok record := by
  have hundo := deserializeUndoAction_serialize h hbounds
  have hpolicy := readPolicy_serialize h.named
  have hobject : (serializeUndoAction record.undo).isObject = true := rfl
  have hpolicyObject : (serializePolicyRef record.policy).isObject = true := rfl
  have hidentity : identityChecks prim
      (decide (mutationBackendToString record.undo.backend = lit "pam")) record.identified =
      .ok () := by
    refine (identityChecks_named ?_).trans h.identity
    intro hpam
    have hpam : record.undo.backend = .Pam := hpam
    simp [hpam, mutationBackendToString]
  have hstatus : statusChecks prim { record.identified with status := record.status } = .ok () :=
    h.status
  unfold MutationRecord.identified at hidentity hstatus
  simp [deserializeRecord, serializeRecord, unsignedMember, Option.filter, hpolicyObject, hpolicy,
    hobject, hundo, readStatus, hidentity, hstatus]

end Fic.Journal
