import Fic.Journal.LoadFacts

/-!
# Rollback authority across a refresh

`authorised` lists the states of the managed artifacts that a record permits to
undo: its applied side, and while it is Prepared also its previous one.  A
refresh has to hand all of them on.  The guards of most kinds see to that; those
of the PAM provider kinds do not compare everything that the undo code asks for,
and `refresh_authority` says exactly when they lose something.
-/

namespace Fic.Journal

open Fic.Lib Fic.Pam Journal

variable {p : UndoRemovePamProviderManagedEntry}

/-! ## What a record permits to undo -/

/-- A state of a managed artifact, as the undo code identifies it. -/
inductive ArtifactState
  | userCreation (policyName : Bytes) (configKind : UserCreationConfigKind) (configPath : Bytes)
      (assignments : List UserCreationManagedAssignment)
  | loginDefs (policyName configPath key line : Bytes)
  | sudoGlobalDefault (key containerId : Bytes) (addedSeparator : Bool)
      (separatorPrefixDigest line : Bytes)
  | sudoAuthentication (proofs : List AuthenticationProof)
  | sudoScopedDefaults (policyName : Bytes) (proofs : List SudoScopedDefaultsWrapperProof)
  | pamEntry (id : UInt64) (providerName configPath policyName managedKey : Bytes)
      (placement : PamProviderBlockPlacementContract) (body : Bytes)
  | pamFlag (id : UInt64) (providerName configPath policyName managedKey : Bytes)
      (placement : PamProviderBlockPlacementContract) (enabled : Bool)
      (suppressionIds : List Bytes)
  deriving DecidableEq

/-- An empty side owns nothing. -/
def ownedIf {α : Type} (content : List α) (state : ArtifactState) : Option ArtifactState :=
  if content.isEmpty then none else some state

def pamEntryState (id : UInt64) (p : UndoRemovePamProviderManagedEntry) (body : Bytes) :
    ArtifactState :=
  .pamEntry id p.providerName p.configPath p.policyName p.managedKey p.placement body

def pamFlagState (id : UInt64) (p : UndoRemovePamProviderManagedFlag) (enabled : Bool)
    (suppressionIds : List Bytes) : ArtifactState :=
  .pamFlag id p.providerName p.configPath p.policyName p.managedKey p.placement enabled
    (if enabled then [] else suppressionIds)

def sudoGlobalState (p : UndoReleaseSudoGlobalDefault) (line : Bytes) : ArtifactState :=
  .sudoGlobalDefault p.key p.containerId p.addedSeparator p.separatorPrefixDigest line

def appliedSide (id : UInt64) : UndoPayload → Option ArtifactState
  | .RemoveUserCreationManagedPolicy p =>
    ownedIf p.appliedAssignments
      (.userCreation p.policyName p.configKind p.configPath p.appliedAssignments)
  | .RemoveIdentityLoginDefsManagedPolicy p =>
    ownedIf p.appliedLine (.loginDefs p.policyName p.configPath p.key p.appliedLine)
  | .ReleaseSudoGlobalDefault p => ownedIf p.appliedLine (sudoGlobalState p p.appliedLine)
  | .ReleaseSudoAuthentication p => ownedIf p.targetProofs (.sudoAuthentication p.targetProofs)
  | .ReleaseSudoScopedDefaults p =>
    ownedIf p.targetProofs (.sudoScopedDefaults p.policyName p.targetProofs)
  | .RemovePamProviderManagedEntry p => ownedIf p.appliedBody (pamEntryState id p p.appliedBody)
  | .RemovePamProviderManagedFlag p => some (pamFlagState id p p.appliedEnabled p.suppressionIds)
  | _ => none

def previousSide (id : UInt64) : UndoPayload → Option ArtifactState
  | .RemoveUserCreationManagedPolicy p =>
    ownedIf p.previousAppliedAssignments
      (.userCreation p.policyName p.configKind p.configPath p.previousAppliedAssignments)
  | .RemoveIdentityLoginDefsManagedPolicy p =>
    ownedIf p.previousAppliedLine
      (.loginDefs p.policyName p.configPath p.key p.previousAppliedLine)
  | .ReleaseSudoGlobalDefault p => ownedIf p.previousLine (sudoGlobalState p p.previousLine)
  | .ReleaseSudoAuthentication p =>
    ownedIf p.previousProofs (.sudoAuthentication p.previousProofs)
  | .ReleaseSudoScopedDefaults p =>
    ownedIf p.previousProofs (.sudoScopedDefaults p.policyName p.previousProofs)
  | .RemovePamProviderManagedEntry p =>
    ownedIf p.previousAppliedBody (pamEntryState id p p.previousAppliedBody)
  | .RemovePamProviderManagedFlag p =>
    p.previousAppliedEnabled.map fun enabled => pamFlagState id p enabled p.previousSuppressionIds
  | _ => none

/-- The states an active record permits to undo. -/
def authorised (r : MutationRecord) : List ArtifactState :=
  (appliedSide r.id r.undo.payload).toList ++
    if r.status = .Prepared then (previousSide r.id r.undo.payload).toList else []

/-- The kinds of record that own such artifacts. -/
def ownsArtifacts (undo : UndoAction) : Bool :=
  match undo.backend, undo.payload with
  | .UserCreation, .RemoveUserCreationManagedPolicy _ => true
  | .IdentityLoginDefs, .RemoveIdentityLoginDefsManagedPolicy _ => true
  | .Sudo, .ReleaseSudoGlobalDefault _ => true
  | .Sudo, .ReleaseSudoAuthentication _ => true
  | .Sudo, .ReleaseSudoScopedDefaults _ => true
  | .Pam, .RemovePamProviderManagedEntry _ => true
  | .Pam, .RemovePamProviderManagedFlag _ => true
  | _, _ => false

/-- What every load and every preparation has checked of a record. -/
structure OwnershipValid (prim : Primitives) (r : MutationRecord) : Prop where
  pam : r.undo.backend = .Pam → pamGuard r = .ok ()
  scopedDefaults : r.undo.backend = .Sudo → ∀ p, r.undo.payload = .ReleaseSudoScopedDefaults p →
    validateSudoScopedDefaultsUndoPayload prim p = .ok ()

/-- A refresh of a PAM provider record keeps the placement, and that of a flag
the managed key. -/
def keepsRoute : UndoPayload → UndoPayload → Bool
  | .RemovePamProviderManagedEntry old, .RemovePamProviderManagedEntry new =>
    old.placement = new.placement
  | .RemovePamProviderManagedFlag old, .RemovePamProviderManagedFlag new =>
    old.managedKey = new.managedKey && old.placement = new.placement
  | _, _ => true

/-! ## The guards -/

/-- The refreshed payload has both sides of an unresolved transition, and else the
applied side as its previous one. -/
def Carries (status : MutationStatus) (id : UInt64) (old new : UndoPayload) : Prop :=
  if status = .Prepared then
    appliedSide id new = appliedSide id old ∧ previousSide id new = previousSide id old
  else previousSide id new = appliedSide id old

variable {prim : Primitives} {env : Env} {j : Journal} {existing record : MutationRecord}
  {status : MutationStatus} {id : UInt64} {old new : UndoPayload}

theorem userCreation_carries (hactive : status.isActive = true)
    (h : userCreationRefreshGuard status old new = .ok ()) : Carries status id old new := by
  unfold userCreationRefreshGuard at h
  split at h
  · obtain ⟨⟨⟩, hidentity, h⟩ := except_bind_eq_ok.mp h
    simp only [rejectIf_eq_ok, Bool.or_eq_false_iff, decide_eq_false_iff_not,
      Decidable.not_not] at hidentity
    obtain ⟨⟨hname, hkind⟩, hpath⟩ := hidentity
    cases status <;>
      simp_all [Carries, appliedSide, previousSide, MutationStatus.isActive]
  · cases h

theorem loginDefs_carries (hactive : status.isActive = true)
    (h : loginDefsRefreshGuard status old new = .ok ()) : Carries status id old new := by
  unfold loginDefsRefreshGuard at h
  split at h
  · obtain ⟨⟨⟩, hidentity, h⟩ := except_bind_eq_ok.mp h
    simp only [rejectIf_eq_ok, Bool.or_eq_false_iff, decide_eq_false_iff_not,
      Decidable.not_not] at hidentity
    obtain ⟨⟨hname, hpath⟩, hkey⟩ := hidentity
    cases status <;>
      simp_all [Carries, appliedSide, previousSide, MutationStatus.isActive]
  · cases h

theorem policyName_of_scoped {p : UndoReleaseSudoScopedDefaults}
    (h : validateSudoScopedDefaultsUndoPayload prim p = .ok ()) :
    p.policyName = kScopedDefaultsPolicyName := by
  obtain ⟨⟨⟩, hname, -⟩ := except_bind_eq_ok.mp h
  simpa using hname

theorem globalDefault_carries {p : UndoReleaseSudoGlobalDefault}
    (h : sudoRefreshGuard status (.ReleaseSudoGlobalDefault p) new = .ok ()) :
    Carries status id (.ReleaseSudoGlobalDefault p) new := by
  cases new <;> simp only [sudoRefreshGuard, reduceCtorEq] at h
  simp only [rejectIf_eq_ok, Bool.or_eq_false_iff, decide_eq_false_iff_not,
    Decidable.not_not] at h
  obtain ⟨⟨⟨⟨hkey, hcontainer⟩, hseparator⟩, hdigest⟩, hlines⟩ := h
  unfold Carries
  split_ifs at hlines ⊢ <;>
    simp_all [appliedSide, previousSide, sudoGlobalState]

theorem authentication_carries {p : UndoReleaseSudoAuthentication}
    (h : sudoRefreshGuard status (.ReleaseSudoAuthentication p) new = .ok ()) :
    Carries status id (.ReleaseSudoAuthentication p) new := by
  cases new <;> simp only [sudoRefreshGuard, reduceCtorEq] at h
  simp only [rejectIf_eq_ok, Bool.or_eq_false_iff, decide_eq_false_iff_not] at h
  obtain ⟨-, hproofs⟩ := h
  unfold Carries
  split_ifs at hproofs ⊢ <;> simp_all [appliedSide, previousSide]

theorem scopedDefaults_carries {p : UndoReleaseSudoScopedDefaults}
    (hold : validateSudoScopedDefaultsUndoPayload prim p = .ok ())
    (hnew : ∀ q, new = .ReleaseSudoScopedDefaults q →
      validateSudoScopedDefaultsUndoPayload prim q = .ok ())
    (h : sudoRefreshGuard status (.ReleaseSudoScopedDefaults p) new = .ok ()) :
    Carries status id (.ReleaseSudoScopedDefaults p) new := by
  cases new <;> simp only [sudoRefreshGuard, reduceCtorEq] at h
  rename_i q
  have hname : q.policyName = p.policyName := by
    rw [policyName_of_scoped hold, policyName_of_scoped (hnew q rfl)]
  unfold Carries
  split at h
  · simp_all
  · cases h
  · obtain ⟨⟨⟩, hproofs, -⟩ := except_bind_eq_ok.mp h
    simp_all [appliedSide, previousSide]

/-! ### PAM provider records -/

/-- A guarded PAM record under the identity of a provider file is an entry or a
flag of that file. -/
theorem pamGuard_provider {policyName path : Bytes} (h : pamGuard record = .ok ())
    (hidentity : record.isIdentityRecord (lit "PAM") policyName path = true)
    (hpath : validConfigPath path = true) :
    (∃ q, record.undo.payload = .RemovePamProviderManagedEntry q ∧ q.policyName = policyName ∧
        q.configPath = path ∧ validatePamProviderManagedEntryUndoPayload q = .ok ()) ∨
      ∃ q, record.undo.payload = .RemovePamProviderManagedFlag q ∧ q.policyName = policyName ∧
        q.configPath = path := by
  simp only [MutationRecord.isIdentityRecord, Bool.and_eq_true, decide_eq_true_eq] at hidentity
  obtain ⟨hpolicy, hresource⟩ := hidentity
  unfold pamGuard at h
  split at h <;> rename_i hpayload
  · obtain ⟨⟨⟩, hsame, h⟩ := except_bind_eq_ok.mp h
    simp [MutationRecord.isIdentityRecord, hpolicy, hresource] at hsame
    exact .inl ⟨_, hpayload, hsame.1.symm, hsame.2.symm, h⟩
  · obtain ⟨⟨⟩, hsame, h⟩ := except_bind_eq_ok.mp h
    simp [MutationRecord.isIdentityRecord, hpolicy, hresource] at hsame
    exact .inr ⟨_, hpayload, hsame.1.symm, hsame.2.symm⟩
  · -- a container has a submodule of its own
    obtain ⟨⟨⟩, hsame, h⟩ := except_bind_eq_ok.mp h
    simp only [MutationRecord.isIdentityRecord, hpolicy, rejectIf_eq_ok, Bool.not_eq_false',
      Bool.and_eq_true, decide_eq_true_eq] at hsame
    have hsubmodule : lit "PAM" = lit "PAM_CONTAINER" := congrArg (·.submoduleName) hsame.1
    exact absurd hsubmodule (by decide)
  · -- the resource of a capability is not an absolute path
    obtain ⟨⟨⟩, hsame, h⟩ := except_bind_eq_ok.mp h
    simp only [MutationRecord.isIdentityRecord, hresource, rejectIf_eq_ok, Bool.not_eq_false',
      Bool.and_eq_true, decide_eq_true_eq] at hsame
    rw [hsame.2] at hpath
    cases hpath
  · cases h

theorem appliedBody_ne_nil (h : assignsKey p.providerName p.managedKey p.appliedBody = true) :
    p.appliedBody ≠ [] := by
  intro hnil
  rw [hnil] at h
  unfold assignsKey at h
  have hfind : Bytes.find (pamProviderEntryDelimiter p.providerName) [] = none := by
    unfold pamProviderEntryDelimiter
    split_ifs <;> rfl
  simp [parseCanonicalPamProviderEntryBody, hfind] at h

theorem assignsKey_unique {provider key key' body : Bytes}
    (h : assignsKey provider key body = true) (h' : assignsKey provider key' body = true) :
    key = key' := by
  unfold assignsKey at h h'
  cases hparse : parseCanonicalPamProviderEntryBody body provider with
  | none => simp [hparse] at h
  | some parsed =>
    simp only [hparse, Option.any_some, decide_eq_true_eq] at h h'
    rw [← h, ← h']

/-- What the validator says of the bodies of an entry. -/
theorem entry_bodies (h : validatePamProviderManagedEntryUndoPayload p = .ok ()) :
    validConfigPath p.configPath = true ∧
      assignsKey p.providerName p.managedKey p.appliedBody = true ∧
      (p.previousAppliedBody ≠ [] →
        assignsKey p.providerName p.managedKey p.previousAppliedBody = true) := by
  obtain ⟨⟨⟩, -, h⟩ := except_bind_eq_ok.mp h
  obtain ⟨⟨⟩, -, h⟩ := except_bind_eq_ok.mp h
  obtain ⟨⟨⟩, hpath, h⟩ := except_bind_eq_ok.mp h
  obtain ⟨⟨⟩, -, h⟩ := except_bind_eq_ok.mp h
  obtain ⟨⟨⟩, happlied, hprevious⟩ := except_bind_eq_ok.mp h
  refine ⟨by simpa using hpath, by simpa using happlied, fun hne => ?_⟩
  simp [hne] at hprevious
  exact hprevious.1

/-- A state of the old record that neither side of the new one is. -/
def Drops (id : UInt64) (old new : UndoPayload) : Prop :=
  ∃ s, appliedSide id old = some s ∧ appliedSide id new ≠ some s ∧ previousSide id new ≠ some s

theorem pamEntry_handover (hold : pamGuard existing = .ok ()) (hnew : pamGuard record = .ok ())
    (hpolicy : existing.policy = record.policy) (hresource : existing.resource = record.resource)
    (hp : existing.undo.payload = .RemovePamProviderManagedEntry p)
    (h : pamRefreshGuard status (.RemovePamProviderManagedEntry p) record.undo.payload = .ok ()) :
    ∃ q, record.undo.payload = .RemovePamProviderManagedEntry q ∧
      (p.placement = q.placement → Carries status id (.RemovePamProviderManagedEntry p)
        (.RemovePamProviderManagedEntry q)) ∧
      (p.placement ≠ q.placement → Drops id (.RemovePamProviderManagedEntry p)
        (.RemovePamProviderManagedEntry q)) := by
  simp only [pamGuard, hp] at hold
  obtain ⟨⟨⟩, hidentity, hold⟩ := except_bind_eq_ok.mp hold
  obtain ⟨hpath, happlied, -⟩ := entry_bodies hold
  have hidentity : record.isIdentityRecord (lit "PAM") p.policyName p.configPath = true := by
    simpa [MutationRecord.isIdentityRecord, hpolicy, hresource] using hidentity
  have hbody := appliedBody_ne_nil happlied
  rcases pamGuard_provider hnew hidentity hpath with
    ⟨q, hq, hname, hconfig, hvalid⟩ | ⟨q, hq, -⟩
  · refine ⟨q, hq, ?_⟩
    simp only [hq, pamRefreshGuard] at h
    obtain ⟨⟨⟩, hprovider, h⟩ := except_bind_eq_ok.mp h
    have hprovider : p.providerName = q.providerName := by simpa using hprovider
    constructor
    · intro hplacement
      unfold Carries
      split_ifs at h ⊢ with hprepared
      · have heq : p = q := by simpa [samePamProviderPreparedTransition] using h
        simp [heq]
      · -- the body that is carried over determines the key
        have hcarried : q.previousAppliedBody = p.appliedBody := by simpa using h
        have hassigns := (entry_bodies hvalid).2.2 (by rw [hcarried]; exact hbody)
        rw [hcarried, ← hprovider] at hassigns
        have hkey := assignsKey_unique happlied hassigns
        simp [appliedSide, previousSide, pamEntryState, hcarried, hprovider, hname, hconfig, hkey,
          hplacement]
    · intro hplacement
      refine ⟨pamEntryState id p p.appliedBody, ?_, ?_, ?_⟩
      · simp [appliedSide, ownedIf, hbody]
      all_goals
        simp only [appliedSide, previousSide, ownedIf, pamEntryState]
        split_ifs <;> simp [Ne.symm hplacement]
  · simp only [hq, pamRefreshGuard] at h
    cases h

theorem flag_configPath {p : UndoRemovePamProviderManagedFlag}
    (h : validatePamProviderManagedFlagUndoPayload p = .ok ()) :
    validConfigPath p.configPath = true := by
  obtain ⟨⟨⟩, -, h⟩ := except_bind_eq_ok.mp h
  obtain ⟨⟨⟩, -, h⟩ := except_bind_eq_ok.mp h
  obtain ⟨⟨⟩, hpath, -⟩ := except_bind_eq_ok.mp h
  simpa using hpath

theorem pamFlag_handover {p : UndoRemovePamProviderManagedFlag}
    (hold : pamGuard existing = .ok ()) (hnew : pamGuard record = .ok ())
    (hpolicy : existing.policy = record.policy) (hresource : existing.resource = record.resource)
    (hp : existing.undo.payload = .RemovePamProviderManagedFlag p)
    (h : pamRefreshGuard status (.RemovePamProviderManagedFlag p) record.undo.payload = .ok ()) :
    ∃ q, record.undo.payload = .RemovePamProviderManagedFlag q ∧
      (p.managedKey = q.managedKey ∧ p.placement = q.placement →
        Carries status id (.RemovePamProviderManagedFlag p) (.RemovePamProviderManagedFlag q)) ∧
      (¬ (p.managedKey = q.managedKey ∧ p.placement = q.placement) →
        Drops id (.RemovePamProviderManagedFlag p) (.RemovePamProviderManagedFlag q)) := by
  simp only [pamGuard, hp] at hold
  obtain ⟨⟨⟩, hidentity, hold⟩ := except_bind_eq_ok.mp hold
  have hpath := flag_configPath hold
  have hidentity : record.isIdentityRecord (lit "PAM") p.policyName p.configPath = true := by
    simpa [MutationRecord.isIdentityRecord, hpolicy, hresource] using hidentity
  rcases pamGuard_provider hnew hidentity hpath with ⟨q, hq, -⟩ | ⟨q, hq, hname, hconfig⟩
  · simp only [hq, pamRefreshGuard] at h
    cases h
  · refine ⟨q, hq, ?_⟩
    simp only [hq, pamRefreshGuard] at h
    obtain ⟨⟨⟩, hprovider, h⟩ := except_bind_eq_ok.mp h
    have hprovider : p.providerName = q.providerName := by simpa using hprovider
    constructor
    · rintro ⟨hkey, hplacement⟩
      unfold Carries
      split_ifs at h ⊢ with hprepared
      · have heq : p = q := by simpa [samePamProviderPreparedFlagTransition] using h
        simp [heq]
      · simp only [rejectIf_eq_ok, Bool.or_eq_false_iff, decide_eq_false_iff_not,
          Decidable.not_not] at h
        simp [appliedSide, previousSide, pamFlagState, h.1, h.2, hprovider, hname, hconfig, hkey,
          hplacement]
    · intro hroute
      refine ⟨pamFlagState id p p.appliedEnabled p.suppressionIds, rfl, ?_, ?_⟩
      · intro heq
        simp only [appliedSide, pamFlagState, Option.some.injEq, ArtifactState.pamFlag.injEq] at heq
        exact hroute ⟨heq.2.2.2.2.1.symm, heq.2.2.2.2.2.1.symm⟩
      · intro heq
        obtain ⟨enabled, -, heq⟩ := Option.map_eq_some_iff.mp heq
        simp only [pamFlagState, ArtifactState.pamFlag.injEq] at heq
        exact hroute ⟨heq.2.2.2.2.1.symm, heq.2.2.2.2.2.1.symm⟩

/-! ## Refreshing -/

/-- Every record that is prepared has been checked. -/
theorem ownershipValid_of_admitted (h : Admitted prim record j) : OwnershipValid prim record where
  pam := h.pam
  scopedDefaults := by
    intro hbackend p hp
    have hsudo := h.sudoers hbackend
    simp only [sudoGuard, hp, except_check_eq_ok] at hsudo
    exact hsudo.2.1

/-- Every record that is loaded has been checked. -/
theorem ownershipValid_of_loaded (h : RecordLoaded prim record) : OwnershipValid prim record where
  pam := h.accepted.pamGuard
  scopedDefaults := by
    intro _ p hp
    have hpayload := h.accepted.payload
    rwa [hp] at hpayload

theorem refresh_handover (hvalid : OwnershipValid prim existing)
    (hnew : OwnershipValid prim record) (hactive : existing.isActive = true)
    (howns : ownsArtifacts existing.undo = true) (hsame : sameIdentity existing record = true)
    (hguard : refreshGuard existing record = .ok ()) :
    (keepsRoute existing.undo.payload record.undo.payload = true →
        Carries existing.status existing.id existing.undo.payload record.undo.payload) ∧
      (keepsRoute existing.undo.payload record.undo.payload = false →
        Drops existing.id existing.undo.payload record.undo.payload) := by
  obtain ⟨hpolicy, hbackend, hresource⟩ := sameIdentity_iff.mp hsame
  -- only the PAM provider kinds can lose something
  have carries : ∀ {old new}, keepsRoute old new = true →
      Carries existing.status existing.id old new →
      (keepsRoute old new = true → Carries existing.status existing.id old new) ∧
        (keepsRoute old new = false → Drops existing.id old new) := by
    intro old new hkeeps hcarries
    exact ⟨fun _ => hcarries, fun hdrops => by simp [hkeeps] at hdrops⟩
  unfold ownsArtifacts at howns
  split at howns
  rotate_right
  · cases howns
  all_goals
    rename_i p hb hp
    rw [hp]
    simp only [refreshGuard, ← hbackend, hb, ofChecked_eq_ok, hp] at hguard
  · exact carries (by cases record.undo.payload <;> rfl) (userCreation_carries hactive hguard)
  · exact carries (by cases record.undo.payload <;> rfl) (loginDefs_carries hactive hguard)
  · exact carries (by cases record.undo.payload <;> rfl) (globalDefault_carries hguard)
  · exact carries (by cases record.undo.payload <;> rfl) (authentication_carries hguard)
  · exact carries (by cases record.undo.payload <;> rfl)
      (scopedDefaults_carries (hvalid.scopedDefaults hb p hp)
        (hnew.scopedDefaults (hbackend.symm.trans hb)) hguard)
  · obtain ⟨q, hq, hcarries, hdrops⟩ := pamEntry_handover (hvalid.pam hb)
      (hnew.pam (hbackend.symm.trans hb)) hpolicy hresource hp hguard
    rw [hq]
    exact ⟨fun h => hcarries (by simpa [keepsRoute] using h),
      fun h => hdrops (by simpa [keepsRoute] using h)⟩
  · obtain ⟨q, hq, hcarries, hdrops⟩ := pamFlag_handover (hvalid.pam hb)
      (hnew.pam (hbackend.symm.trans hb)) hpolicy hresource hp hguard
    rw [hq]
    exact ⟨fun h => hcarries (by simpa [keepsRoute] using h),
      fun h => hdrops (by simpa [keepsRoute] using h)⟩

theorem mem_authorised_refreshed {s : ArtifactState} :
    s ∈ authorised (refreshed env existing record) ↔
      appliedSide existing.id record.undo.payload = some s ∨
        previousSide existing.id record.undo.payload = some s := by
  simp [authorised, refreshed, Option.mem_toList]

/-- A refresh hands on everything the record permitted, or drops its applied side. -/
theorem authorised_refreshed_iff {keeps : Bool}
    (hcarries : keeps = true →
      Carries existing.status existing.id existing.undo.payload record.undo.payload)
    (hdrops : keeps = false → Drops existing.id existing.undo.payload record.undo.payload) :
    (∀ s ∈ authorised existing, s ∈ authorised (refreshed env existing record)) ↔
      keeps = true := by
  constructor
  · intro hall
    cases hkeeps : keeps with
    | true => rfl
    | false =>
      obtain ⟨s, hs, happlied, hprevious⟩ := hdrops hkeeps
      have hmem : s ∈ authorised existing := by simp [authorised, hs]
      rcases mem_authorised_refreshed.mp (hall s hmem) with h | h
      · exact absurd h happlied
      · exact absurd h hprevious
  · intro hkeeps s hs
    have hcarries := hcarries hkeeps
    rw [mem_authorised_refreshed]
    unfold Carries at hcarries
    simp only [authorised, List.mem_append, Option.mem_toList] at hs
    split_ifs at hcarries hs with hprepared
    · rw [hcarries.1, hcarries.2]
      simpa [Option.mem_toList] using hs
    · rw [hcarries]
      exact .inr (by simpa using hs)

/-- A successful refresh keeps all rollback authority exactly when the route of
a PAM provider record stays. -/
theorem refresh_authority {i : Nat} {j' : Journal} {newId : UInt64}
    (hfirst : j.records.findIdx? (fun e => e.isActive && sameIdentity e record) = some i)
    (hget : j.records[i]? = some existing) (hvalid : OwnershipValid prim existing)
    (howns : ownsArtifacts existing.undo = true)
    (hprepare : j.prepareMutation prim env record = (j', .success newId)) :
    ∃ new, j'.records[i]? = some new ∧ new.id = existing.id ∧ new.status = .Prepared ∧
      ((∀ s ∈ authorised existing, s ∈ authorised new) ↔
        keepsRoute existing.undo.payload record.undo.payload = true) := by
  obtain ⟨hlt, hmatch, hbefore⟩ := List.findIdx?_eq_some_iff_getElem.mp hfirst
  obtain rfl : j.records[i] = existing := by
    rw [List.getElem?_eq_getElem hlt] at hget
    exact Option.some.inj hget
  rw [Bool.and_eq_true] at hmatch
  have hprepare : j.prepareMutationImpl prim { env with write := env.write } false record =
    (j', .success newId) := hprepare
  rcases (prepareMutationImpl_attempt :
      (RetriesSsh record j ∧ _) ∨ Attempt j (fun _ => False)
        (PrepareChange prim env false record j) _) with ⟨⟨e, -, -, -, hretry⟩, -⟩ | attempt
  · -- only SSH records are retried
    obtain ⟨-, hbackend, -⟩ := sameIdentity_iff.mp hmatch.2
    simp only [isSshRetry, Bool.and_eq_true, decide_eq_true_eq] at hretry
    simp [ownsArtifacts, hbackend, hretry.1.1] at howns
  · rcases attempt.outcome env.write with ⟨-, hfailed⟩ | ⟨next, hfalse, -⟩ | ⟨next, change, kept⟩
    · rw [hprepare] at hfailed
      cases hfailed
    · exact hfalse.elim
    · rw [hprepare] at kept
      have hrecords : j'.records = next.records := kept.records
      cases change with
      | append admitted unmatched =>
        have hnone := unmatched _ (List.getElem_mem hlt)
        simp [hmatch.1, hmatch.2] at hnone
      | @refresh k e admitted found active same first guard =>
        obtain rfl : k = i := by
          rcases Nat.lt_trichotomy k i with hk | hk | hk
          · have hklt : k < j.records.length := by omega
            rw [List.getElem?_eq_getElem hklt] at found
            have hnot := hbefore k hk
            rw [Option.some.inj found] at hnot
            simp [active, same] at hnot
          · exact hk
          · have hnot := first i hk _ hget
            simp [hmatch.1, hmatch.2] at hnot
        obtain rfl : j.records[k] = e := Option.some.inj (hget.symm.trans found)
        refine ⟨refreshed env j.records[k] record, ?_, rfl, rfl, ?_⟩
        · rw [hrecords, Journal.setRecord, List.getElem?_set_self hlt]
        · have hrecord := ownershipValid_of_admitted (admitted_of_ok admitted)
          have handover := refresh_handover hvalid hrecord active howns same guard
          exact authorised_refreshed_iff handover.1 handover.2

/-! ## Samples -/

/-- A flag of the lockout provider; the key is a parameter. -/
def sampleFlagRecord (key : String) (previous : Option Bool) : MutationRecord :=
  { id := 1
    policy :=
      { moduleName := lit "IDENTITY_ACCESS", submoduleName := lit "PAM"
        policyName := lit "faillock_even_deny_root" }
    resource := lit "/etc/security/faillock.conf"
    undo :=
      { backend := .Pam
        payload := .RemovePamProviderManagedFlag
          { policyName := lit "faillock_even_deny_root", providerName := lit "pam_faillock"
            configPath := lit "/etc/security/faillock.conf", managedKey := lit key
            appliedEnabled := true, previousAppliedEnabled := previous } }
    status := .Applied }

def sampleFlagJournal : Journal :=
  { records := [sampleFlagRecord "even_deny_root" none], nextId := 2, loaded := true }

def sampleFlagRefresh (key : String) : Outcome :=
  sampleFlagJournal.prepareMutation samplePrimitives { now := 0, write := .Persisted }
    (sampleFlagRecord key (some true))

/-- A refresh under another key succeeds, and the old one can no longer be undone. -/
theorem flag_refresh_drops_key :
    (sampleFlagRefresh "audit").2 = .success 1 ∧
      (authorised (sampleFlagRecord "even_deny_root" none)).length = 1 ∧
      ∀ s ∈ authorised (sampleFlagRecord "even_deny_root" none),
        ∀ new ∈ (sampleFlagRefresh "audit").1.records, s ∉ authorised new := by
  decide +kernel

theorem refresh_authority_sample :
    (sampleFlagRefresh "even_deny_root").2 = .success 1 ∧
      ∃ new, (sampleFlagRefresh "even_deny_root").1.records[0]? = some new ∧
        new.id = 1 ∧ new.status = .Prepared ∧
        ((∀ s ∈ authorised (sampleFlagRecord "even_deny_root" none), s ∈ authorised new) ↔
          keepsRoute (sampleFlagRecord "even_deny_root" none).undo.payload
            (sampleFlagRecord "even_deny_root" (some true)).undo.payload = true) :=
  have hsuccess : (sampleFlagRefresh "even_deny_root").2 = .success 1 := by decide +kernel
  have hfirst : sampleFlagJournal.records.findIdx? (fun e => e.isActive &&
      sameIdentity e (sampleFlagRecord "even_deny_root" (some true))) = some 0 := by decide +kernel
  have hvalid : OwnershipValid samplePrimitives (sampleFlagRecord "even_deny_root" none) :=
    { pam := fun _ => by decide +kernel
      scopedDefaults := fun hbackend => by cases hbackend }
  have hprepare : sampleFlagRefresh "even_deny_root" =
      ((sampleFlagRefresh "even_deny_root").1, .success 1) := by rw [← hsuccess]
  ⟨hsuccess, refresh_authority hfirst rfl hvalid (by decide +kernel) hprepare⟩

end Fic.Journal
