import Fic.Journal.Codec.Admission

/-!
# Reading back SSH and SYSCTL ownership

What `serializeSshTransition` and `serializeSysctlState` write is read back as
it was, for every value that fits the versions and bounds of the readers.
-/

namespace Fic.Journal

open Fic.Lib Json

/-! ## Members -/

section Members

variable {members : List (Bytes × Json)} {key error : Bytes} {test : Json → Bool}

@[simp] theorem requireMember_mkObject :
    requireMember key test error (.mkObject members) =
      ((members.lookup key).filter test).elim (refuse error) .ok := by
  unfold requireMember
  rw [find?_mkObject]
  cases members.lookup key with
  | none => rfl
  | some member => by_cases h : test member <;> simp [h, Option.filter]

@[simp] theorem isNumber_unsigned (n m : UInt64) : isNumber n (.unsigned m) = decide (m = n) := rfl

@[simp] theorem isNumber_ofUInt32 (n : UInt64) (m : UInt32) :
    isNumber n (.ofUInt32 m) = decide (m.toUInt64 = n) := rfl

@[simp] theorem isAtMost_ofUInt32 (bound : Nat) (n : UInt32) :
    isAtMost bound (.ofUInt32 n) = decide (n.toNat ≤ bound) := rfl

end Members

/-! ## SSH projections -/

theorem deserializeSshIncluded_serialize (files : SshIncludedWrappers) :
    deserializeSshIncluded (serializeSshIncluded files) = .ok files := by
  have hsize : (serializeSshIncluded files).size = 2 := rfl
  have hfiles : Json.getMap (Json.getMap Json.getString) (.ofMap (.ofMap .string) files) =
      .ok files := getMap_ofMap fun _ _ => getMap_getString _
  unfold deserializeSshIncluded
  rw [hsize]
  simp [serializeSshIncluded, memberOrThrow, hfiles]

@[simp] theorem lookup_includedMember (key : String) (files : SshIncludedWrappers) :
    (includedMember files).lookup (lit key) =
      if key = "included_wrappers" ∧ files.isEmpty = false then some (serializeSshIncluded files)
      else none := by
  unfold includedMember
  by_cases hempty : files.isEmpty = true <;> simp [hempty]

theorem readIncluded_of_find {j : Json} {files : SshIncludedWrappers}
    (h : j.find? (lit "included_wrappers") =
      if files.isEmpty = false then some (serializeSshIncluded files) else none) :
    readIncluded j = .ok files := by
  unfold readIncluded
  rw [h]
  by_cases hempty : files.isEmpty = true
  · rw [if_neg (by simp [hempty]), OrderedMap.eq_empty_of_isEmpty hempty]
  · simp [hempty, deserializeSshIncluded_serialize]

theorem deserializeSshProjection_serialize {p : SshOwnedProjection}
    (hversion : p.ownershipVersion ≤ 1) :
    deserializeSshProjection (serializeSshProjection p) = .ok p := by
  have hbound : p.ownershipVersion.toNat ≤ 1 := hversion
  have hincluded : readIncluded (serializeSshProjection p) = .ok p.includedWrappers :=
    readIncluded_of_find (by simp [serializeSshProjection])
  unfold deserializeSshProjection
  rw [hincluded]
  simp [serializeSshProjection, memberOrThrow, hbound]

/-! ## SSH publications -/

theorem readSshPhase_name (phase : SshTransitionPhase) :
    readSshPhase (.string (sshPhaseName phase)) = .ok phase := by
  cases phase <;> rfl

variable {p : SshPublicationProof}

/-- The owner and the group of a file always fit; its mode has to. -/
theorem readPublication_serialize {check : Bool → Bytes → Reader Unit} {types bounds : Bytes}
    (hcheck : ∀ error, check true error = .ok ()) (hmode : p.mode ≤ 0o7777) :
    readPublication check types bounds (serializeSshPublication p) = .ok p := by
  have hbound : p.mode.toNat ≤ 0o7777 := hmode
  have howner : p.owner.toNat ≤ 4294967295 := Nat.le_pred_of_lt p.owner.toNat_lt
  have hgroup : p.group.toNat ≤ 4294967295 := Nat.le_pred_of_lt p.group.toNat_lt
  unfold readPublication serializeSshPublication
  simp [hcheck, hbound, howner, hgroup]

theorem deserializeSshPublication_serialize (hmode : p.mode ≤ 0o7777) :
    deserializeSshPublication (serializeSshPublication p) = .ok p :=
  readPublication_serialize (fun _ => rfl) hmode

theorem readSshTransitionPublication_serialize {p : Option SshPublicationProof}
    (hmode : ∀ q ∈ p, q.mode ≤ 0o7777) :
    readSshTransitionPublication (.ofOption serializeSshPublication p) = .ok p := by
  cases p with
  | none => rfl
  | some q =>
    have hread : readPublication require (lit "invalid SSH publication identity")
        (lit "invalid SSH publication durability") (serializeSshPublication q) = .ok q :=
      readPublication_serialize (fun _ => rfl) (hmode q rfl)
    have hobject : (serializeSshPublication q).isNull = false := rfl
    simp [readSshTransitionPublication, Json.ofOption, hobject, hread, Except.map]

/-- The modes in the receipts of a planned file are modes. -/
def SshPlannedFilePublication.Fits (file : SshPlannedFilePublication) : Prop :=
  file.before.mode ≤ 0o7777 ∧ ∀ q ∈ file.publication, q.mode ≤ 0o7777

theorem deserializePlannedFile_serialize {file : SshPlannedFilePublication} (h : file.Fits) :
    deserializePlannedFile (serializePlannedFile file) = .ok file := by
  have hbefore := deserializeSshPublication_serialize h.1
  unfold deserializePlannedFile serializePlannedFile
  cases hpublication : file.publication with
  | none => simp [memberOrThrow, hbefore, Json.ofOption, Json.isNull, ← hpublication]
  | some q =>
    have hq := deserializeSshPublication_serialize (h.2 q hpublication)
    have hobject : (serializeSshPublication q).isNull = false := rfl
    simp [memberOrThrow, hbefore, Json.ofOption, hobject, hq, Except.map, ← hpublication]

/-! ## SSH transitions -/

/-- The parts of a transition fit its version and its intent. -/
structure SshOwnershipTransition.Fits (t : SshOwnershipTransition) : Prop where
  version : t.version = 3 ∨ t.version = if t.intent = .Release then 2 else 1
  previous : t.previous.ownershipVersion ≤ 1
  release : t.intent = .Release → t.target = {}
  refresh : t.intent = .Refresh → t.target.ownershipVersion ≤ 1 ∧ t.fileReplacement = true ∧
    t.predecessorStatus = .Applied ∧ t.predecessorError = []
  plain : t.version ≠ 3 → t.files = .empty ∧ t.initial = false
  files : ∀ file ∈ t.files.entries, file.2.Fits
  publication : ∀ q ∈ t.publication, q.mode ≤ 0o7777

/-- The contract of a transition. -/
def SshOwnershipTransition.contract (t : SshOwnershipTransition) : SshContract :=
  { version := t.version, intent := t.intent, fileReplacement := t.fileReplacement
    predecessorStatus := t.predecessorStatus, predecessorError := t.predecessorError }

variable {t : SshOwnershipTransition}

theorem readReleaseContract_serialize (hintent : t.intent = .Release) :
    readReleaseContract t.version (serializeSshTransition t) = .ok t.contract := by
  simp [readReleaseContract, serializeSshTransition, SshOwnershipTransition.contract, hintent,
    Json.isNull]

theorem readContract_serialize (h : t.Fits) :
    readContract (.ofUInt32 t.version) (.string (sshIntentName t.intent))
      (serializeSshTransition t) = .ok t.contract := by
  cases hintent : t.intent with
  | Release =>
    have hrelease := readReleaseContract_serialize hintent
    rcases h.version with hversion | hversion
    · simp [readContract, sshIntentName, hversion, ← hrelease]
    · simp [readContract, sshIntentName, hversion, hintent, ← hrelease]
  | Refresh =>
    obtain ⟨-, hreplacement, hstatus, herror⟩ := h.refresh hintent
    rcases h.version with hversion | hversion
    · simp [readContract, sshIntentName, hversion, SshOwnershipTransition.contract, hintent,
        hreplacement, hstatus, herror]
    · simp [readContract, sshIntentName, hversion, SshOwnershipTransition.contract, hintent,
        hreplacement, hstatus, herror]

theorem readPlan_serialize (h : t.Fits) :
    readPlan t.version (serializeSshTransition t) = .ok (t.initial, t.files) := by
  have hfiles : Json.getMap deserializePlannedFile (.ofMap serializePlannedFile t.files) =
      .ok t.files :=
    getMap_ofMap fun file hfile => deserializePlannedFile_serialize (h.files file hfile)
  by_cases hversion : t.version = 3
  · cases hintent : t.intent <;>
      simp [readPlan, serializeSshTransition, hversion, hintent, memberOrThrow, hfiles]
  · obtain ⟨hempty, hinitial⟩ := h.plain hversion
    cases hintent : t.intent <;>
      simp [readPlan, serializeSshTransition, hversion, hintent, hempty, hinitial]

theorem deserializeSshTransition_serialize (h : t.Fits) :
    deserializeSshTransition (serializeSshTransition t) = .ok t := by
  have hcontract := readContract_serialize h
  have hplan := readPlan_serialize h
  have hprevious := deserializeSshProjection_serialize h.previous
  have hpublication := readSshTransitionPublication_serialize h.publication
  have hobject : (serializeSshTransition t).isObject = true := rfl
  have hat := fun key : Bytes =>
    show (serializeSshTransition t).atKey key = _ from atKey_mkObject
  unfold deserializeSshTransition
  cases hintent : t.intent with
  | Release =>
    have htarget := h.release hintent
    simp only [hintent] at hcontract hat
    simp [hobject, hat, hcontract, hplan, hprevious, hpublication, readSshPhase_name,
      SshOwnershipTransition.contract, hintent, ← htarget]
    rw [← hintent]
  | Refresh =>
    have htarget := deserializeSshProjection_serialize (h.refresh hintent).1
    simp only [hintent] at hcontract hat
    simp [hobject, hat, hcontract, hplan, hprevious, hpublication, readSshPhase_name, htarget,
      SshOwnershipTransition.contract, hintent]
    rw [← hintent]

/-! ## Transitions that pass the validator -/

section

variable {prim : Primitives} {record : MutationRecord} {p : UndoRemoveSshManagedPolicy}
  {t : SshOwnershipTransition}

theorem version_of_validSshProjection {q : SshOwnedProjection}
    (h : validSshProjection prim q = .ok ()) : q.ownershipVersion ≤ 1 := by
  simp only [validSshProjection, except_check_eq_ok, rejectIf_eq_ok, Bool.or_eq_false_iff,
    decide_eq_false_iff_not] at h
  exact UInt32.not_lt.mp h.1.1.2

theorem fits_of_validPlannedFiles {phase : SshTransitionPhase}
    {files : List (Bytes × SshPlannedFilePublication)}
    (h : validPlannedFiles prim phase files = .ok ()) : ∀ file ∈ files, file.2.Fits := by
  induction files with
  | nil => simp
  | cons file files ih =>
    obtain ⟨path, f⟩ := file
    simp only [validPlannedFiles, except_check_eq_ok, rejectIf_eq_ok, Bool.not_eq_eq_eq_not,
      Bool.not_false] at h
    obtain ⟨hbefore, hreceipt, -, hrest⟩ := h
    simp only [validPlannedPrecondition, Bool.and_eq_true, decide_eq_true_eq] at hbefore
    have hmode : f.before.mode ≤ 0o7777 := hbefore.1.1.1.1.1.2
    refine List.forall_mem_cons.mpr ⟨⟨hmode, ?_⟩, ih hrest⟩
    intro q hq
    have hq := (Option.all_eq_true _ _).mp hreceipt q hq
    simp only [Bool.and_eq_true, decide_eq_true_eq] at hq
    rw [hq.1.1.2]
    exact hmode

/-- The version of a transition says which plan it has. -/
theorem plan_of_validSshPlan (h : validSshPlan prim record p t = .ok ()) :
    (t.version ≠ 3 → t.files = .empty ∧ t.initial = false) ∧
      (t.version = 3 → t.initial = true → t.previous = {}) ∧
      ∀ file ∈ t.files.entries, file.2.Fits := by
  unfold validSshPlan at h
  split_ifs at h with hversion
  · simp only [except_check_eq_ok, rejectIf_eq_ok, Bool.not_eq_eq_eq_not, Bool.not_false] at h
    obtain ⟨hidentity, -, hfiles, -⟩ := h
    refine ⟨absurd hversion, ?_, fits_of_validPlannedFiles hfiles⟩
    intro _ hinitial
    simp only [validSshPlanIdentity, hinitial, Bool.and_eq_true] at hidentity
    have hfresh : (isRelease t = false ∧ t.sequence = 1) ∧ t.previous = {} := by
      simpa using hidentity.2
    exact hfresh.2
  · simp only [rejectIf_eq_ok, Bool.or_eq_false_iff, Bool.not_eq_eq_eq_not, Bool.not_false] at h
    have hempty := OrderedMap.eq_empty_of_isEmpty h.1
    refine ⟨fun _ => ⟨hempty, h.2⟩, fun h3 => absurd h3 hversion, ?_⟩
    simp [hempty, OrderedMap.empty]

theorem SshOwnershipTransition.fits_of_valid (h : validSshTransition prim record p t = .ok ()) :
    t.Fits := by
  simp only [validSshTransition, except_check_eq_ok, require_eq_ok, ofChecked_eq_ok] at h
  obtain ⟨hbasics, hintent, hplan, hpublication, -, -⟩ := h
  obtain ⟨hplain, hfresh, hfiles⟩ := plan_of_validSshPlan hplan
  simp only [validSshTransitionBasics, Bool.and_eq_true, Bool.or_eq_true, decide_eq_true_eq,
    isRelease] at hbasics
  obtain ⟨⟨⟨⟨⟨⟨⟨-, hversion⟩, -⟩, -⟩, hprevious⟩, -⟩, -⟩, -⟩ := hbasics
  simp only [validSshPublication, except_check_eq_ok, rejectIf_eq_ok, Bool.not_eq_eq_eq_not,
    Bool.not_false] at hpublication
  refine
    { version := hversion
      previous := ?_
      release := ?_
      refresh := ?_
      plain := hplain
      files := hfiles
      publication := ?_ }
  · rcases hprevious with ⟨hthree, hinitial⟩ | hprevious
    · rw [hfresh hthree hinitial]
      decide
    · cases hvalid : validSshProjection prim t.previous with
      | error e => simp [hvalid, Except.isOk, Except.toBool] at hprevious
      | ok => exact version_of_validSshProjection hvalid
  · intro hrelease
    simp only [validSshIntent, isRelease, hrelease, decide_true, if_true, require_eq_ok,
      validSshRelease, Bool.and_eq_true, decide_eq_true_eq] at hintent
    exact hintent.1.1
  · intro hrefresh
    simp only [validSshIntent, isRelease, hrefresh, reduceCtorEq, decide_false, Bool.false_eq_true,
      if_false, except_check_eq_ok, require_eq_ok, validSshRefreshContract, Bool.and_eq_true,
      decide_eq_true_eq] at hintent
    obtain ⟨⟨⟨⟨⟨⟨⟨⟨⟨-, hversion⟩, -⟩, -⟩, hreplacement⟩, hstatus⟩, herror⟩, -⟩, -⟩, -, -⟩ := hintent
    refine ⟨?_, hreplacement, hstatus, List.isEmpty_iff.mp herror⟩
    rw [hversion]
    decide
  · intro q hq
    have hq := (Option.all_eq_true _ _).mp hpublication.2.2 q hq
    simp only [Bool.and_eq_true, decide_eq_true_eq] at hq
    exact hq.1.1.1.2

end

/-! ## SYSCTL -/

theorem readSysctlSnapshot_serialize {state : Option AtomicTargetState}
    (h : ∀ s ∈ state, s.inBounds = true) :
    readSysctlSnapshot (sysctlSnapshot state) = .ok state := by
  cases state with
  | none => rfl
  | some s =>
    have hbounds := h s rfl
    simp only [AtomicTargetState.inBounds, Bool.and_eq_true, decide_eq_true_eq] at hbounds
    have howner : s.owner.toNat ≤ 4294967295 := Nat.le_pred_of_lt s.owner.toNat_lt
    have hgroup : s.group.toNat ≤ 4294967295 := Nat.le_pred_of_lt s.group.toNat_lt
    simp [readSysctlSnapshot, sysctlSnapshot, Json.ofOption, isShortText, hbounds, howner, hgroup]

theorem deserializeSysctlRelease_serialize {r : SysctlReleaseIntent} (h : r.inBounds = true) :
    deserializeSysctlRelease (serializeSysctlRelease r) = .ok r := by
  simp only [SysctlReleaseIntent.inBounds, Bool.and_eq_true, Option.all_eq_true] at h
  obtain ⟨⟨hbefore, htarget⟩, hprepared⟩ := h
  simp [deserializeSysctlRelease, serializeSysctlRelease, readSysctlSnapshot_serialize hbefore,
    readSysctlSnapshot_serialize htarget, readSysctlSnapshot_serialize hprepared]

theorem readContainerIdentity_serialize (identity : Option SysctlContainerIdentity) :
    readContainerIdentity (Json.ofOption (fun identity : SysctlContainerIdentity => .mkObject
      [(lit "device", .unsigned identity.device), (lit "inode", .unsigned identity.inode)])
      identity) = .ok identity := by
  cases identity with
  | none => rfl
  | some identity => simp [readContainerIdentity, Json.ofOption]

theorem deserializeSysctlState_serialize {x : SysctlSettingState}
    (hflags : validSysctlFlags { x with release := none } = true)
    (hrelease : ∀ r ∈ x.release, r.inBounds = true) :
    deserializeSysctlState (serializeSysctlState x) = .ok x := by
  cases hr : x.release with
  | none =>
    simp [deserializeSysctlState, serializeSysctlState, readContainerIdentity_serialize, hflags,
      hr]
    rw [← hr]
  | some r =>
    have hread := deserializeSysctlRelease_serialize (hrelease r hr)
    simp [deserializeSysctlState, serializeSysctlState, readContainerIdentity_serialize, hflags,
      hr, hread]
    rw [← hr]

end Fic.Journal
