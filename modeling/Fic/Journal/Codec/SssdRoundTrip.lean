import Fic.Journal.Codec.SshRoundTrip

/-!
# Reading back SSSD ownership

What `Sssd.encode` writes is read back as it was by `Sssd.decode`, for every
ownership that fits the bounds of the decoder.
-/

namespace Fic.Journal.Sssd

open Fic.Lib Json

@[simp] theorem UInt32.toNat_lt_size (n : UInt32) : n.toNat < 4294967296 := n.toNat_lt

/-! ## Images, assignments and states -/

theorem parseImage_image (w : SssdImageWitness) : parseImage (image w) = .ok w := by
  simp [parseImage, image, boolAt, stringAt, number, small]

theorem parseAssignment_assignment (a : SssdAssignment) :
    parseAssignment (assignment a) = .ok a := by
  simp [parseAssignment, assignment, stringAt]

theorem parseAssignments_assignments {v : List SssdAssignment} (h : v.length ≤ 256) :
    parseAssignments (assignments v) = .ok v := by
  have hall : Json.readAll parseAssignment (v.map assignment) = .ok v :=
    readAll_map fun a _ => parseAssignment_assignment a
  simp [parseAssignments, assignments, Json.size, h, hall]

variable {s : SssdOwnedState}

theorem parseState_state (h : s.assignments.length ≤ 256) :
    parseState (state s) = .ok s := by
  simp [parseState, state, stringAt, number, parseAssignments_assignments h, parseImage_image]

theorem parseContainer_container (c : Option SssdContainerWitness) :
    parseContainer (container c) = .ok c := by
  cases c with
  | none => rfl
  | some c => simp [parseContainer, container, Json.ofOption, number, parseImage_image]

/-! ## Releases -/

theorem parseProcess_process (p : SssdReleaseProcess) : parseProcess (process p) = .ok p := by
  simp [parseProcess, process, stringAt, small, number]

theorem parseRuntimeReceipt_runtimeReceipt {receipt : Option SssdReleaseRuntimeReceipt}
    (h : ∀ r ∈ receipt, r.processes.length ≤ 260) :
    parseRuntimeReceipt (runtimeReceipt receipt) = .ok receipt := by
  cases receipt with
  | none => rfl
  | some r =>
    have hprocesses : Json.readAll parseProcess (r.processes.map process) = .ok r.processes :=
      readAll_map fun p _ => parseProcess_process p
    simp [parseRuntimeReceipt, runtimeReceipt, Json.ofOption, stringAt, Json.size, h r rfl,
      hprocesses]

theorem parseSurvivor_survivor {o : SssdReleaseSurvivor} (h : o.state.assignments.length ≤ 256) :
    parseSurvivor (survivor o) = .ok o := by
  simp [parseSurvivor, survivor, number, stringAt, parseState_state h, parseContainer_container]

theorem parseIntent_name (intent : SssdReleaseIntent) :
    parseIntent (.string (intentName intent)) = .ok intent := by
  cases intent <;> rfl

/-- The parts of a release fit the bounds of its version. -/
structure ReleaseFits (version : UInt32) (d : SssdReleaseDetails) : Prop where
  survivors : d.survivors.length ≤ 2
  states : ∀ o ∈ d.survivors, o.state.assignments.length ≤ 256
  remaining : d.remaining.length ≤ 256
  legacy : version ≠ 3 → d.runtimeReceipt = none
  processes : ∀ r ∈ d.runtimeReceipt, r.processes.length ≤ 260

theorem parseRelease_release {version : UInt32} {d : SssdReleaseDetails}
    (h : ReleaseFits version d) : parseRelease version (release d version) = .ok d := by
  have hsurvivors : Json.readAll parseSurvivor (d.survivors.map survivor) = .ok d.survivors :=
    readAll_map fun o ho => parseSurvivor_survivor (h.states o ho)
  have hremaining := parseAssignments_assignments h.remaining
  have hreceipt := parseRuntimeReceipt_runtimeReceipt h.processes
  by_cases hversion : version = 3
  · simp [parseRelease, release, hversion, parseIntent_name, Json.size, h.survivors, hsurvivors,
      hremaining, boolAt, stringAt, hreceipt]
  · have hnone := h.legacy hversion
    simp [parseRelease, release, hversion, parseIntent_name, Json.size, h.survivors, hsurvivors,
      hremaining, boolAt, stringAt, ← hnone]

/-! ## Ownership -/

theorem parsePhase_name (phase : SssdTransitionPhase) :
    parsePhase (.string (phaseName phase)) = .ok phase := by
  cases phase <;> rfl

/-- The parts of a transition fit the bounds of the format. -/
structure TransitionFits (format : UInt64) (t : SssdOwnershipTransition) : Prop where
  previous : t.previous.assignments.length ≤ 256
  target : t.target.length ≤ 256
  release : ∀ d ∈ t.release, 2 ≤ format ∧ t.version.toUInt64 = format ∧ ReleaseFits t.version d

theorem parseTransition_transition {format : UInt64} {t : SssdOwnershipTransition}
    (h : TransitionFits format t) : parseTransition format (transition t) = .ok t := by
  have hprevious := parseState_state h.previous
  have htarget := parseAssignments_assignments h.target
  cases hrelease : t.release with
  | none =>
    simp [parseTransition, transition, hrelease, small, number, parsePhase_name, hprevious,
      htarget, stringAt, boolAt, parseImage_image]
    rw [← hrelease]
  | some d =>
    obtain ⟨hformat, rfl, hfits⟩ := h.release d hrelease
    have hread := parseRelease_release hfits
    simp [parseTransition, transition, hrelease, small, number, parsePhase_name, hprevious,
      htarget, stringAt, boolAt, parseImage_image, hformat, hread]
    rw [← hrelease]

/-- The parts of an ownership fit the bounds of its format. -/
structure OwnershipFits (own : SssdJournalOwnership) : Prop where
  current : own.current.assignments.length ≤ 256
  transition : ∀ t ∈ own.transition, TransitionFits (formatVersion own) t
  third : ∀ t ∈ own.transition, t.version = 3 → t.release.isSome = true

theorem formatVersion_cases (own : SssdJournalOwnership) :
    formatVersion own = 1 ∨ formatVersion own = 2 ∨ formatVersion own = 3 := by
  unfold formatVersion
  split_ifs <;> simp

variable {own : SssdJournalOwnership}

section

variable (h : OwnershipFits own)

include h

theorem OwnershipFits.releases (hthird : (own.transition.any fun t => t.version = 3) = true) :
    (own.transition.any fun t => t.release.isSome) = true := by
  cases ht : own.transition with
  | none => simp [ht] at hthird
  | some t => exact h.third t ht (by simpa [ht] using hthird)

/-- The container is written exactly in the formats that read it. -/
theorem OwnershipFits.needsHandoff_eq :
    needsHandoff own = decide (2 ≤ formatVersion own) := by
  unfold formatVersion
  split_ifs with hthird hhandoff
  · simp [needsHandoff, h.releases hthird]
  · simp [hhandoff]
  · simpa using hhandoff

theorem OwnershipFits.third_check :
    (!decide (formatVersion own = 3) || own.transition.any fun t => t.release.isSome) = true := by
  unfold formatVersion
  split_ifs with hthird
  · simp [h.releases hthird]
  · simp
  · simp

theorem decode_encode : decode (encode own) = .ok own := by
  have hcurrent := parseState_state h.current
  have hformat : (decide (formatVersion own = 1) || decide (formatVersion own = 2) ||
      decide (formatVersion own = 3)) = true := by
    simpa [or_assoc] using formatVersion_cases own
  have hthird := h.third_check
  have hhandoff := h.needsHandoff_eq
  have hat := fun key : Bytes => show (encode own).atKey key = _ from atKey_mkObject
  by_cases hcase : 2 ≤ formatVersion own
  · cases ht : own.transition with
    | none =>
      simp only [ht, Option.any_none, Bool.or_false] at hthird hat
      simp [decode, number, hat, hformat, hcurrent, hcase, hhandoff, parseContainer_container,
        ofOption, Json.isNull, hthird]
      rw [← ht]
    | some t =>
      have hread := parseTransition_transition (h.transition t ht)
      have hobject : (transition t).isNull = false := rfl
      simp only [ht, Option.any_some] at hthird hat
      simp [decode, number, hat, hformat, hcurrent, hcase, hhandoff, parseContainer_container,
        ofOption, hobject, hread, Except.map, hthird]
      rw [← ht]
  · have hnone : own.container = none := by
      have hneither : own.container = none ∧
          (own.transition.any fun t => t.release.isSome) = false := by
        simpa [needsHandoff, hcase] using hhandoff
      exact hneither.1
    have hcontains : (encode own).contains (lit "container") = false := by
      simp [encode, hhandoff, hcase]
    cases ht : own.transition with
    | none =>
      simp only [ht, Option.any_none, Bool.or_false] at hthird hat
      simp [decode, number, hat, hformat, hcurrent, hcase, hcontains, ofOption, Json.isNull, hthird]
      rw [← ht, ← hnone]
    | some t =>
      have hread := parseTransition_transition (h.transition t ht)
      have hobject : (transition t).isNull = false := rfl
      simp only [ht, Option.any_some] at hthird hat
      simp [decode, number, hat, hformat, hcurrent, hcase, hcontains, ofOption, hobject, hread,
        Except.map, hthird]
      rw [← ht, ← hnone]

end

/-! ## Records that pass the validator -/

theorem length_of_validState {policy : Bytes} {emptyAllowed : Bool}
    (h : validState s policy emptyAllowed = true) : s.assignments.length ≤ 256 := by
  unfold validState at h
  split_ifs at h with hempty
  · simp [List.isEmpty_iff.mp hempty]
  · simp only [validAssignments, Bool.and_eq_true, decide_eq_true_eq] at h
    exact h.1.1.1.1.1.1.1.2

section

variable {prim : Primitives} {r : MutationRecord} {own : SssdJournalOwnership}
  {t : SssdOwnershipTransition} {d : SssdReleaseDetails}

/-- A valid release fits, but for the number of the remaining assignments. -/
theorem releaseFits_of_valid (h : validReleaseRecord prim r own t d = true)
    (hremaining : d.remaining.length ≤ 256) : ReleaseFits t.version d := by
  simp only [validReleaseRecord, validReleaseIdentity, validReleaseProjection, Bool.and_eq_true,
    decide_eq_true_eq, List.all_eq_true] at h
  have hreceipt : validReleaseReceipt prim t d = true := h.1.2
  refine ⟨?_, ?_, hremaining, ?_, ?_⟩
  · simp_all only
  · intro o ho
    have hvalid : validSurvivor r t o = true := by simp_all only
    simp only [validSurvivor, Bool.and_eq_true] at hvalid
    exact length_of_validState hvalid.1.1.2
  · intro hversion
    simpa [validReleaseReceipt, hversion] using hreceipt
  · intro receipt hreceipted
    by_cases hversion : t.version = 3
    · have hvalid : validReceipt prim t receipt = true := by
        simp only [validReleaseReceipt, hversion, if_true, Bool.and_eq_true] at hreceipt
        exact (Option.all_eq_true _ _).mp hreceipt.2 receipt hreceipted
      simp only [validReceipt, Bool.and_eq_true, decide_eq_true_eq] at hvalid
      simp_all only
    · have hnone : d.runtimeReceipt = none := by
        simpa [validReleaseReceipt, hversion] using hreceipt
      simp [hnone] at hreceipted

theorem ownershipFits_of_valid (h : validSssdRecord prim r = .ok ())
    (hpayload : r.undo.payload = .SssdOwnership own)
    (hbounds : readerBounds r.undo.payload = true) : OwnershipFits own := by
  simp only [validSssdRecord, hpayload, except_check_eq_ok, rejectIf_eq_ok,
    Bool.not_eq_eq_eq_not, Bool.not_false] at h
  obtain ⟨hidentity, h⟩ := h
  simp only [validSssdIdentity, Bool.and_eq_true] at hidentity
  have hcurrent := length_of_validState hidentity.1.2
  cases ht : own.transition with
  | none => exact ⟨hcurrent, by simp [ht], by simp [ht]⟩
  | some t =>
    simp only [ht] at h
    cases hrelease : t.release with
    | none =>
      simp only [hrelease, rejectIf_eq_ok, Bool.not_eq_eq_eq_not, Bool.not_false,
        validOwnershipTransition, Bool.and_eq_true, decide_eq_true_eq] at h
      have hversion : t.version = 1 := by simp_all only
      have hprevious : validState t.previous r.policy.policyName true = true := by simp_all only
      have htarget : validAssignments t.target r.policy.policyName = true := by simp_all only
      simp only [validAssignments, Bool.and_eq_true, decide_eq_true_eq] at htarget
      refine ⟨hcurrent, ?_, ?_⟩
      · rw [ht]
        rintro t ⟨⟩
        exact ⟨length_of_validState hprevious, htarget.1.1.2, by simp [hrelease]⟩
      · rw [ht]
        rintro t ⟨⟩ hthird
        simp [hversion] at hthird
    | some d =>
      simp only [hrelease, rejectIf_eq_ok, Bool.not_eq_eq_eq_not, Bool.not_false] at h
      have hremaining : d.remaining.length ≤ 256 := by
        simpa [hpayload, readerBounds, ht, hrelease] using hbounds
      have hfits := releaseFits_of_valid h hremaining
      simp only [validReleaseRecord, validReleaseIdentity, Bool.and_eq_true, Bool.or_eq_true,
        decide_eq_true_eq] at h
      have hversion : t.version = 2 ∨ t.version = 3 := by simp_all only
      have hprevious : validState t.previous r.policy.policyName false = true := by simp_all only
      have htarget : t.target = [] := List.isEmpty_iff.mp (by simp_all only)
      have hformat : t.version.toUInt64 = formatVersion own := by
        rcases hversion with hversion | hversion
        · simp [formatVersion, needsHandoff, ht, hrelease, hversion]
        · simp [formatVersion, ht, hversion]
      refine ⟨hcurrent, ?_, ?_⟩
      · rw [ht]
        rintro t ⟨⟩
        refine ⟨length_of_validState hprevious, by simp [htarget], ?_⟩
        rw [hrelease]
        rintro d ⟨⟩
        refine ⟨?_, hformat, hfits⟩
        rw [← hformat]
        rcases hversion with hversion | hversion <;> rw [hversion] <;> decide
      · rw [ht]
        rintro t ⟨⟩ -
        simp [hrelease]

end

end Fic.Journal.Sssd
