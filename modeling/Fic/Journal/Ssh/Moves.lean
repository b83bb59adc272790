import Fic.Journal.Operations.Changes
import Fic.Lib.ListUpdate

/-!
# What the typed SSH operations make of a record

Thirteen operations, six kinds of move: a transition begins, goes on, is
committed as a refresh or as a release, or is dropped, the first one of a record
together with the record.  `plan_move` reads the
move off the operation; the lifecycle results only look at moves.
-/

namespace Fic.Journal

open Fic.Lib SshPlan

/-- The permission a transition is begun for; none for the other operations. -/
def SshOperation.target : SshOperation → Option SshOwnedProjection
  | beginSshRefresh target _ _ => some (sshOwnedProjection target)
  | beginSshPortChange target _ release =>
    some (if release then {} else sshOwnedProjection target)
  | beginSshRelease _ _ _ => some {}
  | _ => none

def SshOperation.notes : SshOperation → Bool
  | noteSshFileAttempt _ | noteSshFilePublication _ _ _ | noteSshPublication _ _
  | noteSshRuntime _ _ | finishSshReleaseVerification | failSshTransition _ => true
  | _ => false

def SshOperation.aborts : SshOperation → Bool
  | abortSshTransitionNoEffect | abortSshPortNoEffect _ => true
  | _ => false

/-- A later state of the transition under way: only facts are added. -/
structure SshOwnershipTransition.Continues (t t' : SshOwnershipTransition) : Prop where
  pending : t.phase ≠ .Completed
  open_ : t'.phase ≠ .Completed
  same : t' = { t with
    phase := t'.phase
    publication := t'.publication
    runtimeFacts := t'.runtimeFacts
    files := t'.files }

/-- The transition that a begin operation writes. -/
structure SshBegun (record : MutationRecord) (p : UndoRemoveSshManagedPolicy)
    (target : SshOwnedProjection) (t : SshOwnershipTransition) : Prop where
  settled : sshTransitionPending p = false
  status : record.status = if isRelease t then t.predecessorStatus else .Applied
  owned : record.status = .Applied ∨ record.status = .RollbackFailed
  bound : p.operationSequence ≠ kMaxSequence
  sequence : t.sequence = p.operationSequence + 1
  previous : t.previous = sshOwnedProjection p
  target : t.target = target
  phase : t.phase = .Prepared
  initial : t.initial = false

inductive SshMove (record : MutationRecord) (p : UndoRemoveSshManagedPolicy) :
    SshOperation → SshEffect → Prop
  | begins {op : SshOperation} {target : SshOwnedProjection} {t : SshOwnershipTransition}
      (begins : op.target = some target) (begun : SshBegun record p target t) :
      SshMove record p op (.change
        { record.withSsh { p with operationSequence := t.sequence, transition := some t } with
          status := .Prepared, error := [] })
  | notes {op : SshOperation} {t t' : SshOwnershipTransition} {error : Bytes}
      (notes : op.notes = true) (transition : p.transition = some t) (continues : t.Continues t') :
      SshMove record p op
        (.change { record.withSsh { p with transition := some t' } with error := error })
  | commitsRefresh {t : SshOwnershipTransition} (transition : p.transition = some t)
      (phase : t.phase = .RuntimeVerified) (refresh : isRelease t = false) :
      SshMove record p .commitSshRefresh (.change
        { record.withSsh
            { p with
              appliedValue := t.target.value
              disabledMutationIds := t.target.disabledIds
              ownershipVersion := t.target.ownershipVersion
              wrapperFingerprints := t.target.wrapperFingerprints
              includedWrappers := t.target.includedWrappers
              transition := some { t with phase := .Completed } }
          with status := .Applied, error := [] })
  | commitsRelease {t : SshOwnershipTransition} (transition : p.transition = some t)
      (phase : t.phase = .ReleasedAwaitingDisable) (release : isRelease t = true) :
      SshMove record p .commitSshRelease (.change
        { record.withSsh { p with transition := some { t with phase := .Completed } } with
          status := .RolledBack })
  | aborts {op : SshOperation} {t : SshOwnershipTransition} (aborts : op.aborts = true)
      (transition : p.transition = some t) (phase : t.phase = .Prepared)
      (initial : t.initial = false) :
      SshMove record p op (.change
        { record.withSsh { p with transition := none } with
          status := if isRelease t then t.predecessorStatus else .Applied
          error := if isRelease t then t.predecessorError else [] })
  | discards {op : SshOperation} {t : SshOwnershipTransition} (aborts : op.aborts = true)
      (transition : p.transition = some t) (initial : t.initial = true) :
      SshMove record p op .discard

/-! ## Reading the moves off the operations -/

section

variable {prim : Primitives} {records : List MutationRecord} {record : MutationRecord}
  {p : UndoRemoveSshManagedPolicy} {effect : SshEffect}

theorem yields_onTransition {P : SshEffect → Prop} {plan : SshPlan} {missing : Bytes}
    {act : MutationRecord → UndoRemoveSshManagedPolicy → SshOwnershipTransition →
      Reader SshEffect} (hplan : plan.act = onTransition missing act)
    (h : ∀ t, p.transition = some t → Yields P (act record p t)) :
    Yields P (plan.act record p) := by
  rw [hplan]
  unfold onTransition
  cases ht : p.transition with
  | none => exact .error _
  | some t => exact h t ht

theorem runtimePhase_ne_completed {verified : Bool} {facts : OrderedMap Bytes}
    {t : SshOwnershipTransition} (h : t.phase ≠ .Completed) :
    runtimePhase verified facts t ≠ .Completed := by
  unfold runtimePhase
  simp only
  split_ifs <;> simp_all

theorem plan_yields (op : SshOperation) :
    Yields (SshMove record p op) ((op.plan prim records).act record p) := by
  cases op with
  | beginSshRefresh target before after =>
    refine .require fun hguard => .require fun _ => .ok ?_
    simp only [Bool.not_eq_true', Bool.or_eq_false_iff, decide_eq_false_iff_not,
      Decidable.not_not] at hguard
    obtain ⟨⟨⟨⟨⟨hstatus, hsettled⟩, -⟩, -⟩, -⟩, hbound⟩ := hguard
    exact .begins rfl ⟨hsettled, hstatus, .inl hstatus, hbound, rfl, rfl, rfl, rfl, rfl⟩
  | beginSshPortChange target files release =>
    refine .require fun hguard => .require fun _ => .requireOrThrow fun _ => ?_
    simp only [Bool.not_eq_true', Bool.or_eq_false_iff, decide_eq_false_iff_not] at hguard
    obtain ⟨⟨⟨⟨-, hsettled⟩, hstatus⟩, -⟩, hbound⟩ := hguard
    cases files.find? (sshMainPath record.resource) with
    | none => exact .error _
    | some first =>
      refine .require fun _ => .ok (.begins rfl ⟨hsettled, ?_, ?_, hbound, rfl, rfl, rfl, rfl, rfl⟩)
      · cases release <;> simp_all [isRelease]
      · cases release <;> simp_all
        tauto
  | beginSshRelease before target replacement =>
    refine .require fun hguard => .require fun _ => .ok ?_
    simp only [Bool.not_eq_true', Bool.or_eq_false_iff, Bool.and_eq_false_iff,
      decide_eq_false_iff_not, Decidable.not_not] at hguard
    obtain ⟨⟨hstatus, hsettled⟩, hbound⟩ := hguard
    exact .begins rfl ⟨hsettled, rfl, hstatus, hbound, rfl, rfl, rfl, rfl, rfl⟩
  | noteSshFileAttempt path =>
    refine yields_onTransition rfl fun t ht => ?_
    cases t.files.find? path with
    | none => exact .error _
    | some f =>
      refine .require fun hguard => .ok (.notes rfl ht ⟨fun hphase => ?_, fun hphase => ?_, rfl⟩)
      all_goals simp_all
  | noteSshFilePublication path state durable =>
    refine yields_onTransition rfl fun t ht => ?_
    cases t.files.find? path with
    | none => exact .error _
    | some f =>
      refine .require fun hguard => .require fun _ => .ok (.notes rfl ht
        ⟨fun hphase => ?_, fun hphase => ?_, rfl⟩)
      all_goals simp_all
  | noteSshPublication installed durable =>
    refine yields_onTransition rfl fun t ht => .require fun hguard => .require fun _ => .ok ?_
    refine .notes rfl ht ⟨fun hphase => ?_, by cases durable <;> simp, rfl⟩
    simp [hphase, isPublishing] at hguard
  | noteSshRuntime verified facts =>
    refine yields_onTransition rfl fun t ht => .require fun hguard => .require fun _ => .ok ?_
    have hphase : t.phase ≠ .Completed := by
      intro hphase
      simp [hphase, sshReleaseAwaitingDisable] at hguard
    exact .notes rfl ht ⟨hphase, runtimePhase_ne_completed hphase, rfl⟩
  | commitSshRefresh =>
    refine yields_onTransition rfl fun t ht => .require fun hguard => .ok ?_
    simp only [Bool.not_eq_true', Bool.or_eq_false_iff, decide_eq_false_iff_not,
      Decidable.not_not] at hguard
    exact .commitsRefresh ht hguard.1.1.2 (by simp [isRelease, hguard.1.2])
  | finishSshReleaseVerification =>
    refine yields_onTransition rfl fun t ht => .require fun hguard => .ok ?_
    refine .notes rfl ht ⟨fun hphase => ?_, by simp, rfl⟩
    simp [hphase] at hguard
  | commitSshRelease =>
    refine yields_onTransition rfl fun t ht => .require fun hguard => .ok ?_
    simp only [Bool.not_eq_true', Bool.or_eq_false_iff, Bool.not_eq_false',
      sshReleaseAwaitingDisable, Bool.and_eq_true, decide_eq_true_eq] at hguard
    exact .commitsRelease ht hguard.1.1.2 hguard.1.1.1
  | failSshTransition diagnostic =>
    refine yields_onTransition rfl fun t ht => .require fun hguard => .ok ?_
    have hphase : t.phase ≠ .Completed := by
      intro hphase
      simp [hphase] at hguard
    refine .notes rfl ht ⟨hphase, ?_, rfl⟩
    split_ifs
    · simp
    · exact hphase
  | abortSshTransitionNoEffect =>
    refine yields_onTransition rfl fun t ht => .require fun hguard =>
      .require fun hinitial => .ok ?_
    simp only [Bool.not_eq_true', Bool.or_eq_false_iff, decide_eq_false_iff_not,
      Decidable.not_not] at hguard hinitial
    exact .aborts rfl ht hguard.1.1.2 hinitial.1
  | abortSshPortNoEffect notInstalled =>
    refine yields_onTransition rfl fun t ht => .require fun hguard => .require fun _ =>
      .require fun _ => ?_
    simp only [Bool.not_eq_true', Bool.or_eq_false_iff, decide_eq_false_iff_not,
      Decidable.not_not] at hguard
    split_ifs with hinitial
    · exact .ok (.discards rfl ht hinitial)
    · exact .ok (.aborts rfl ht hguard.1.1.1.2 (Bool.eq_false_iff.mpr hinitial))

theorem plan_move {op : SshOperation} (h : (op.plan prim records).act record p =
    .ok effect) : SshMove record p op effect :=
  plan_yields op effect h

end

end Fic.Journal
