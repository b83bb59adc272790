import Fic.Journal.Ssh.Validity

/-!
# What the SYSCTL operations make of the journal

`SysctlMove` lists the nine ways an operation can change the records, each with
what the operation has checked; `runSysctl_attempt` reads them off the
operations.
-/

namespace Fic.Journal

open Fic.Lib Journal

variable {created : Bool} {target : Bytes} {r : MutationRecord} {i : Nat}
  {container : Option AtomicTargetState} {legacyOrigin : UInt64}
  {key : Bytes} {policy : PolicyRef} {p : UndoRemoveManagedSetting}

/-! ## The moves -/

def refreshedSetting (target : Bytes) (created : Bool) (legacyOrigin : UInt64)
    (container : Option AtomicTargetState) (previous : MutationRecord)
    (p : UndoRemoveManagedSetting) : MutationRecord :=
  let state := freshSysctlState target created legacyOrigin container
  { previous.withSetting { p with sysctl := some (refreshSysctlState state previous p) } with
    status := .Prepared, error := [] }

def freshSetting (policy : PolicyRef) (key target : Bytes) (created : Bool)
    (legacyOrigin : UInt64) (container : Option AtomicTargetState) : MutationRecord :=
  { policy := policy
    resource := key
    undo :=
      { backend := .Sysctl
        payload := .RemoveManagedSetting
          { key := key, appliedValue := target
            sysctl := some (freshSysctlState target created legacyOrigin container) } } }

def finishedSetting (env : Env) (r : MutationRecord) (p : UndoRemoveManagedSetting)
    (x : SysctlSettingState) : MutationRecord :=
  { r.withSetting { p with appliedValue := x.targetValue, sysctl := x.resolved } with
    status := .Applied, error := [], updatedAtEpoch := env.now }

def abortedSetting (r : MutationRecord) (p : UndoRemoveManagedSetting) (x : SysctlSettingState) :
    MutationRecord :=
  { r.withSetting { p with sysctl := x.resolved } with status := .Applied, error := [] }

def releasingSetting (before target : Option AtomicTargetState) (r : MutationRecord)
    (p : UndoRemoveManagedSetting) : MutationRecord :=
  { r.withSetting
      { p with
        sysctl := some
          { p.sysctl.getD { legacyContainerOrigin := r.id } with
            release := some
              { previousLegacy := p.sysctl.isNone, before := before, target := target } } }
    with status := .Prepared, error := [] }

def releasedSetting (env : Env) (r : MutationRecord) (p : UndoRemoveManagedSetting)
    (x : SysctlSettingState) (intent : SysctlReleaseIntent) : MutationRecord :=
  { r.withSetting
      { p with
        sysctl := if intent.previousLegacy then none else some { x with release := none } }
    with status := .RolledBack, error := [], updatedAtEpoch := env.now }

def touch (env : Env) (r : MutationRecord) : MutationRecord := { r with updatedAtEpoch := env.now }

inductive SysctlMove (prim : Primitives) (env : Env) (j : Journal) :
    SysctlOperation → Journal → Prop
  | prepareRefresh {policy : PolicyRef} {key target : Bytes} {created : Bool}
      {legacyOrigin : UInt64} {container : Option AtomicTargetState} {i : Nat}
      {previous : MutationRecord} {p : UndoRemoveManagedSetting}
      (resolved : ∀ r ∈ j.records, blocksSysctl r = false)
      (found : j.records[i]? = some previous) (backend : previous.undo.backend = .Sysctl)
      (setting : sysctlSetting previous = some p) (applied : previous.status = .Applied)
      (authority : (p.sysctl.any fun x =>
        x.containerCreated ≠ created || x.legacyContainerOrigin ≠ legacyOrigin) = false)
      (valid : validSysctlRecord
        (refreshedSetting target created legacyOrigin container previous p) = .ok ()) :
      SysctlMove prim env j (.prepareSysctl policy key target created legacyOrigin container)
        (j.setRecord i
          (touch env (refreshedSetting target created legacyOrigin container previous p)))
  | prepareFresh {policy : PolicyRef} {key target : Bytes} {created : Bool}
      {legacyOrigin : UInt64} {container : Option AtomicTargetState}
      (resolved : ∀ r ∈ j.records, blocksSysctl r = false)
      (admitted : admitMutation prim false
        (freshSetting policy key target created legacyOrigin container) j = .ok ()) :
      SysctlMove prim env j (.prepareSysctl policy key target created legacyOrigin container)
        (j.append env (freshSetting policy key target created legacyOrigin container))
  | attempt {id : UInt64} {i : Nat} {r : MutationRecord} {p : UndoRemoveManagedSetting}
      {x : SysctlSettingState} (pending : j.pendingSysctl id = some (i, r, p, x))
      (valid : validSysctlRecord
        (r.withSetting { p with sysctl := some { x with attempted := true } }) = .ok ()) :
      SysctlMove prim env j (.noteSysctlAttempt id)
        (j.setRecord i
          (touch env (r.withSetting { p with sysctl := some { x with attempted := true } })))
  | finish {id : UInt64} {published : AtomicTargetState} {i : Nat} {r : MutationRecord}
      {p : UndoRemoveManagedSetting} {x : SysctlSettingState}
      (pending : j.pendingSysctl id = some (i, r, p, x))
      (valid : SysctlValid ((j.records.set i (finishedSetting env r p x)).map
        (publishIdentity env published.identity))) :
      SysctlMove prim env j (.finishSysctl id published)
        { j with
          records := (j.records.set i (finishedSetting env r p x)).map
            (publishIdentity env published.identity) }
  | abortFresh {id : UInt64} {inlineNotInstalled : Bool} {i : Nat} {r : MutationRecord}
      {p : UndoRemoveManagedSetting} {x : SysctlSettingState}
      (pending : j.pendingSysctl id = some (i, r, p, x)) (fresh : x.hadApplied = false) :
      SysctlMove prim env j (.abortSysctlNoEffect id inlineNotInstalled) (j.eraseRecord i)
  | abortRefresh {id : UInt64} {inlineNotInstalled : Bool} {i : Nat} {r : MutationRecord}
      {p : UndoRemoveManagedSetting} {x : SysctlSettingState}
      (pending : j.pendingSysctl id = some (i, r, p, x)) (refresh : x.hadApplied = true)
      (valid : validSysctlRecord (abortedSetting r p x) = .ok ()) :
      SysctlMove prim env j (.abortSysctlNoEffect id inlineNotInstalled)
        (j.setRecord i (touch env (abortedSetting r p x)))
  | beginRelease {id : UInt64} {before target : Option AtomicTargetState} {i : Nat}
      {r : MutationRecord} {p : UndoRemoveManagedSetting} (found : j.find id = some (i, r))
      (backend : r.undo.backend = .Sysctl) (active : r.isActive = true)
      (setting : sysctlSetting r = some p) (settled : p.sysctl.any (·.unresolved) = false)
      (others : ∀ other ∈ j.records, other.id ≠ id → blocksSysctl other = false)
      (valid : validSysctlRecord (releasingSetting before target r p) = .ok ()) :
      SysctlMove prim env j (.beginSysctlRelease id before target)
        (j.setRecord i (touch env (releasingSetting before target r p)))
  | noteRelease {id : UInt64} {prepared : AtomicTargetState} {i : Nat} {r : MutationRecord}
      {p : UndoRemoveManagedSetting} {x : SysctlSettingState} {intent : SysctlReleaseIntent}
      (found : j.find id = some (i, r)) (setting : sysctlSetting r = some p)
      (state : p.sysctl = some x) (release : x.release = some intent)
      (valid : validSysctlRecord (r.withSetting
        { p with
          sysctl := some { x with release := some { intent with prepared := some prepared } } }) =
        .ok ()) :
      SysctlMove prim env j (.noteSysctlReleasePrepared id prepared)
        (j.setRecord i (touch env (r.withSetting
          { p with
            sysctl := some
              { x with release := some { intent with prepared := some prepared } } })))
  | finishRelease {id : UInt64} {published : Option AtomicTargetState} {i : Nat}
      {r : MutationRecord} {p : UndoRemoveManagedSetting} {x : SysctlSettingState}
      {intent : SysctlReleaseIntent} {records : List MutationRecord}
      (found : j.find id = some (i, r))
      (backend : r.undo.backend = .Sysctl) (setting : sysctlSetting r = some p)
      (state : p.sysctl = some x) (release : x.release = some intent)
      (settled : x.pending = false)
      (survivors : match published with
        | none => (j.records.set i (releasedSetting env r p x intent)).any ownsContainer = false ∧
            records = j.records.set i (releasedSetting env r p x intent)
        | some published =>
            records = (j.records.set i (releasedSetting env r p x intent)).map
              (publishIdentity env published.identity))
      (valid : SysctlValid records) :
      SysctlMove prim env j (.finishSysctlRelease id published) { j with records := records }

/-! ## Reading the moves off the operations -/

variable {prim : Primitives} {env : Env} {j : Journal} {id : UInt64}

theorem sysctlSetting_eq_some :
    sysctlSetting r = some p ↔ r.undo.payload = .RemoveManagedSetting p := by
  unfold sysctlSetting
  split <;> simp_all

/-- A managed setting never makes the SSH validator throw. -/
theorem catchable_withSetting (r : MutationRecord) (p : UndoRemoveManagedSetting) :
    ∀ r', r'.undo = (r.withSetting p).undo → Catchable (validSshRecord prim r') := by
  intro r' hr'
  refine catchable_validSshRecord fun q t hq _ => ?_
  simp [sshPayload, hr', MutationRecord.withSetting] at hq

theorem changeSetting_attempt {op : SysctlOperation} {previous changed : MutationRecord}
    (hfind : j.find previous.id = some (i, previous)) (hid : changed.id = previous.id)
    (hundo : changed.undo = (previous.withSetting p).undo)
    (hmove : validSysctlRecord changed = .ok () →
      SysctlMove prim env j op (j.setRecord i (touch env changed))) :
    Attempt j (fun _ => False) (SysctlMove prim env j op)
      fun w =>
        (j.setRecord i changed).persistRecordChange prim { env with write := w } previous := by
  refine (persistRecordChange_attempt hfind hid).mono ?_ ?_
  · rintro next ⟨⟨what, hthrown⟩, -⟩
    exact catchable_withSetting previous p changed hundo what hthrown
  · rintro next ⟨-, hvalid, rfl⟩
    exact hmove hvalid

/-- The predecessor search refuses unless every record is resolved; it finds the
applied record of the policy. -/
theorem sysctlPredecessor_spec {k : Nat} {old found : Option (Nat × MutationRecord)}
    {l : List MutationRecord} (h : sysctlPredecessor policy key k old l = .ok found) :
    (∀ r ∈ l, blocksSysctl r = false) ∧
      (found = old ∨ ∃ i r, found = some (k + i, r) ∧ l[i]? = some r ∧
        r.undo.backend = .Sysctl ∧ r.status = .Applied) ∧
      (found = none → ∀ r ∈ l, r.isActive = true → r.undo.backend = .Sysctl →
        r.policy ≠ policy) := by
  induction l generalizing k old with
  | nil =>
    injection h with h
    subst h
    exact ⟨by simp, .inl rfl, by simp⟩
  | cons r l ih =>
    -- what is left to do behind a record that is skipped
    have skip : ∀ {old}, sysctlPredecessor policy key (k + 1) old l = .ok found →
        blocksSysctl r = false →
        (found = none → r.isActive = true → r.undo.backend = .Sysctl → r.policy ≠ policy) →
        (∀ r' ∈ r :: l, blocksSysctl r' = false) ∧
          (found = old ∨ ∃ i r', found = some (k + i, r') ∧ (r :: l)[i]? = some r' ∧
            r'.undo.backend = .Sysctl ∧ r'.status = .Applied) ∧
          (found = none → ∀ r' ∈ r :: l, r'.isActive = true → r'.undo.backend = .Sysctl →
            r'.policy ≠ policy) := by
      intro old hrest hresolved hpolicy
      obtain ⟨hall, hfound, hnone⟩ := ih hrest
      refine ⟨List.forall_mem_cons.mpr ⟨hresolved, hall⟩, ?_, ?_⟩
      · rcases hfound with hfound | ⟨i, r', hfound, hget, hfacts⟩
        · exact .inl hfound
        · exact .inr ⟨i + 1, r', by rw [hfound]; congr 2; omega, by simpa using hget, hfacts⟩
      · exact fun h => List.forall_mem_cons.mpr ⟨hpolicy h, hnone h⟩
    unfold sysctlPredecessor at h
    split_ifs at h with hactive hblocks hpolicy hmismatch
    · refine skip h ?_ ?_
      · cases ha : r.isActive && decide (r.undo.backend = .Sysctl) with
        | false => simp [blocksSysctl, ha]
        | true => simp [ha] at hactive
      · intro _ ha hb
        simp [ha, hb] at hactive
    · exact skip h (by simpa using hblocks) fun _ _ _ => hpolicy
    · have hmatch : r.isActive = true ∧ r.undo.backend = .Sysctl := by simpa using hactive
      obtain ⟨hall, hfound, hnone⟩ := skip h (by simpa using hblocks) (by
        intro hnone
        rcases (ih h).2.1 with hsome | ⟨i, r', hsome, -⟩ <;> simp [hnone] at hsome)
      refine ⟨hall, ?_, hnone⟩
      rcases hfound with hfound | hfound
      · have happlied : r.status = .Applied := by
          by_contra hne
          simp [hne] at hmismatch
        exact .inr ⟨0, r, by rw [hfound]; rfl, rfl, hmatch.2, happlied⟩
      · exact .inr hfound

theorem prepareFresh_attempt (hresolved : ∀ r ∈ j.records, blocksSysctl r = false)
    (hpolicy : ∀ r ∈ j.records, r.isActive = true → r.undo.backend = .Sysctl →
      r.policy ≠ policy) :
    Attempt j (fun _ => False)
      (SysctlMove prim env j (.prepareSysctl policy key target created legacyOrigin container))
      fun w => j.prepareMutation prim { env with write := w }
        (freshSetting policy key target created legacyOrigin container) := by
  -- no active record has the identity of the new one
  have hunmatched : ∀ e ∈ j.records, e.isActive = true →
      sameIdentity e (freshSetting policy key target created legacyOrigin container) ≠ true := by
    intro e he hactive hsame
    obtain ⟨hsamePolicy, hbackend, -⟩ := sameIdentity_iff.mp hsame
    exact hpolicy e he hactive hbackend hsamePolicy
  rcases (prepareMutationImpl_attempt :
      (RetriesSsh (freshSetting policy key target created legacyOrigin container) j ∧ _) ∨
        Attempt j _ (PrepareChange prim env false _ j) _) with
    ⟨⟨e, he, hactive, hsame, -⟩, -⟩ | attempt
  · exact absurd hsame (hunmatched e he hactive)
  · refine attempt.mono (fun _ h => h) fun next change => ?_
    cases change with
    | append admitted unmatched => exact .prepareFresh hresolved admitted
    | refresh admitted found active same first guard =>
      exact absurd same (hunmatched _ (List.mem_of_getElem? found) active)

theorem prepareSysctl_attempt (hnodup : (j.records.map (·.id)).Nodup) :
    Attempt j (fun _ => False)
      (SysctlMove prim env j (.prepareSysctl policy key target created legacyOrigin container))
      fun w => j.prepareSysctl prim { env with write := w } policy key target created legacyOrigin
        container := by
  refine .guard rfl fun _ => ?_
  cases hsearch : sysctlPredecessor policy key 0 none j.records with
  | error error => exact .refused rfl
  | ok found =>
    obtain ⟨hresolved, hfound, hnone⟩ := sysctlPredecessor_spec hsearch
    refine .guard rfl fun _ => ?_
    cases found with
    | none => exact prepareFresh_attempt hresolved (hnone rfl)
    | some old =>
      obtain ⟨i, previous⟩ := old
      rcases hfound with hfound | ⟨k, r, hfound, hget, hbackend, happlied⟩
      · cases hfound
      · obtain ⟨rfl, rfl⟩ : i = k ∧ previous = r := by simpa using hfound
        simp only
        cases hsetting : sysctlSetting previous with
        | none => exact .refused rfl
        | some p =>
          refine .guard rfl fun hauthority => ?_
          refine changeSetting_attempt (find_of_nodup hnodup hget) rfl rfl fun hvalid => ?_
          exact .prepareRefresh hresolved hget hbackend hsetting happlied
            (by simpa using hauthority) hvalid

structure PendingSetting (j : Journal) (id : UInt64) (i : Nat) (r : MutationRecord)
    (p : UndoRemoveManagedSetting) (x : SysctlSettingState) : Prop where
  found : j.find id = some (i, r)
  setting : sysctlSetting r = some p
  state : p.sysctl = some x
  backend : r.undo.backend = .Sysctl
  prepared : r.status = .Prepared
  pending : x.pending = true

theorem pendingSysctl_eq_some {x : SysctlSettingState}
    (h : j.pendingSysctl id = some (i, r, p, x)) : PendingSetting j id i r p x := by
  unfold pendingSysctl at h
  split at h
  · cases h
  · split at h
    · cases h
    · split at h
      · cases h
      · split_ifs at h with hguard
        simp only [Bool.and_eq_true, decide_eq_true_eq] at hguard
        cases h
        exact ⟨‹_›, ‹_›, ‹_›, hguard.1.1.2, hguard.1.2, hguard.2⟩

theorem noteSysctlAttempt_attempt :
    Attempt j (fun _ => False) (SysctlMove prim env j (.noteSysctlAttempt id))
      fun w => j.noteSysctlAttempt prim { env with write := w } id := by
  unfold noteSysctlAttempt
  cases hpending : j.pendingSysctl id with
  | none => exact .refused rfl
  | some found =>
    obtain ⟨i, r, p, x⟩ := found
    have pending := pendingSysctl_eq_some hpending
    refine .guard rfl fun _ => ?_
    have hid := id_of_find pending.found
    exact changeSetting_attempt (by rw [hid]; exact pending.found) rfl rfl fun hvalid =>
      .attempt hpending hvalid

theorem finishSysctl_attempt {published : AtomicTargetState} :
    Attempt j (fun _ => False) (SysctlMove prim env j (.finishSysctl id published))
      fun w => j.finishSysctl { env with write := w } id published := by
  unfold finishSysctl
  cases hpending : j.pendingSysctl id with
  | none => exact .refused rfl
  | some found =>
    obtain ⟨i, r, p, x⟩ := found
    refine .guard rfl fun _ => ?_
    change Attempt j _ _ fun w => persistSysctlChange { env with write := w } id j.records
      { j with
        records := (j.records.set i (finishedSetting env r p x)).map
          (publishIdentity env published.identity) }
    refine persistSysctlChange_attempt.mono (fun _ h => h) ?_
    rintro next ⟨hvalid, rfl⟩
    exact .finish hpending hvalid

theorem abortSysctlNoEffect_attempt {inlineNotInstalled : Bool} :
    Attempt j (fun _ => False)
      (SysctlMove prim env j (.abortSysctlNoEffect id inlineNotInstalled))
      fun w => j.abortSysctlNoEffect prim { env with write := w } id inlineNotInstalled := by
  unfold abortSysctlNoEffect
  cases hpending : j.pendingSysctl id with
  | none => exact .refused rfl
  | some found =>
    obtain ⟨i, r, p, x⟩ := found
    have pending := pendingSysctl_eq_some hpending
    refine .guard rfl fun _ => ?_
    cases hhad : x.hadApplied with
    | false =>
      refine discardImpl_attempt.mono (fun _ h => h) ?_
      rintro next ⟨found, -, -⟩
      obtain ⟨rfl, -⟩ : i = _ ∧ r = _ := by
        simpa using Option.some.inj (pending.found.symm.trans found)
      exact .abortFresh hpending hhad
    | true =>
      have hid := id_of_find pending.found
      exact changeSetting_attempt (by rw [hid]; exact pending.found) rfl rfl fun hvalid =>
        .abortRefresh hpending hhad hvalid

theorem beginSysctlRelease_attempt {before target : Option AtomicTargetState} :
    Attempt j (fun _ => False) (SysctlMove prim env j (.beginSysctlRelease id before target))
      fun w => j.beginSysctlRelease prim { env with write := w } id before target := by
  unfold beginSysctlRelease
  cases hfind : j.find id with
  | none => exact .refused rfl
  | some found =>
    obtain ⟨i, r⟩ := found
    simp only
    cases hsetting : sysctlSetting r with
    | none => exact .refused rfl
    | some p =>
      refine .guard rfl fun hguard => ?_
      simp only [Bool.not_eq_true, Bool.or_eq_false_iff, decide_eq_false_iff_not,
        Decidable.not_not, Bool.not_eq_false'] at hguard
      refine .guard rfl fun hothers => ?_
      have hid := id_of_find hfind
      subst hid
      refine changeSetting_attempt hfind rfl rfl fun hvalid => ?_
      refine .beginRelease hfind hguard.1.1.2 hguard.1.2 hsetting hguard.2 ?_ hvalid
      simpa using hothers

theorem noteSysctlReleasePrepared_attempt {prepared : AtomicTargetState} :
    Attempt j (fun _ => False) (SysctlMove prim env j (.noteSysctlReleasePrepared id prepared))
      fun w => j.noteSysctlReleasePrepared prim { env with write := w } id prepared := by
  unfold noteSysctlReleasePrepared
  cases hfind : j.find id with
  | none => exact .refused rfl
  | some found =>
    obtain ⟨i, r⟩ := found
    simp only
    cases hsetting : sysctlSetting r with
    | none => exact .refused rfl
    | some p =>
      simp only
      cases hstate : p.sysctl with
      | none => exact .refused rfl
      | some x =>
        simp only
        cases hrelease : x.release with
        | none => exact .refused rfl
        | some intent =>
          refine .guard rfl fun _ => ?_
          have hid := id_of_find hfind
          subst hid
          exact changeSetting_attempt hfind rfl rfl fun hvalid =>
            .noteRelease hfind hsetting hstate hrelease hvalid

theorem finishSysctlRelease_attempt {published : Option AtomicTargetState} :
    Attempt j (fun _ => False) (SysctlMove prim env j (.finishSysctlRelease id published))
      fun w => j.finishSysctlRelease { env with write := w } id published := by
  unfold finishSysctlRelease
  cases hfind : j.find id with
  | none => exact .refused rfl
  | some found =>
    obtain ⟨i, r⟩ := found
    refine .guard rfl fun hguard => ?_
    simp only [Bool.not_eq_true, Bool.or_eq_false_iff, decide_eq_false_iff_not,
      Decidable.not_not] at hguard
    cases hsetting : sysctlSetting r with
    | none => exact .refused rfl
    | some p =>
      simp only
      cases hstate : p.sysctl with
      | none => exact .refused rfl
      | some x =>
        simp only
        cases hrelease : x.release with
        | none => exact .refused rfl
        | some intent =>
          refine .guard rfl fun hpending => ?_
          refine .guard rfl fun _ => ?_
          have hsettled : x.pending = false := by simpa using hpending
          cases published with
          | none =>
            refine .guard rfl fun hsurvivors => ?_
            refine persistSysctlChange_attempt.mono (fun _ h => h) ?_
            rintro next ⟨hvalid, rfl⟩
            exact .finishRelease hfind hguard.1.2 hsetting hstate hrelease hsettled
              ⟨Bool.eq_false_iff.mpr hsurvivors, rfl⟩ hvalid
          | some published =>
            change Attempt j _ _ fun w => persistSysctlChange { env with write := w } id j.records
              { j with
                records := (j.records.set i (releasedSetting env r p x intent)).map
                  (publishIdentity env published.identity) }
            refine persistSysctlChange_attempt.mono (fun _ h => h) ?_
            rintro next ⟨hvalid, rfl⟩
            exact .finishRelease hfind hguard.1.2 hsetting hstate hrelease hsettled rfl hvalid

theorem runSysctl_attempt (hnodup : (j.records.map (·.id)).Nodup) (op : SysctlOperation) :
    Attempt j (fun _ => False) (SysctlMove prim env j op)
      fun w => j.runSysctl prim { env with write := w } op := by
  cases op with
  | prepareSysctl policy key target created legacyOrigin container =>
    exact prepareSysctl_attempt hnodup
  | noteSysctlAttempt id => exact noteSysctlAttempt_attempt
  | finishSysctl id published => exact finishSysctl_attempt
  | abortSysctlNoEffect id inlineNotInstalled => exact abortSysctlNoEffect_attempt
  | beginSysctlRelease id before target => exact beginSysctlRelease_attempt
  | noteSysctlReleasePrepared id prepared => exact noteSysctlReleasePrepared_attempt
  | finishSysctlRelease id published => exact finishSysctlRelease_attempt

end Fic.Journal
