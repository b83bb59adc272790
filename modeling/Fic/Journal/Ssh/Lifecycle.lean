import Fic.Journal.Ssh.Validity

/-!
# The life of an SSH record

`SshLifecycle` follows one record through a run of typed operations and says at
every call what may have happened to it.  `SshOrigin` is what the run remembers:
the status and the permission the record had when its transition began, and the
permission that was aimed at.  `ssh_lifecycle` is the induction over the run;
its step is `SshMove.step`, one case per kind of move.
-/

namespace Fic.Journal

open Fic.Lib Journal

variable {after next : Journal} {records : List MutationRecord} {t' : SshOwnershipTransition}
  {cid : UInt64}
  {i : Nat} {t : SshOwnershipTransition}

/-! ## Runs -/

structure SshCall where
  env : Env
  op : SshOperation
  id : UInt64

def SshCall.run (prim : Primitives) (call : SshCall) (j : Journal) : Outcome :=
  j.runSsh prim call.env call.op call.id

/-- The record with an id, if it is an SSH record. -/
def sshOwner (j : Journal) (id : UInt64) : Option (MutationRecord × UndoRemoveSshManagedPolicy) :=
  (j.records.find? fun r => r.id = id).bind fun r =>
    if r.undo.backend = .Ssh then (sshPayload r).map fun p => (r, p) else none

/-- What a load guarantees: ids are distinct and SSH records are valid. -/
structure SshWellFormed (prim : Primitives) (j : Journal) : Prop where
  nodup : (j.records.map (·.id)).Nodup
  valid : ∀ r ∈ j.records, validSshRecord prim r = .ok ()

/-- What was held when a transition began, and what it aims at. -/
structure SshOrigin where
  status : MutationStatus
  projection : SshOwnedProjection
  target : SshOwnedProjection

/-- The origin as the transition itself records it. -/
def SshOwnershipTransition.origin (t : SshOwnershipTransition) : SshOrigin :=
  { status := if isRelease t then t.predecessorStatus else .Applied
    projection := t.previous
    target := t.target }

/-- The origin at the start of a run, read off a transition under way. -/
def recordedOrigin (p : UndoRemoveSshManagedPolicy) : Option SshOrigin :=
  p.transition.map (·.origin)

/-- A call that gives the record a new operation sequence begins a transition. -/
def originAfter (id : UInt64) (call : SshCall) (r : MutationRecord)
    (p p' : UndoRemoveSshManagedPolicy) (origin : Option SshOrigin) : Option SshOrigin :=
  match call.op.target with
  | some target =>
    if call.id = id ∧ p'.operationSequence ≠ p.operationSequence then
      some { status := r.status, projection := sshOwnedProjection p, target := target }
    else origin
  | none => origin

/-- The change stays in memory: the call succeeded, or its document was installed
without proof that it is durable. -/
def keepsChange (write : PersistOutcome) : Reply → Bool
  | .success _ => true
  | .notPersisted => write = .Indeterminate
  | .refused _ | .threw => false

/-- What one call may do to the record. -/
structure SshStep (id : UInt64) (call : SshCall) (origin : Option SshOrigin) (reply : Reply)
    (r : MutationRecord) (p : UndoRemoveSshManagedPolicy)
    (r' : MutationRecord) (p' : UndoRemoveSshManagedPolicy) : Prop where
  /-- The permission changes at a committed refresh only, to what was aimed at. -/
  projection : sshOwnedProjection p' ≠ sshOwnedProjection p →
    call.id = id ∧ call.op = .commitSshRefresh ∧ keepsChange call.env.write reply = true ∧
      ∃ o, origin = some o ∧ sshOwnedProjection p' = o.target
  refresh : call.id = id → call.op = .commitSshRefresh → reply.isSuccess = true →
    ∃ o, origin = some o ∧ sshOwnedProjection p' = o.target
  rolledBack : r'.status = .RolledBack → r.status ≠ .RolledBack →
    call.id = id ∧ call.op = .commitSshRelease
  /-- A commit needs the durable publication of the planned content. -/
  commit : call.id = id → call.op = .commitSshRefresh ∨ call.op = .commitSshRelease →
    reply.isSuccess = true →
    ∃ t pub, p.transition = some t ∧ t.publication = some pub ∧ pub.durable = true ∧
      pub.sha256 = t.targetSha256
  sequence : p.operationSequence ≤ p'.operationSequence
  /-- An abort brings back what was held when the transition began. -/
  abort : call.id = id → call.op.aborts = true → reply.isSuccess = true →
    ∃ o, origin = some o ∧ r'.status = o.status ∧ sshOwnedProjection p' = o.projection

/-- Every call of a run does to the record what it may; a record goes away only
when its very first transition is aborted.  A call that throws ends the run. -/
def SshLifecycle (prim : Primitives) (id : UInt64) :
    Option SshOrigin → List SshCall → Journal → Prop
  | _, [], _ => True
  | origin, call :: calls, j =>
    match sshOwner j id with
    | none => True
    | some (r, p) =>
      (call.run prim j).2 ≠ .threw →
      match sshOwner (call.run prim j).1 id with
      | none => call.id = id ∧ call.op.aborts = true ∧ ∃ t, p.transition = some t ∧ t.initial = true
      | some (r', p') =>
        SshStep id call origin (call.run prim j).2 r p r' p' ∧
          SshLifecycle prim id (originAfter id call r p p' origin) calls (call.run prim j).1

/-! ## Steps -/

section

variable {prim : Primitives} {j : Journal} {id : UInt64} {call : SshCall}
  {origin : Option SshOrigin} {reply : Reply} {r r' : MutationRecord}
  {p p' : UndoRemoveSshManagedPolicy}

/-- The run remembers the origin of the transition under way. -/
def Follows (p : UndoRemoveSshManagedPolicy) (origin : Option SshOrigin) : Prop :=
  ∀ t, p.transition = some t → t.phase ≠ .Completed → origin = some t.origin

theorem SshStep.unchanged (hreply : reply.isSuccess = false) :
    SshStep id call origin reply r p r p where
  projection h := absurd rfl h
  refresh _ _ h := by simp [hreply] at h
  rolledBack h hne := absurd h hne
  commit _ _ h := by simp [hreply] at h
  sequence := UInt64.le_refl _
  abort _ _ h := by simp [hreply] at h

theorem SshStep.other (hid : call.id ≠ id) : SshStep id call origin reply r p r p where
  projection h := absurd rfl h
  refresh h := absurd h hid
  rolledBack h hne := absurd h hne
  commit h := absurd h hid
  sequence := UInt64.le_refl _
  abort h := absurd h hid

theorem originAfter_self : originAfter id call r p p origin = origin := by
  unfold originAfter
  split <;> simp

variable {op : SshOperation}

theorem SshOperation.target_of_aborts (h : op.aborts = true) : op.target = none := by
  cases op <;> simp_all [aborts, target]

theorem SshOperation.target_of_notes (h : op.notes = true) : op.target = none := by
  cases op <;> simp_all [notes, target]

theorem SshOperation.not_aborts_of_notes (h : op.notes = true) : op.aborts = false := by
  cases op <;> simp_all [notes, aborts]

theorem SshOwnershipTransition.Continues.origin_eq (h : t.Continues t') : t'.origin = t.origin := by
  rw [h.same]
  rfl

section moves

variable {op : SshOperation} {changed : MutationRecord}

/-- What a move does to the record it is made on. -/
structure MoveStep (id : UInt64) (call : SshCall) (origin : Option SshOrigin) (reply : Reply)
    (r : MutationRecord) (p : UndoRemoveSshManagedPolicy) (changed : MutationRecord) : Prop where
  backend : changed.undo.backend = r.undo.backend
  step : ∃ p', sshPayload changed = some p' ∧ SshStep id call origin reply r p changed p' ∧
    Follows p' (originAfter id call r p p' origin)

theorem step_begins {target : SshOwnedProjection} (hid : call.id = id)
    (htarget : call.op.target = some target) (begun : SshBegun r p target t) :
    MoveStep id call origin reply r p
      { r.withSsh { p with operationSequence := t.sequence, transition := some t } with
        status := .Prepared, error := [] } := by
  have hlt : p.operationSequence < t.sequence := by
    rw [begun.sequence]
    exact lt_succ begun.bound
  refine ⟨rfl, _, rfl, ?_, ?_⟩
  · refine
      { projection := fun h => absurd rfl h, refresh := ?_, rolledBack := ?_, commit := ?_
        sequence := UInt64.le_of_lt hlt, abort := ?_ }
    · intro _ hop
      simp [hop, SshOperation.target] at htarget
    · intro h
      cases h
    · rintro - (hop | hop) <;> simp [hop, SshOperation.target] at htarget
    · intro _ haborts
      simp [SshOperation.target_of_aborts haborts] at htarget
  · intro t' ht' _
    obtain rfl := Option.some.inj ht'
    have hne : t.sequence ≠ p.operationSequence := fun h => UInt64.lt_irrefl _ (h ▸ hlt)
    simp only [originAfter, htarget, hid, true_and, if_pos hne, SshOwnershipTransition.origin,
      begun.previous, begun.target, begun.status]

theorem step_notes {error : Bytes} (hnotes : call.op.notes = true)
    (transition : p.transition = some t) (continues : t.Continues t')
    (hfollows : Follows p origin) :
    MoveStep id call origin reply r p
      { r.withSsh { p with transition := some t' } with error := error } := by
  refine ⟨rfl, _, rfl, ?_, ?_⟩
  · refine
      { projection := fun h => absurd rfl h, refresh := ?_, rolledBack := fun h hne => absurd h hne
        commit := ?_, sequence := UInt64.le_refl _, abort := ?_ }
    · intro _ hop
      simp [hop, SshOperation.notes] at hnotes
    · rintro - (hop | hop) <;> simp [hop, SshOperation.notes] at hnotes
    · intro _ haborts
      simp [SshOperation.not_aborts_of_notes hnotes] at haborts
  · intro t'' ht'' _
    obtain rfl := Option.some.inj ht''
    simp only [originAfter, SshOperation.target_of_notes hnotes]
    rw [hfollows t transition continues.pending, continues.origin_eq]

theorem step_commitsRefresh (hid : call.id = id) (hop : call.op = .commitSshRefresh)
    (transition : p.transition = some t) (phase : t.phase = .RuntimeVerified)
    (facts : SshTransitionFacts prim r p t) (hfollows : Follows p origin)
    (hkeeps : keepsChange call.env.write reply = true) :
    MoveStep id call origin reply r p
      { r.withSsh
          { p with
            appliedValue := t.target.value
            disabledMutationIds := t.target.disabledIds
            ownershipVersion := t.target.ownershipVersion
            wrapperFingerprints := t.target.wrapperFingerprints
            includedWrappers := t.target.includedWrappers
            transition := some { t with phase := .Completed } }
        with status := .Applied, error := [] } := by
  have horigin := hfollows t transition (by simp [phase])
  refine ⟨rfl, _, rfl, ?_, ?_⟩
  · refine
      { projection := fun _ => ⟨hid, hop, hkeeps, _, horigin, rfl⟩
        refresh := fun _ _ _ => ⟨_, horigin, rfl⟩, rolledBack := ?_, commit := ?_
        sequence := UInt64.le_refl _, abort := ?_ }
    · intro h
      cases h
    · intro _ _ _
      obtain ⟨pub, hpub, hsha, hdurable⟩ := facts.published (by simp [phase])
      exact ⟨t, pub, transition, hpub, by simp [hdurable, phase], hsha⟩
    · intro _ haborts
      simp [hop, SshOperation.aborts] at haborts
  · intro t' ht' hopen
    obtain rfl := Option.some.inj ht'
    exact absurd rfl hopen

theorem step_commitsRelease (hid : call.id = id) (hop : call.op = .commitSshRelease)
    (transition : p.transition = some t) (phase : t.phase = .ReleasedAwaitingDisable)
    (facts : SshTransitionFacts prim r p t) :
    MoveStep id call origin reply r p
      { r.withSsh { p with transition := some { t with phase := .Completed } } with
        status := .RolledBack } := by
  refine ⟨rfl, _, rfl, ?_, ?_⟩
  · refine
      { projection := fun h => absurd rfl h, refresh := ?_, rolledBack := fun _ _ => ⟨hid, hop⟩
        commit := ?_, sequence := UInt64.le_refl _, abort := ?_ }
    · intro _ h
      simp [hop] at h
    · intro _ _ _
      obtain ⟨pub, hpub, hsha, hdurable⟩ := facts.published (by simp [phase])
      exact ⟨t, pub, transition, hpub, by simp [hdurable, phase], hsha⟩
    · intro _ haborts
      simp [hop, SshOperation.aborts] at haborts
  · intro t' ht' hopen
    obtain rfl := Option.some.inj ht'
    exact absurd rfl hopen

theorem step_aborts (haborts : call.op.aborts = true) (transition : p.transition = some t)
    (phase : t.phase = .Prepared) (initial : t.initial = false)
    (facts : SshTransitionFacts prim r p t) (hfollows : Follows p origin) :
    MoveStep id call origin reply r p
      { r.withSsh { p with transition := none } with
        status := if isRelease t then t.predecessorStatus else .Applied
        error := if isRelease t then t.predecessorError else [] } := by
  have hopen : t.phase ≠ .Completed := by simp [phase]
  refine ⟨rfl, _, rfl, ?_, ?_⟩
  · refine
      { projection := fun h => absurd rfl h, refresh := ?_, rolledBack := ?_, commit := ?_
        sequence := UInt64.le_refl _, abort := ?_ }
    · intro _ hop
      simp [hop, SshOperation.aborts] at haborts
    · intro h
      cases hrelease : isRelease t with
      | false => simp [hrelease] at h
      | true => rcases facts.predecessor hrelease with hs | hs <;> simp [hrelease, hs] at h
    · rintro - (hop | hop) <;> simp [hop, SshOperation.aborts] at haborts
    · intro _ _ _
      exact ⟨t.origin, hfollows t transition hopen, rfl, facts.held hopen initial⟩
  · intro t' ht'
    cases ht'

theorem SshMove.step (hmove : SshMove r p op (.change changed)) (hop : call.op = op)
    (hid : call.id = id) (hfacts : ∀ t, p.transition = some t → SshTransitionFacts prim r p t)
    (hfollows : Follows p origin) (hkeeps : keepsChange call.env.write reply = true) :
    MoveStep id call origin reply r p changed := by
  cases hmove with
  | begins begins begun => exact step_begins hid (by rw [hop]; exact begins) begun
  | notes notes transition continues =>
    exact step_notes (by rw [hop]; exact notes) transition continues hfollows
  | commitsRefresh transition phase refresh =>
    exact step_commitsRefresh hid hop transition phase (hfacts _ transition) hfollows hkeeps
  | commitsRelease transition phase release =>
    exact step_commitsRelease hid hop transition phase (hfacts _ transition)
  | aborts aborts transition phase initial =>
    exact step_aborts (by rw [hop]; exact aborts) transition phase initial (hfacts _ transition)
      hfollows

end moves

theorem Kept.keepsChange {w : PersistOutcome} {outcome : Outcome} (h : Kept next w outcome)
    (hreply : outcome.2 ≠ .threw) : Fic.Journal.keepsChange w outcome.2 = true := by
  cases h with
  | threw => exact absurd rfl hreply
  | persisted | indeterminate => rfl

theorem sshOwner_eq_some :
    sshOwner j id = some (r, p) ↔
      (j.records.find? fun r => r.id = id) = some r ∧ r.undo.backend = .Ssh ∧
        sshPayload r = some p := by
  unfold sshOwner
  constructor
  · intro h
    obtain ⟨r', hr', h⟩ := Option.bind_eq_some_iff.mp h
    split_ifs at h with hbackend
    obtain ⟨p', hp', h⟩ := Option.map_eq_some_iff.mp h
    obtain ⟨rfl, rfl⟩ := Prod.mk.inj h
    exact ⟨hr', hbackend, hp'⟩
  · rintro ⟨hr, hbackend, hp⟩
    simp [hr, hbackend, hp]

variable {changed : MutationRecord}

theorem SshMove.keepsId (h : SshMove r p op (.change changed)) : changed.id = r.id := by
  cases h <;> rfl

theorem SshMove.keepsBackend
    (h : SshMove r p op (.change changed)) : changed.undo.backend = r.undo.backend := by
  cases h <;> rfl

theorem SshMove.discard_cases (h : SshMove r p op .discard) :
    op.aborts = true ∧ ∃ t, p.transition = some t ∧ t.initial = true := by
  cases h with
  | discards aborts transition initial => exact ⟨aborts, _, transition, initial⟩

theorem plan_keepsId (op : SshOperation) (records : List MutationRecord) :
    SshPlan.KeepsId (op.plan prim records) :=
  fun _ _ _ h => (plan_move h).keepsId

theorem SshCall.attempt (prim : Primitives) (call : SshCall) (j : Journal) :
    Attempt j (SshStaged prim (call.op.plan prim j.records) call.id j)
      (SshChange prim call.env (call.op.plan prim j.records) call.id j)
      fun w => j.runPlan prim { call.env with write := w } call.id (call.op.plan prim j.records) :=
  runPlan_attempt (plan_keepsId call.op j.records)

/-- A typed operation never makes the validator throw in a well-formed journal. -/
theorem catchable_of_decision (wf : SshWellFormed prim j)
    (decision : SshDecision (op.plan prim records) cid j i r p (.change changed)) :
    Catchable (validSshRecord prim changed) := by
  have hmove := plan_move decision.act
  by_cases hbackend : r.undo.backend = .Ssh
  · have hmem : r ∈ j.records := List.mem_of_getElem? (getElem?_of_find decision.found)
    exact hmove.catchable (wf.valid r hmem) hbackend decision.payload
  · have hother : changed.undo.backend ≠ .Ssh := by
      rw [hmove.keepsBackend]
      exact hbackend
    unfold validSshRecord
    rw [if_pos hother]
    exact .ok ()

theorem SshWellFormed.setRecord {env : Env} (wf : SshWellFormed prim j)
    (decision : SshDecision (op.plan prim records) cid j i r p (.change changed))
    (written : RecordWritten prim env j i changed next) (hrecords : after.records = next.records) :
    SshWellFormed prim after where
  nodup := by
    rw [hrecords, written.eq]
    refine (map_set_of_eq (getElem?_of_find decision.found) ?_).symm ▸ wf.nodup
    exact (plan_move decision.act).keepsId
  valid := by
    rw [hrecords, written.eq]
    exact forall_mem_set wf.valid written.validSsh

theorem SshWellFormed.eraseRecord (wf : SshWellFormed prim j)
    (hrecords : after.records = (j.eraseRecord i).records) : SshWellFormed prim after where
  nodup := by
    rw [hrecords]
    exact wf.nodup.sublist ((List.eraseIdx_sublist _ _).map _)
  valid := by
    rw [hrecords]
    exact fun r hr => wf.valid r (List.mem_of_mem_eraseIdx hr)

/-- One call: the journal stays well formed, and the record either goes away or
makes an allowed step. -/
theorem ssh_call (call : SshCall) (wf : SshWellFormed prim j) (howner : sshOwner j id = some (r, p))
    (hfollows : Follows p origin) (hreply : (call.run prim j).2 ≠ .threw) :
    SshWellFormed prim (call.run prim j).1 ∧
      ((sshOwner (call.run prim j).1 id = none ∧ call.id = id ∧ call.op.aborts = true ∧
          ∃ t, p.transition = some t ∧ t.initial = true) ∨
        ∃ r' p', sshOwner (call.run prim j).1 id = some (r', p') ∧
          SshStep id call origin (call.run prim j).2 r p r' p' ∧
          Follows p' (originAfter id call r p p' origin)) := by
  obtain ⟨hr, hbackend, hp⟩ := sshOwner_eq_some.mp howner
  have attempt := call.attempt prim j
  rcases attempt.outcome call.env.write with ⟨hsame, hfailed⟩ | ⟨next, staged, -⟩ |
      ⟨next, change, kept⟩
  · -- refused, or taken back
    change (call.run prim j).1 = j at hsame
    rw [hsame]
    exact ⟨wf, .inr ⟨r, p, howner, .unchanged hfailed, by rw [originAfter_self]; exact hfollows⟩⟩
  · -- the validator does not throw here
    obtain ⟨decision, ⟨⟨what, hthrown⟩, -⟩⟩ := staged
    exact absurd hthrown (catchable_of_decision wf decision what)
  · have hrecords : (call.run prim j).1.records = next.records := kept.records
    have hkeeps : keepsChange call.env.write (call.run prim j).2 = true :=
      kept.keepsChange hreply
    cases change with
    | @change i record changed q next decision written =>
      have hmove := plan_move decision.act
      have hid := id_of_find decision.found
      refine ⟨wf.setRecord decision written hrecords, .inr ?_⟩
      by_cases heq : call.id = id
      · -- the call is about this record
        subst heq
        obtain rfl := Option.some.inj ((find?_of_find decision.found).symm.trans hr)
        obtain rfl := Option.some.inj (decision.payload.symm.trans hp)
        obtain ⟨hsame, p', hp', step, follows⟩ := hmove.step rfl rfl
          (fun t ht => validSshRecord_facts
            (wf.valid _ (List.mem_of_getElem? (getElem?_of_find decision.found))) hbackend hp ht)
          hfollows hkeeps
        refine ⟨{ changed with updatedAtEpoch := call.env.now }, p',
          sshOwner_eq_some.mpr ⟨?_, hsame.trans hbackend, hp'⟩,
          ⟨step.projection, step.refresh, step.rolledBack, step.commit, step.sequence, step.abort⟩,
          follows⟩
        rw [hrecords, written.eq]
        exact find?_of_find (find_setRecord decision.found (hmove.keepsId.trans hid))
      · refine ⟨r, p, ?_, .other heq, by rw [originAfter_self]; exact hfollows⟩
        refine sshOwner_eq_some.mpr ⟨?_, hbackend, hp⟩
        rw [hrecords, written.eq]
        refine (find?_set_of_not (getElem?_of_find decision.found) ?_ ?_).trans hr
        · simpa [hid] using heq
        · simpa [hmove.keepsId, hid] using heq
    | discard decision discarded =>
      obtain ⟨found, -, -⟩ := discarded
      have hid := id_of_find found
      refine ⟨wf.eraseRecord hrecords, ?_⟩
      by_cases heq : call.id = id
      · subst heq
        obtain rfl := Option.some.inj ((find?_of_find decision.found).symm.trans hr)
        obtain rfl := Option.some.inj (decision.payload.symm.trans hp)
        refine .inl ⟨?_, rfl, (plan_move decision.act).discard_cases⟩
        have hgone := find?_eraseIdx_of_nodup wf.nodup (getElem?_of_find found)
        rw [hid] at hgone
        unfold sshOwner
        rw [hrecords, Journal.eraseRecord, hgone]
        rfl
      · refine .inr ⟨r, p, ?_, .other heq, by rw [originAfter_self]; exact hfollows⟩
        refine sshOwner_eq_some.mpr ⟨?_, hbackend, hp⟩
        rw [hrecords]
        refine (find?_eraseIdx_of_not (getElem?_of_find found) ?_).trans hr
        simpa [hid] using heq

/-- In a run of typed operations the record of an id keeps to its lifecycle. -/
theorem lifecycle_of_follows (calls : List SshCall) (wf : SshWellFormed prim j)
    (howner : sshOwner j id = some (r, p)) (hfollows : Follows p origin) :
    SshLifecycle prim id origin calls j := by
  induction calls generalizing j origin r p with
  | nil => trivial
  | cons call calls ih =>
    simp only [SshLifecycle, howner]
    intro hreply
    obtain ⟨hwf, ⟨hgone, hdiscard⟩ | ⟨r', p', howner', step, follows⟩⟩ :=
      ssh_call call wf howner hfollows hreply
    · simp only [hgone]
      exact hdiscard
    · simp only [howner']
      exact ⟨step, ih hwf howner' follows⟩

theorem follows_recordedOrigin (p : UndoRemoveSshManagedPolicy) : Follows p (recordedOrigin p) := by
  intro t ht _
  simp [recordedOrigin, ht]

/-- Whatever the arguments, the write outcomes and the order of the typed
operations: an SSH record keeps to its lifecycle as long as no call throws. -/
theorem ssh_lifecycle (calls : List SshCall) (wf : SshWellFormed prim j)
    (howner : sshOwner j id = some (r, p)) : SshLifecycle prim id (recordedOrigin p) calls j :=
  lifecycle_of_follows calls wf howner (follows_recordedOrigin p)

end

/-! ## A commit whose write stays ambiguous -/

def sampleDigest (b : Char) : Bytes := List.replicate 64 b.toUInt8

/-- A refresh of `PermitRootLogin` from "yes" to "no", verified and not committed. -/
def sampleTransition : SshOwnershipTransition :=
  { sequence := 1
    phase := .RuntimeVerified
    previous := { value := lit "yes" }
    target := { value := lit "no", ownershipVersion := 1 }
    beforeSha256 := sampleDigest 'a'
    targetSha256 := sampleDigest 'b'
    publication := some { inode := 7, sha256 := sampleDigest 'b', durable := true }
    runtimeFacts := .ofList
      [(lit "inputs", lit "Proven"), (lit "semantics", lit "Proven"),
        (lit "persistent", lit "Proven"), (lit "unit", lit "ssh.service"),
        (lit "MainPID", lit "41"), (lit "InvocationID", lit "i"), (lit "readiness", lit "true")] }

def sampleSshPolicy : UndoRemoveSshManagedPolicy :=
  { policyName := lit "ssh_permit_root_login"
    directive := lit "PermitRootLogin"
    appliedValue := lit "yes"
    operationSequence := 1
    transition := some sampleTransition }

def sampleSshRecord : MutationRecord :=
  { id := 1
    policy :=
      { moduleName := lit "NET", submoduleName := lit "SshEdit"
        policyName := lit "ssh_permit_root_login" }
    resource := lit "ssh:/etc/ssh/sshd_config:PermitRootLogin"
    undo := { backend := .Ssh, payload := .RemoveSshManagedPolicy sampleSshPolicy } }

def sampleSshJournal : Journal :=
  { records := [sampleSshRecord], nextId := 2, loaded := true, lifecycleInitialized := true }

def sampleCommit (write : PersistOutcome) : SshCall :=
  { env := { now := 0, write := write }, op := .commitSshRefresh, id := 1 }

theorem sampleSshJournal_wellFormed : SshWellFormed samplePrimitives sampleSshJournal where
  nodup := by decide
  valid := by
    intro r hr
    obtain rfl := List.mem_singleton.mp hr
    decide +kernel

/-- The document was installed without proof that it is durable: the call fails,
and the record in memory has its new permission. -/
theorem commitSshRefresh_indeterminate :
    sampleSshJournal.usable = true ∧ sampleSshJournal.lifecycleInitialized = true ∧
      ((sampleCommit .Indeterminate).run samplePrimitives sampleSshJournal).2 = .notPersisted ∧
      (sshOwner sampleSshJournal 1).map (fun owner => (sshOwnedProjection owner.2).value) =
        some (lit "yes") ∧
      (sshOwner ((sampleCommit .Indeterminate).run samplePrimitives sampleSshJournal).1 1).map
        (fun owner => (sshOwnedProjection owner.2).value) = some (lit "no") := by
  decide +kernel

theorem ssh_lifecycle_sample :
    sshOwner sampleSshJournal 1 = some (sampleSshRecord, sampleSshPolicy) ∧
      SshLifecycle samplePrimitives 1 (recordedOrigin sampleSshPolicy)
        [sampleCommit .Persisted, sampleCommit .Indeterminate] sampleSshJournal :=
  have howner : sshOwner sampleSshJournal 1 = some (sampleSshRecord, sampleSshPolicy) := rfl
  ⟨howner, ssh_lifecycle _ sampleSshJournal_wellFormed howner⟩

end Fic.Journal
