import Fic.Journal.Reload
import Fic.Journal.Scope.Transition

/-!
# A committed scope is a proof

Whatever the stages answer and however the writes end, a scope that counts as
committed is the one of the last transition that ran its second stage, all four
stages of it have succeeded, and nothing has withdrawn it since.

`Fits` is what the calls keep of the journal: there is one checkpoint at most, and
the counter of ids still has room for the rest of the run.
`closeCheckpoint_closes` says what a checkpoint that is written can look like;
`Justified` is the invariant of the run.
-/

namespace Fic.Journal

open Fic.Lib Journal

namespace Scope

variable {prim : Primitives} {domain : Domain} {env disposition prepare : Env} {j j' : Journal}
  {e : Event} {events : List Event} {a r : MutationRecord} {P : MutationRecord → Prop}
  {s s' : ScopeTransitionState} {room room' ids : Nat}

/-! ## Checkpoints -/

/-- All checkpoints of the domain have the property. -/
def Checkpoints (domain : Domain) (P : MutationRecord → Prop) (j : Journal) : Prop :=
  ∀ r ∈ j.records, isCheckpoint domain r = true → P r

/-- There is one checkpoint at most, it can be told from other records, and `room`
more ids can be given out. -/
structure Fits (domain : Domain) (room : Nat) (j : Journal) : Prop where
  nodup : (j.records.map (·.id)).Nodup
  below : ∀ r ∈ j.records, r.id < j.nextId
  policy : Checkpoints domain (fun r => r.policy = domain.policy) j
  unique : Checkpoints domain (fun r => Checkpoints domain (fun r' => r' = r) j) j
  room : j.nextId.toNat + room < 2 ^ 64

theorem isCheckpoint_iff :
    isCheckpoint domain r = true ↔
      r.isActive = true ∧ r.undo.backend = .Scope ∧ r.resource = domain.resource := by
  simp [isCheckpoint, and_assoc]

variable {previous : ScopeTransitionState} {target : List Bytes} {phase : Bytes}

theorem isCheckpoint_of_identity (hactive : r.isActive = true)
    (hsame : sameIdentity r (checkpointRecord domain previous target phase) = true) :
    isCheckpoint domain r = true := by
  obtain ⟨-, hbackend, hresource⟩ := sameIdentity_iff.mp hsame
  exact isCheckpoint_iff.mpr ⟨hactive, hbackend, hresource⟩

theorem identity_of_isCheckpoint (hcheckpoint : isCheckpoint domain r = true)
    (hpolicy : r.policy = domain.policy) :
    (r.isActive && sameIdentity r (checkpointRecord domain previous target phase)) = true := by
  obtain ⟨hactive, hbackend, hresource⟩ := isCheckpoint_iff.mp hcheckpoint
  rw [Bool.and_eq_true, sameIdentity_iff]
  exact ⟨hactive, hpolicy, hbackend, hresource⟩

theorem Checkpoints.congr (h : Checkpoints domain P j) (hrecords : j'.records = j.records) :
    Checkpoints domain P j' :=
  fun r hr => h r (hrecords ▸ hr)

theorem Checkpoints.mono {Q : MutationRecord → Prop} (h : Checkpoints domain P j)
    (hPQ : ∀ r, P r → Q r) : Checkpoints domain Q j :=
  fun r hr hrc => hPQ r (h r hr hrc)

theorem Fits.mono (h : Fits domain room' j) (hroom : room ≤ room') : Fits domain room j :=
  { h with room := by have := h.room; omega }

theorem Fits.congr (h : Fits domain room j) (hrecords : j'.records = j.records)
    (hnextId : j'.nextId = j.nextId) : Fits domain room j' where
  nodup := hrecords ▸ h.nodup
  below := by
    rw [hrecords, hnextId]
    exact h.below
  policy := fun r hr => h.policy r (hrecords ▸ hr)
  unique := fun r hr hrc r' hr' => h.unique r (hrecords ▸ hr) hrc r' (hrecords ▸ hr')
  room := hnextId ▸ h.room

/-- Other records may change at will, as long as their ids stay distinct. -/
theorem Fits.of_others (h : Fits domain room' j) (hnodup : (j'.records.map (·.id)).Nodup)
    (hbelow : ∀ r ∈ j'.records, r.id < j'.nextId) (hroom : j'.nextId.toNat + room < 2 ^ 64)
    (hothers : ∀ r, isCheckpoint domain r = true → r ∈ j'.records → r ∈ j.records) :
    Fits domain room j' where
  nodup := hnodup
  below := hbelow
  policy := fun r hr hrc => h.policy r (hothers r hrc hr) hrc
  unique := fun r hr hrc r' hr' hrc' =>
    h.unique r (hothers r hrc hr) hrc r' (hothers r' hrc' hr') hrc'
  room := hroom

/-- The checkpoint `a` is the only one. -/
theorem Fits.of_only (hnodup : (j.records.map (·.id)).Nodup)
    (hbelow : ∀ r ∈ j.records, r.id < j.nextId) (hroom : j.nextId.toNat + room < 2 ^ 64)
    (honly : Checkpoints domain (fun r => r = a) j) (hpolicy : a.policy = domain.policy) :
    Fits domain room j where
  nodup := hnodup
  below := hbelow
  policy := honly.mono fun _ hr => hr ▸ hpolicy
  unique := fun r hr hrc r' hr' hrc' => (honly r' hr' hrc').trans (honly r hr hrc).symm
  room := hroom

theorem Fits.set_ids {i : Nat} {x : MutationRecord} (h : Fits domain room j)
    (hx : j.records[i]? = some x) (hid : a.id = x.id) :
    ((j.setRecord i a).records.map (·.id)).Nodup ∧
      ∀ r ∈ (j.setRecord i a).records, r.id < j.nextId := by
  refine ⟨(map_set_of_eq hx hid).symm ▸ h.nodup, forall_mem_set h.below ?_⟩
  rw [hid]
  exact h.below x (List.mem_of_getElem? hx)

theorem Fits.setRecord {i : Nat} {x : MutationRecord} (h : Fits domain room j)
    (hx : j.records[i]? = some x) (hxc : isCheckpoint domain x = true) (hid : a.id = x.id)
    (hpolicy : a.policy = x.policy) :
    Fits domain room (j.setRecord i a) ∧
      Checkpoints domain (fun r => r = a) (j.setRecord i a) := by
  have hmem := List.mem_of_getElem? hx
  have honly : Checkpoints domain (fun r => r = a) (j.setRecord i a) := by
    intro r hr hrc
    obtain ⟨k, hk⟩ := List.mem_iff_getElem?.mp hr
    by_cases hki : i = k
    · subst hki
      obtain ⟨hlt, -⟩ := List.getElem?_eq_some_iff.mp hx
      simpa [Journal.setRecord, hlt, eq_comm] using hk
    · rw [Journal.setRecord, List.getElem?_set_ne hki] at hk
      -- another checkpoint would be `x` itself, at another place
      obtain rfl := h.unique x hmem hxc r (List.mem_of_getElem? hk) hrc
      have hid : (j.records.map (·.id))[i]? = (j.records.map (·.id))[k]? := by simp [hx, hk]
      have hlt : i < (j.records.map (·.id)).length := by
        simpa using (List.getElem?_eq_some_iff.mp hx).1
      exact absurd ((List.getElem?_inj hlt h.nodup).mp hid) hki
  obtain ⟨hnodup, hbelow⟩ := h.set_ids hx hid
  exact ⟨.of_only hnodup hbelow h.room honly (hpolicy.trans (h.policy x hmem hxc)), honly⟩

theorem Fits.append_ids (h : Fits domain (room + 1) j) (hid : a.id = j.nextId) :
    ((j.records ++ [a]).map (·.id)).Nodup ∧ (∀ r ∈ j.records ++ [a], r.id < j.nextId + 1) ∧
      (j.nextId + 1).toNat + room < 2 ^ 64 := by
  have hroom := h.room
  have hwrap : j.nextId ≠ UInt64.ofNat (2 ^ 64 - 1) := by
    intro heq
    rw [heq, UInt64.toNat_ofNat'] at hroom
    omega
  have hids : (j.records ++ [a]).map (·.id) = j.records.map (·.id) ++ [j.nextId] := by simp [hid]
  obtain ⟨hbelow, hnodup⟩ := ids_concat hwrap (List.forall_mem_map.mpr h.below) h.nodup
  rw [← hids] at hbelow hnodup
  refine ⟨hnodup, List.forall_mem_map.mp hbelow, ?_⟩
  rw [toNat_succ hwrap]
  omega

theorem Fits.append (h : Fits domain (room + 1) j) (hnone : Checkpoints domain (fun _ => False) j)
    (hid : a.id = j.nextId) (hpolicy : a.policy = domain.policy) :
    Fits domain room { j with records := j.records ++ [a], nextId := j.nextId + 1 } ∧
      Checkpoints domain (fun r => r = a)
        { j with records := j.records ++ [a], nextId := j.nextId + 1 } := by
  have honly : Checkpoints domain (fun r => r = a)
      { j with records := j.records ++ [a], nextId := j.nextId + 1 } := by
    intro r hr hrc
    rcases List.mem_append.mp hr with hr | hr
    · exact absurd hrc fun hrc => hnone r hr hrc
    · exact List.mem_singleton.mp hr
  obtain ⟨hnodup, hbelow, hroom⟩ := h.append_ids hid
  exact ⟨.of_only hnodup hbelow hroom honly hpolicy, honly⟩

/-! ## Writing a checkpoint -/

def Shows (previous : ScopeTransitionState) (target : List Bytes) (phase : Bytes)
    (status : MutationStatus) (r : MutationRecord) : Prop :=
  r.status = status ∧
    r.undo.payload = .ScopeCheckpoint
      { committedScope := previous.committed, targetScope := target, phase }

/-- An operation leaves the records alone and fails, or leaves one checkpoint
with the property. -/
structure Leaves (domain : Domain) (room : Nat) (P : MutationRecord → Prop) (j : Journal)
    (outcome : Outcome) : Prop where
  fits : Fits domain room outcome.1
  records : outcome.1.records = j.records ∧ outcome.2.isSuccess = false ∨
    Checkpoints domain P outcome.1

section Writing

variable {previous : ScopeTransitionState} {target : List Bytes} {phase message : Bytes}
  {status : MutationStatus}

theorem leaves_of_attempt {staged written : Journal → Prop} {f : PersistOutcome → Outcome}
    (h : Fits domain room j) (hf : Attempt j staged written f)
    (hstaged : ∀ next, staged next → Fits domain room next ∧ Checkpoints domain P next)
    (hwritten : ∀ next, written next → Fits domain room next ∧ Checkpoints domain P next)
    (w : PersistOutcome) : Leaves domain room P j (f w) := by
  rcases hf.outcome w with ⟨hj, hfailed⟩ | ⟨next, hnext, heq⟩ | ⟨next, hnext, hkept⟩
  · exact ⟨hj.symm ▸ h, .inl ⟨by rw [hj], hfailed⟩⟩
  · rw [heq]
    exact ⟨(hstaged next hnext).1, .inr (hstaged next hnext).2⟩
  · obtain ⟨hfits, hcheckpoints⟩ := hwritten next hnext
    exact ⟨hfits.congr hkept.records hkept.nextId, .inr (hcheckpoints.congr hkept.records)⟩

theorem prepareMutation_leaves (h : Fits domain (room + 1) j) :
    Leaves domain room (Shows previous target phase .Prepared) j
      (j.prepareMutation prim env (checkpointRecord domain previous target phase)) := by
  generalize hrecord : checkpointRecord domain previous target phase = record
  have hattempt : (RetriesSsh record j ∧ _) ∨
      Attempt j (fun _ => False) (PrepareChange prim env false record j)
        fun w => j.prepareMutationImpl prim { env with write := w } false record :=
    prepareMutationImpl_attempt
  rcases hattempt with ⟨⟨e, -, -, -, hretry⟩, -⟩ | hattempt
  · simp [isSshRetry, ← hrecord, checkpointRecord] at hretry
  · have hsame : Fits domain room j := h.mono (by omega)
    refine leaves_of_attempt hsame hattempt (fun next hnext => hnext.elim) ?_ env.write
    intro next hnext
    cases hnext with
    | @refresh i existing _ found active same _ _ =>
      have hcheckpoint := isCheckpoint_of_identity active (hrecord ▸ same)
      have hshows : Shows previous target phase .Prepared (refreshed env existing record) := by
        subst hrecord
        exact ⟨rfl, rfl⟩
      obtain ⟨hfits, honly⟩ :=
        hsame.setRecord (a := refreshed env existing record) found hcheckpoint rfl rfl
      exact ⟨hfits, honly.mono fun r hr => hr ▸ hshows⟩
    | append _ unmatched =>
      have hnone : Checkpoints domain (fun _ => False) j := by
        intro r hr hrc
        have hmatch := unmatched r hr
        rw [← hrecord, identity_of_isCheckpoint hrc (h.policy r hr hrc)] at hmatch
        cases hmatch
      have hshows : Shows previous target phase .Prepared (fresh env j.nextId record) := by
        subst hrecord
        exact ⟨rfl, rfl⟩
      have hpolicy : (fresh env j.nextId record).policy = domain.policy := by
        subst hrecord
        rfl
      obtain ⟨hfits, honly⟩ := h.append hnone rfl hpolicy
      exact ⟨hfits, honly.mono fun r hr => hr ▸ hshows⟩

/-- The status of the checkpoint that has just been written. -/
theorem setStatusWithMessage_leaves {id : UInt64} (h : Fits domain room j) (hr : r ∈ j.records)
    (hrc : isCheckpoint domain r = true) (hid : r.id = id)
    (hshows : Shows previous target phase .Prepared r) :
    Leaves domain room (Shows previous target phase status) j
      (j.setStatusWithMessage prim env id status message) := by
  -- the record of that id is the checkpoint
  have hfound : ∀ i found, j.find id = some (i, found) → j.records[i]? = some r ∧ found = r := by
    intro i found hfind
    obtain ⟨k, hk⟩ := List.mem_iff_getElem?.mp hr
    have hsame := find_of_nodup h.nodup hk
    rw [hid, hfind] at hsame
    obtain ⟨rfl, rfl⟩ := Prod.mk.inj (Option.some.inj hsame)
    exact ⟨hk, rfl⟩
  have hchanged : ∀ i text now, j.records[i]? = some r →
      Fits domain room (j.setRecord i
        { withStatus status r with error := text, updatedAtEpoch := now }) ∧
      Checkpoints domain (Shows previous target phase status) (j.setRecord i
        { withStatus status r with error := text, updatedAtEpoch := now }) := by
    intro i text now hi
    have hshown : Shows previous target phase status
        { withStatus status r with error := text, updatedAtEpoch := now } := by
      refine ⟨rfl, ?_⟩
      simp [withStatus, hshows.2]
    obtain ⟨hfits, honly⟩ := h.setRecord
      (a := { withStatus status r with error := text, updatedAtEpoch := now }) hi hrc rfl rfl
    exact ⟨hfits, honly.mono fun a ha => ha ▸ hshown⟩
  refine leaves_of_attempt h setStatusWithMessage_attempt ?_ ?_ env.write
  · intro next hnext
    cases hnext with
    | mk hfind throws =>
      obtain ⟨hi, rfl⟩ := hfound _ _ hfind
      exact hchanged _ (withStatus status _).error (withStatus status _).updatedAtEpoch hi
  · intro next hnext
    cases hnext with
    | mk hfind admitted checked =>
      obtain ⟨hi, rfl⟩ := hfound _ _ hfind
      exact hchanged _ message env.now hi

/-- A checkpoint with its status: nothing happens, or it is left unresolved, or
it has the status. -/
structure Closes (domain : Domain) (room : Nat) (previous : ScopeTransitionState)
    (target : List Bytes) (phase : Bytes) (status : MutationStatus) (j : Journal)
    (outcome : Outcome) : Prop where
  fits : Fits domain room outcome.1
  cases :
    outcome.1.records = j.records ∧ outcome.2.isSuccess = false ∨
      Checkpoints domain (Shows previous target phase .Prepared) outcome.1 ∧
        outcome.2.isSuccess = false ∨
      Checkpoints domain (Shows previous target phase status) outcome.1

theorem closeCheckpoint_closes (h : Fits domain (room + 1) j) :
    Closes domain room previous target phase status j
      (closeCheckpoint prim prepare disposition (checkpointRecord domain previous target phase)
        status message j) := by
  have hprepared : Leaves domain room (Shows previous target phase .Prepared) j
      (j.prepareMutation prim prepare (checkpointRecord domain previous target phase)) :=
    prepareMutation_leaves h
  unfold closeCheckpoint
  split
  · rename_i j' id hprepare
    rw [hprepare] at hprepared
    obtain ⟨r, hr, hid, hractive, hsame⟩ := prepareMutation_success (congrArg Prod.snd hprepare)
    rw [hprepare] at hr
    rcases hprepared.records with ⟨-, hfailed⟩ | hshown
    · cases hfailed
    · have hrc := isCheckpoint_of_identity hractive hsame
      have hstatus : Leaves domain room (Shows previous target phase status) j'
          (j'.setStatusWithMessage prim disposition id status message) :=
        setStatusWithMessage_leaves hprepared.fits hr hrc hid (hshown r hr hrc)
      refine ⟨hstatus.fits, .inr ?_⟩
      rcases hstatus.records with ⟨hrecords, hfailed⟩ | hdone
      · exact .inl ⟨hshown.congr hrecords, hfailed⟩
      · exact .inr hdone
  · rename_i j' reply hreply hprepare
    rw [hprepare] at hprepared
    have hfailed : reply.isSuccess = false := by
      cases reply with
      | success id => exact absurd rfl (hreply id)
      | _ => rfl
    refine ⟨hprepared.fits, ?_⟩
    rcases hprepared.records with ⟨hrecords, -⟩ | hshown
    · exact .inl ⟨hrecords, hfailed⟩
    · exact .inr (.inl ⟨hshown, hfailed⟩)

end Writing

/-! ## Reading the state -/

/-- The state that a checkpoint shows. -/
structure ReadFrom (domain : Domain) (r : MutationRecord) (s : ScopeTransitionState) : Prop where
  checkpoint : isCheckpoint domain r = true
  id : s.id = r.id
  committed : s.phase = lit "committed" →
    r.status = .Applied ∧ ∃ c, r.undo.payload = .ScopeCheckpoint c ∧ s.committed = c.targetScope

theorem applied_of_shownPhase {status : MutationStatus}
    (h : shownPhase status phase = lit "committed") : status = .Applied := by
  by_contra hne
  have hpending : lit "pending" ≠ lit "committed" := by decide
  have hfailed : lit "failed" ≠ lit "committed" := by decide
  simp only [shownPhase, if_neg hne] at h
  split_ifs at h with hphase
  · exact hfailed h
  · exact hpending h
  · exact hfailed h
  · exact hphase h

theorem readCheckpoint_cases (h : readCheckpoint domain s r = .ok s') :
    isCheckpoint domain r = false ∧ s' = s ∨ s.id = 0 ∧ ReadFrom domain r s' := by
  unfold readCheckpoint at h
  by_cases hcheckpoint : isCheckpoint domain r = true
  · by_cases hidentity : r.policy ≠ domain.policy ∨ s.id ≠ 0
    · simp [hcheckpoint, hidentity] at h
    · simp only [hcheckpoint, Bool.not_true, Bool.false_eq_true, if_false, hidentity] at h
      rw [not_or, not_not, not_not] at hidentity
      refine .inr ⟨hidentity.2, ?_⟩
      split at h
      · rename_i checkpoint hpayload
        split at h
        · cases h
        obtain rfl := Except.ok.inj h
        refine ⟨hcheckpoint, rfl, fun hphase => ?_⟩
        have happlied := applied_of_shownPhase hphase
        exact ⟨happlied, checkpoint, hpayload, if_pos happlied⟩
      · cases h
  · rw [Bool.not_eq_true] at hcheckpoint
    simp only [hcheckpoint, Bool.not_false, if_true, Except.ok.injEq] at h
    exact .inl ⟨hcheckpoint, h.symm⟩

/-- The state is that of the last checkpoint, and no other has an id. -/
theorem foldlM_readCheckpoint {records : List MutationRecord}
    (h : records.foldlM (readCheckpoint domain) s = .ok s') :
    (s' = s ∨ ∃ r ∈ records, ReadFrom domain r s') ∧
      (s'.id = 0 → s.id = 0 ∧ ∀ r ∈ records, isCheckpoint domain r = true → r.id = 0) := by
  induction records generalizing s with
  | nil =>
    injection h with h
    subst h
    simp
  | cons r records ih =>
    rw [List.foldlM_cons] at h
    obtain ⟨next, hread, hrest⟩ := except_bind_eq_ok.mp h
    obtain ⟨hfrom, hzero⟩ := ih hrest
    rcases readCheckpoint_cases hread with ⟨hother, rfl⟩ | ⟨hid, hread⟩
    · refine ⟨hfrom.imp id fun ⟨r', hr', h'⟩ => ⟨r', by simp [hr'], h'⟩, fun h0 => ?_⟩
      refine ⟨(hzero h0).1, List.forall_mem_cons.mpr ⟨fun hc => ?_, (hzero h0).2⟩⟩
      rw [hother] at hc
      cases hc
    · refine ⟨.inr ?_, fun h0 => ⟨hid, List.forall_mem_cons.mpr ⟨fun _ => ?_, (hzero h0).2⟩⟩⟩
      · rcases hfrom with rfl | ⟨r', hr', h'⟩
        · exact ⟨r, by simp, hread⟩
        · exact ⟨r', by simp [hr'], h'⟩
      · rw [← hread.id]
        exact (hzero h0).1

theorem state_eq_ok (h : state domain j = .ok s) :
    j.records.foldlM (readCheckpoint domain) {} = .ok s := by
  unfold state at h
  split_ifs at h
  exact h

/-- A committed scope is the target of an applied checkpoint. -/
theorem applied_of_requireCommitted {configured : List Bytes}
    (h : requireCommitted domain configured j = .ok ()) :
    configured ≠ [] ∧ ∃ r ∈ j.records, isCheckpoint domain r = true ∧ r.status = .Applied ∧
      r.id ≠ 0 ∧ ∃ c, r.undo.payload = .ScopeCheckpoint c ∧ c.targetScope = configured := by
  obtain ⟨s, hstate, h⟩ := except_bind_eq_ok.mp h
  simp only [except_check_eq_ok, rejectIf_eq_ok, Bool.or_eq_false_iff, decide_eq_false_iff_not,
    ne_eq, not_not, List.isEmpty_eq_false_iff] at h
  obtain ⟨hconfigured, ⟨hid, hphase⟩, hcommitted⟩ := h
  refine ⟨hconfigured, ?_⟩
  rcases (foldlM_readCheckpoint (state_eq_ok hstate)).1 with rfl | ⟨r, hr, hread⟩
  · exact absurd rfl hid
  · obtain ⟨happlied, c, hpayload, htarget⟩ := hread.committed hphase
    exact ⟨r, hr, hread.checkpoint, happlied, hread.id ▸ hid, c, hpayload,
      htarget.symm.trans hcommitted⟩

/-! ## The calls -/

/-- The stage works on other records only: it makes no checkpoint of its own, and it
takes `ids` new ids at most. -/
structure Stage.LeavesCheckpoints (domain : Domain) (ids : Nat) (stage : Stage) : Prop where
  fits : ∀ room j, Fits domain (room + ids) j → Fits domain room (stage.effect j)
  records : ∀ j r, isCheckpoint domain r = true → r ∈ (stage.effect j).records → r ∈ j.records

/-- Every stage of the call works on other records only. -/
def Call.LeavesCheckpoints (domain : Domain) (ids : Nat) : Call → Prop
  | .reconcile call =>
    ∀ stage, some stage ∈ [call.preflight, call.ensure, call.release, call.verify] →
      Stage.LeavesCheckpoints domain ids stage
  | .invalidate .. => True

/-- No checkpoint is applied. -/
def Unresolved (domain : Domain) : Journal → Prop :=
  Checkpoints domain fun r => r.status ≠ .Applied

/-- Every checkpoint that is applied now was there before. -/
def Carried (domain : Domain) (j : Journal) : Journal → Prop :=
  Checkpoints domain fun r => r.status = .Applied → r ∈ j.records

theorem Carried.of_records (h : j'.records = j.records) : Carried domain j j' := by
  intro r hr _ _
  exact h ▸ hr

theorem Unresolved.carried (h : Unresolved domain j') : Carried domain j j' :=
  h.mono fun _ hne happlied => absurd happlied hne

theorem Checkpoints.effect {stage : Stage} (h : Checkpoints domain P j)
    (hstage : Stage.LeavesCheckpoints domain ids stage) : Checkpoints domain P (stage.effect j) :=
  fun r hr hrc => h r (hstage.records j r hrc hr) hrc

section Calls

variable {previous : ScopeTransitionState} {call : ReconcileCall} {phase reason : Bytes}
  {failurePhase : FailurePhase} {answers : List Bool}

@[simp] theorem failTransition_answers :
    (failTransition prim domain call previous phase reason failurePhase answers j).answers =
      answers :=
  rfl

theorem failTransition_spec (h : Fits domain (room + 1) j) :
    Fits domain room (failTransition prim domain call previous phase reason failurePhase answers
        j).journal ∧
      ((failTransition prim domain call previous phase reason failurePhase answers
          j).journal.records = j.records ∨
        Unresolved domain (failTransition prim domain call previous phase reason failurePhase
          answers j).journal) := by
  have hcloses : Closes domain room previous call.configured phase .RollbackFailed j
      (closeCheckpoint prim call.closing call.disposition
        (checkpointRecord domain previous call.configured phase) .RollbackFailed reason j) :=
    closeCheckpoint_closes h
  refine ⟨hcloses.fits, ?_⟩
  rcases hcloses.cases with ⟨hrecords, -⟩ | ⟨hshown, -⟩ | hshown
  · exact .inl hrecords
  · exact .inr (hshown.mono fun r hr => by simp [hr.1])
  · exact .inr (hshown.mono fun r hr => by simp [hr.1])

/-- The applied checkpoint of a transition whose stages have all succeeded. -/
def CommittedBy (configured : List Bytes) (answers : List Bool) (r : MutationRecord) : Prop :=
  r.status = .Applied →
    answers = [true, true, true, true] ∧
      ∃ c, r.undo.payload = .ScopeCheckpoint c ∧ c.targetScope = configured

/-- What a transition does to the checkpoint, by how far it came. -/
structure Reconciled (domain : Domain) (room : Nat) (configured : List Bytes) (j : Journal)
    (ended : Ended) : Prop where
  fits : Fits domain room ended.journal
  early : ended.answers.length < 2 → Carried domain j ended.journal
  late : 2 ≤ ended.answers.length →
    Checkpoints domain (CommittedBy configured ended.answers) ended.journal

/-- A failure behind the second stage, of a transition that has left no checkpoint applied. -/
theorem failTransition_late {j₀ : Journal} (h : Fits domain (room + 1) j)
    (hunresolved : Unresolved domain j) (hanswers : 2 ≤ answers.length) :
    Reconciled domain room call.configured j₀
      (failTransition prim domain call previous phase reason failurePhase answers j) := by
  refine ⟨(failTransition_spec h).1, fun hearly => ?_, fun _ => ?_⟩
  · rw [failTransition_answers] at hearly
    omega
  · rcases (failTransition_spec h).2 with hsame | hnow
    · exact (hunresolved.congr hsame).mono fun r hne happlied => absurd happlied hne
    · exact hnow.mono fun r hne happlied => absurd happlied hne

theorem runStages_reconciled {j₀ : Journal} {ensure release verify : Stage}
    (h : Fits domain (room + 1 + ids + ids + ids) j) (hunresolved : Unresolved domain j)
    (hensure : ensure.LeavesCheckpoints domain ids)
    (hrelease : release.LeavesCheckpoints domain ids)
    (hverify : verify.LeavesCheckpoints domain ids) :
    Reconciled domain room call.configured j₀
      (runStages prim domain call previous ensure release verify j) := by
  have h₁ := hensure.fits _ _ h
  have hunresolved₁ := hunresolved.effect hensure
  have h₂ := hrelease.fits _ _ h₁
  have hunresolved₂ := hunresolved₁.effect hrelease
  have h₃ := hverify.fits _ _ h₂
  have hunresolved₃ := hunresolved₂.effect hverify
  unfold runStages
  cases ensure.answer with
  | false => exact failTransition_late (h₁.mono (by omega)) hunresolved₁ (by simp)
  | true =>
  cases release.answer with
  | false => exact failTransition_late (h₂.mono (by omega)) hunresolved₂ (by simp)
  | true =>
  cases verify.answer with
  | false => exact failTransition_late h₃ hunresolved₃ (by simp)
  | true =>
    have hcloses : Closes domain room previous call.configured (lit "committed") .Applied
        (verify.effect (release.effect (ensure.effect j)))
        (closeCheckpoint prim call.closing call.disposition
          (checkpointRecord domain previous call.configured (lit "committed")) .Applied []
          (verify.effect (release.effect (ensure.effect j)))) :=
      closeCheckpoint_closes h₃
    refine ⟨hcloses.fits, fun hearly => by simp at hearly, fun _ => ?_⟩
    rcases hcloses.cases with ⟨hrecords, -⟩ | ⟨hshown, -⟩ | hshown
    · exact (hunresolved₃.congr hrecords).mono fun r hne happlied => absurd happlied hne
    · exact hshown.mono fun r hr happlied => by simp [hr.1] at happlied
    · exact hshown.mono fun r hr _ => ⟨rfl, _, hr.2, rfl⟩

/-- A failure before the second stage. -/
theorem failTransition_reconciled (h : Fits domain (room + 1) j')
    (hstage : ∀ r, isCheckpoint domain r = true → r ∈ j'.records → r ∈ j.records)
    (hanswers : answers.length < 2) :
    Reconciled domain room call.configured j
      (failTransition prim domain call previous phase reason failurePhase answers j') := by
  refine ⟨(failTransition_spec h).1, fun _ => ?_, fun hlate => ?_⟩
  · rcases (failTransition_spec h).2 with hrecords | hunresolved
    · intro r hr hrc _
      exact hstage r hrc (hrecords ▸ hr)
    · exact hunresolved.carried
  · rw [failTransition_answers] at hlate
    omega

theorem reconcile_spec (h : Fits domain (room + (4 * ids + 2)) j)
    (hcall : (Call.reconcile call).LeavesCheckpoints domain ids) :
    Reconciled domain room call.configured j (reconcile prim domain call j) := by
  have hsame : ∀ ended : Ended, ended.journal = j → ended.answers = [] →
      Reconciled domain room call.configured j ended := by
    intro ended hjournal hanswers
    refine ⟨hjournal ▸ h.mono (by omega), fun _ => .of_records (by rw [hjournal]), fun hlate => ?_⟩
    simp [hanswers] at hlate
  unfold reconcile
  cases hstate : state domain j with
  | error error => exact hsame _ rfl rfl
  | ok previous =>
    dsimp only
    split
    · rename_i preflight ensure release verify hpreflight hensure hrelease hverify
      have hstage : ∀ stage, some stage = some preflight ∨ some stage = some ensure ∨
          some stage = some release ∨ some stage = some verify →
          Stage.LeavesCheckpoints domain ids stage := by
        intro stage hmem
        refine hcall stage ?_
        simpa [hpreflight, hensure, hrelease, hverify] using hmem
      have hfirst := hstage preflight (.inl rfl)
      have hchecked : Fits domain (room + 1 + ids + ids + ids + 1) (preflight.effect j) :=
        hfirst.fits _ _ (h.mono (by omega))
      by_cases hempty : call.configured.isEmpty = true
      · rw [if_pos hempty]
        exact failTransition_reconciled (h.mono (by omega)) (fun _ _ hr => hr) (by simp)
      · rw [if_neg hempty]
        cases preflight.answer with
        | false =>
          exact failTransition_reconciled (hchecked.mono (by omega)) (hfirst.records j) (by simp)
        | true =>
          have hpending : Leaves domain (room + 1 + ids + ids + ids)
              (Shows previous call.configured (lit "pending") .Prepared) (preflight.effect j)
              ((preflight.effect j).prepareMutation prim call.pending
                (checkpointRecord domain previous call.configured (lit "pending"))) :=
            prepareMutation_leaves hchecked
          simp only [Bool.not_true, Bool.false_eq_true, if_false]
          split
          · rename_i j' id hprepare
            rw [hprepare] at hpending
            rcases hpending.records with ⟨-, hfailed⟩ | hshown
            · cases hfailed
            · have hunresolved : Unresolved domain j' := hshown.mono fun r hr => by simp [hr.1]
              exact runStages_reconciled hpending.fits hunresolved (hstage ensure (by simp))
                (hstage release (by simp)) (hstage verify (by simp))
          · rename_i j' reply hreply hprepare
            rw [hprepare] at hpending
            refine ⟨hpending.fits.mono (by omega), fun _ => ?_, fun hlate => by simp at hlate⟩
            rcases hpending.records with ⟨hrecords, -⟩ | hshown
            · intro r hr hrc _
              exact hfirst.records j r hrc (hrecords ▸ hr)
            · exact Unresolved.carried (hshown.mono fun r hr => by simp [hr.1])
    · exact hsame _ rfl rfl

theorem invalidate_spec (h : Fits domain (room + 1) j) :
    Fits domain room (invalidate prim domain reason prepare disposition j).journal ∧
      Carried domain j (invalidate prim domain reason prepare disposition j).journal ∧
      ((invalidate prim domain reason prepare disposition j).verdict = .succeeded →
        Checkpoints domain (fun r => r.status = .Applied → r.id = 0)
          (invalidate prim domain reason prepare disposition j).journal) := by
  unfold invalidate
  cases hstate : state domain j with
  | error error => exact ⟨h.mono (by omega), .of_records rfl, fun hok => by simp at hok⟩
  | ok previous =>
    dsimp only
    by_cases hid : previous.id = 0
    · rw [if_pos hid]
      refine ⟨h.mono (by omega), .of_records rfl, fun _ r hr hrc _ => ?_⟩
      exact ((foldlM_readCheckpoint (state_eq_ok hstate)).2 hid).2 r hr hrc
    · rw [if_neg hid]
      have hcloses : Closes domain room previous previous.target (lit "partial") .RollbackFailed j
          (closeCheckpoint prim prepare disposition
            (checkpointRecord domain previous previous.target (lit "partial")) .RollbackFailed
            reason j) :=
        closeCheckpoint_closes h
      have hnot : ∀ reply : Reply, reply.isSuccess = false → replyVerdict reply ≠ .succeeded := by
        intro reply hfailed
        cases reply <;> simp_all [replyVerdict, Reply.isSuccess]
      refine ⟨hcloses.fits, ?_, fun hok => ?_⟩
      · rcases hcloses.cases with ⟨hrecords, -⟩ | ⟨hshown, -⟩ | hshown
        · exact .of_records hrecords
        · exact Unresolved.carried (hshown.mono fun r hr => by simp [hr.1])
        · exact Unresolved.carried (hshown.mono fun r hr => by simp [hr.1])
      · rcases hcloses.cases with ⟨-, hfailed⟩ | ⟨-, hfailed⟩ | hshown
        · exact absurd hok (hnot _ hfailed)
        · exact absurd hok (hnot _ hfailed)
        · exact hshown.mono fun r hr happlied => by simp [hr.1] at happlied

end Calls

/-! ## Runs -/

/-- The last transition that ran its second stage is one to this scope, with all
four stages successful, and nothing has withdrawn it. -/
def Proven (scope : List Bytes) (events : List Event) : Prop :=
  ∃ before after, events = before ++ .reconciled scope [true, true, true, true] :: after ∧
    ∀ e ∈ after, e.startedEnsure = false ∧ e ≠ .invalidated true

theorem Proven.concat {scope : List Bytes} (h : Proven scope events)
    (hensure : e.startedEnsure = false) (hvalid : e ≠ .invalidated true) :
    Proven scope (events ++ [e]) := by
  obtain ⟨before, after, rfl, hafter⟩ := h
  exact ⟨before, after ++ [e], by simp,
    List.forall_mem_append.mpr ⟨hafter, List.forall_mem_singleton.mpr ⟨hensure, hvalid⟩⟩⟩

/-- Every applied checkpoint has its proof in what happened. -/
def Justified (domain : Domain) (events : List Event) : Journal → Prop :=
  Checkpoints domain fun r => r.status = .Applied → r.id ≠ 0 →
    ∃ c, r.undo.payload = .ScopeCheckpoint c ∧ Proven c.targetScope events

theorem Justified.carry (h : Justified domain events j) (hcarried : Carried domain j j')
    (hensure : e.startedEnsure = false) (hvalid : e ≠ .invalidated true) :
    Justified domain (events ++ [e]) j' := by
  intro r hr hrc happlied hid
  obtain ⟨c, hpayload, hproven⟩ := h r (hcarried r hr hrc happlied) hrc happlied hid
  exact ⟨c, hpayload, hproven.concat hensure hvalid⟩

theorem runCall_justified {call : Call} (h : Fits domain (room + (4 * ids + 2)) j)
    (hjustified : Justified domain events j) (hcall : call.LeavesCheckpoints domain ids) :
    Fits domain room (runCall prim domain j call).1 ∧
      Justified domain (events ++ [(runCall prim domain j call).2])
        (runCall prim domain j call).1 := by
  cases call with
  | reconcile call =>
    have hspec : Reconciled domain room call.configured j (reconcile prim domain call j) :=
      reconcile_spec h hcall
    refine ⟨hspec.fits, ?_⟩
    by_cases hlength : 2 ≤ (reconcile prim domain call j).answers.length
    · intro r hr hrc happlied _
      obtain ⟨hanswers, c, hpayload, htarget⟩ := hspec.late hlength r hr hrc happlied
      refine ⟨c, hpayload, events, [], ?_, by simp⟩
      simp [runCall, hanswers, htarget]
    · refine hjustified.carry (hspec.early (by omega)) ?_ (by simp [runCall])
      simpa [runCall, Event.startedEnsure] using hlength
  | invalidate reason prepare disposition =>
    have hroom : Fits domain (room + 1) j := h.mono (by omega)
    refine ⟨(invalidate_spec hroom).1, ?_⟩
    by_cases hok : (invalidate prim domain reason prepare disposition j).verdict = .succeeded
    · intro r hr hrc happlied hid
      exact absurd ((invalidate_spec hroom).2.2 hok r hr hrc happlied) hid
    · exact hjustified.carry (invalidate_spec hroom).2.1 rfl (by simp [runCall, hok])

theorem runCalls_justified {calls : List Call}
    (h : Fits domain (calls.length * (4 * ids + 2)) j) (hjustified : Justified domain events j)
    (hcalls : ∀ call ∈ calls, call.LeavesCheckpoints domain ids) :
    Justified domain (events ++ (runCalls prim domain calls j).2)
      (runCalls prim domain calls j).1 := by
  induction calls generalizing j events with
  | nil => simpa [runCalls] using hjustified
  | cons call calls ih =>
    obtain ⟨hcall, hrest⟩ := List.forall_mem_cons.mp hcalls
    rw [List.length_cons, Nat.succ_mul] at h
    obtain ⟨hfits, hstep⟩ := runCall_justified h hjustified hcall
    simpa [runCalls] using ih hfits hstep hrest

/-- A committed scope is a proof: the last transition that ran its second stage
was one to exactly this scope, all its stages succeeded, and no invalidation has
succeeded since.  Besides the ids of the stages a transition takes two at most. -/
theorem requireCommitted_proven (prim : Primitives) (domain : Domain) (calls : List Call)
    (configured : List Bytes) (ids : Nat) (j : Journal)
    (hfits : Fits domain (calls.length * (4 * ids + 2)) j) (hinitial : Unresolved domain j)
    (hcalls : ∀ call ∈ calls, call.LeavesCheckpoints domain ids)
    (hcommitted : requireCommitted domain configured (runCalls prim domain calls j).1 = .ok ()) :
    configured ≠ [] ∧ Proven configured (runCalls prim domain calls j).2 := by
  have hjustified : Justified domain [] j :=
    hinitial.mono fun r hne happlied => absurd happlied hne
  obtain ⟨hconfigured, r, hr, hrc, happlied, hid, c, hpayload, rfl⟩ :=
    applied_of_requireCommitted hcommitted
  obtain ⟨c', hpayload', hproven⟩ :=
    runCalls_justified hfits hjustified hcalls r hr hrc happlied hid
  rw [hpayload] at hpayload'
  obtain rfl : c = c' := by simpa using hpayload'
  exact ⟨hconfigured, by simpa using hproven⟩

/-! ## The journal of a load -/

theorem policy_of_loaded (h : RecordLoaded prim r) (hrc : isCheckpoint domain r = true) :
    r.policy = domain.policy := by
  obtain ⟨-, hbackend, hresource⟩ := isCheckpoint_iff.mp hrc
  obtain ⟨namesPam, hidentity⟩ := h.identity
  obtain ⟨hscope, -⟩ := except_check_eq_ok.mp hidentity
  have hisScope : r.identified.isScope = true := by
    unfold MutationRecord.isScope
    split
    · rfl
    · exact decide_eq_true hbackend
  rw [checkIf, if_pos hisScope, validScopeRecord] at hscope
  split at hscope
  · by_contra hne
    have hother : r.policy ≠ scopePolicy (r.resource = lit "scope/dm") := by
      rw [hresource]
      cases domain <;> exact hne
    rw [if_pos (.inr (.inl hother))] at hscope
    cases hscope
  · cases hscope

/-- A loaded journal fits as long as its counter has room. -/
theorem fits_of_load {before : Journal} {load : LoadEnv} {missing : MissingJournalPolicy}
    (h : before.loadImpl prim load missing = (j, .loaded))
    (hroom : j.nextId.toNat + room < 2 ^ 64) : Fits domain room j := by
  obtain ⟨hloaded, hbelow, hnodup, hapart⟩ := decoded_iff.mp (loadImpl_loaded h)
  have hpolicy : Checkpoints domain (fun r => r.policy = domain.policy) j :=
    fun r hr hrc => policy_of_loaded (hloaded r hr) hrc
  refine ⟨hnodup, hbelow, hpolicy, fun r hr hrc r' hr' hrc' => ?_, hroom⟩
  obtain ⟨i, hi⟩ := List.mem_iff_getElem?.mp hr
  obtain ⟨k, hk⟩ := List.mem_iff_getElem?.mp hr'
  by_cases hki : k = i
  · subst hki
    exact Option.some.inj (hk.symm.trans hi)
  · -- two checkpoints would be two active records of one identity
    obtain ⟨hactive, hbackend, hresource⟩ := isCheckpoint_iff.mp hrc
    obtain ⟨hactive', hbackend', hresource'⟩ := isCheckpoint_iff.mp hrc'
    refine absurd ⟨hactive', hactive, ?_⟩ (pairwise_getElem? Apart.symm hapart hi hk hki).identity
    exact sameIdentity_iff.mpr ⟨(hpolicy r' hr' hrc').trans (hpolicy r hr hrc).symm,
      hbackend'.trans hbackend.symm, hresource'.trans hresource.symm⟩

/-! ## Stages that prepare mutations -/

section Stages

variable {record : MutationRecord} {next : Journal} (hbackend : record.undo.backend ≠ .Scope)
include hbackend

theorem others_of_change (change : PrepareChange prim env false record j next)
    (hrc : isCheckpoint domain r = true) (hr : r ∈ next.records) : r ∈ j.records := by
  have hother : r.undo ≠ record.undo := fun heq =>
    hbackend (heq ▸ (isCheckpoint_iff.mp hrc).2.1)
  cases change with
  | refresh =>
    rcases List.mem_or_eq_of_mem_set hr with hr | rfl
    · exact hr
    · exact absurd rfl hother
  | append =>
    rcases List.mem_append.mp hr with hr | hr
    · exact hr
    · exact absurd (List.mem_singleton.mp hr ▸ rfl) hother

theorem Fits.of_change (h : Fits domain (room + 1) j)
    (change : PrepareChange prim env false record j next) : Fits domain room next := by
  have hothers : ∀ r, isCheckpoint domain r = true → r ∈ next.records → r ∈ j.records :=
    fun r => others_of_change hbackend change
  cases change with
  | @refresh i existing _ found =>
    obtain ⟨hnodup, hbelow⟩ := h.set_ids (a := refreshed env existing record) found rfl
    exact h.of_others hnodup hbelow (h.mono (by omega) : Fits domain room j).room hothers
  | append =>
    obtain ⟨hnodup, hbelow, hroom⟩ := h.append_ids (a := fresh env j.nextId record) rfl
    exact h.of_others hnodup hbelow hroom hothers

/-- A stage that prepares a mutation of another backend leaves the checkpoints
alone. -/
theorem leavesCheckpoints_prepareMutation {stage : Stage}
    (heffect : ∀ j, stage.effect j = (j.prepareMutation prim env record).1) :
    stage.LeavesCheckpoints domain 1 where
  fits := by
    intro room j h
    obtain ⟨next, hnext, hrecords, hnextId⟩ := prepareMutation_changes prim env record j
    rw [heffect]
    refine Fits.congr ?_ hrecords hnextId
    rcases hnext with rfl | change
    · exact h.mono (by omega)
    · exact h.of_change hbackend change
  records := by
    intro j r hrc hr
    obtain ⟨next, hnext, hrecords, -⟩ := prepareMutation_changes prim env record j
    rw [heffect, hrecords] at hr
    rcases hnext with rfl | change
    · exact hr
    · exact others_of_change hbackend change hrc hr

end Stages

/-- A mutation of the firewall that a stage prepares. -/
def samplePrepared : MutationRecord :=
  { policy := { moduleName := lit "NET", submoduleName := lit "Firewall", policyName := lit "drop" }
    resource := lit "drop"
    undo :=
      { backend := .Firewall, payload := .RemoveFirewallPolicy { policyName := lit "drop" } } }

/-- Every stage succeeds and prepares a mutation. -/
def sampleStage : Stage :=
  { answer := true
    effect := fun j => (j.prepareMutation samplePrimitives ⟨1, .Persisted⟩ samplePrepared).1 }

/-- A transition to one desktop in which everything goes well. -/
def sampleTransition : Call :=
  .reconcile
    { configured := [lit "GNOME"]
      preflight := some sampleStage
      ensure := some sampleStage
      release := some sampleStage
      verify := some sampleStage
      pending := { now := 1, write := .Persisted }
      closing := { now := 2, write := .Persisted }
      disposition := { now := 3, write := .Persisted } }

/-- The journal behind the transition. -/
def sampleRun : Journal × List Event :=
  runCalls samplePrimitives .Desktop [sampleTransition] { loaded := true }

theorem requireCommitted_sampleTransition :
    sampleRun.1.records.map (·.undo.backend) = [.Firewall, .Scope] ∧
      requireCommitted .Desktop [lit "GNOME"] sampleRun.1 = .ok () ∧
      Proven [lit "GNOME"] sampleRun.2 := by
  have hload : ({} : Journal).loadImpl samplePrimitives ⟨[], .missing, .ok ()⟩ .AllowFreshEmpty =
      ({ loaded := true }, .loaded) := rfl
  have hfits : Fits .Desktop 6 { loaded := true } := fits_of_load hload (by decide)
  have hstages : ∀ call ∈ [sampleTransition], call.LeavesCheckpoints .Desktop 1 := by
    intro call hcall
    rw [List.mem_singleton.mp hcall]
    intro stage hstage
    obtain rfl : stage = sampleStage := by simpa using hstage
    exact leavesCheckpoints_prepareMutation (by decide) fun _ => rfl
  have hcommitted : requireCommitted .Desktop [lit "GNOME"] sampleRun.1 = .ok () := by
    rfl
  exact ⟨by rfl, hcommitted, (requireCommitted_proven samplePrimitives .Desktop [sampleTransition]
    [lit "GNOME"] 1 { loaded := true } hfits (fun _ hr => by simp at hr) hstages hcommitted).2⟩

end Scope

end Fic.Journal
