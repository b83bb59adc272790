import Fic.Journal.Operations.Attempt

/-!
# The change of each operation

For each operation the journals it may stage and write, with everything that was
checked on the way, and the lemma that the operation is an `Attempt` at that
change.
-/

namespace Fic.Journal

open Fic.Lib

namespace Journal

variable {prim : Primitives} {env : Env} {j : Journal} {id : UInt64}

/-! ## Preparing -/

/-- What has been checked of a mutation in front of the search for its record. -/
structure Admitted (prim : Primitives) (record : MutationRecord) (j : Journal) : Prop where
  untyped : isSssdOwnership record.undo.payload = false
  sysctl : validSysctlRecord record = .ok ()
  pam : record.undo.backend = .Pam → pamGuard record = .ok ()
  sudoers : record.undo.backend = .Sudo → sudoGuard prim j.records record = .ok ()
  lifecycle : record.undo.backend = .Pam → pamLifecycleGuard j.records record = .ok ()

theorem admitted_of_ok {sshInitial : Bool} {record : MutationRecord}
    (h : admitMutation prim sshInitial record j = .ok ()) : Admitted prim record j := by
  simp only [admitMutation, except_check_eq_ok, ofChecked_eq_ok, require_eq_ok, checkIf] at h
  obtain ⟨huntyped, -, -, hsysctl, -, -, -, -, -, -, -, -, -, -, -, -, -, hpam, hsudo, -, -,
    hlifecycle⟩ := h
  exact
    { untyped := by simpa using huntyped
      sysctl := hsysctl
      pam := fun hbackend => by simpa [hbackend] using hpam
      sudoers := fun hbackend => by simpa [hbackend] using hsudo
      lifecycle := fun hbackend => by simpa [hbackend] using hlifecycle }

/-- A prepared mutation refreshes the first active record of its identity, or is
appended where there is none. -/
inductive PrepareChange (prim : Primitives) (env : Env) (sshInitial : Bool)
    (record : MutationRecord) (j : Journal) : Journal → Prop
  | refresh {i : Nat} {existing : MutationRecord}
      (admitted : admitMutation prim sshInitial record j = .ok ())
      (found : j.records[i]? = some existing) (active : existing.isActive = true)
      (same : sameIdentity existing record = true)
      (first : ∀ k < i, ∀ e, j.records[k]? = some e →
        (e.isActive && sameIdentity e record) = false)
      (guard : refreshGuard existing record = .ok ()) :
      PrepareChange prim env sshInitial record j (j.setRecord i (refreshed env existing record))
  | append (admitted : admitMutation prim sshInitial record j = .ok ())
      (unmatched : ∀ e ∈ j.records, (e.isActive && sameIdentity e record) = false) :
      PrepareChange prim env sshInitial record j (j.append env record)

@[simp] theorem dropLast_append (record : MutationRecord) :
    (j.append env record).dropLast = j := by
  simp [append, dropLast]

@[simp] theorem isSuccess_faultReply (fault : Fault) : (faultReply fault).isSuccess = false := by
  cases fault <;> rfl

/-- The mutation is already prepared exactly as it is. -/
def RetriesSsh (record : MutationRecord) (j : Journal) : Prop :=
  ∃ e ∈ j.records, e.isActive = true ∧ sameIdentity e record = true ∧ isSshRetry e record = true

variable {staged : Journal → Prop}

theorem prepareMutationImpl_attempt {sshInitial : Bool} {record : MutationRecord} :
    (RetriesSsh record j ∧ ∃ id, ∀ w,
        j.prepareMutationImpl prim { env with write := w } sshInitial record = (j, .success id)) ∨
      Attempt j staged (PrepareChange prim env sshInitial record j)
        fun w => j.prepareMutationImpl prim { env with write := w } sshInitial record := by
  unfold prepareMutationImpl
  cases hadmit : admitMutation prim sshInitial record j with
  | error fault => exact .inr (.refused (isSuccess_faultReply fault))
  | ok =>
    simp only [refuseWith]
    cases hfind : j.records.findIdx? fun e => e.isActive && sameIdentity e record with
    | none =>
      have unmatched := List.findIdx?_eq_none_iff.mp hfind
      exact .inr (.commit env j.nextId dropLast _ (.append hadmit unmatched)
        (dropLast_append record) fun _ => rfl)
    | some i =>
      obtain ⟨hlt, hmatch, hbefore⟩ := List.findIdx?_eq_some_iff_getElem.mp hfind
      have found : j.records[i]? = some j.records[i] := List.getElem?_eq_getElem hlt
      rw [Bool.and_eq_true] at hmatch
      simp only [found]
      cases hretry : isSshRetry j.records[i] record with
      | true =>
        refine .inl ⟨⟨_, List.getElem_mem hlt, hmatch.1, hmatch.2, hretry⟩, j.records[i].id, ?_⟩
        simp
      | false =>
        refine .inr (.refuseWith isSuccess_faultReply fun guard => ?_)
        refine .commit env j.records[i].id (·.setRecord i j.records[i]) _
          (.refresh hadmit found hmatch.1 hmatch.2 ?_ guard)
          (by rw [setRecord_setRecord, setRecord_self found]) fun _ => rfl
        intro k hk e he
        have hklt : k < j.records.length := by omega
        rw [List.getElem?_eq_getElem hklt] at he
        simpa [← Option.some.inj he] using hbefore k hk

/-- A call leaves the ids and the records alone, or leaves its change behind. -/
theorem prepareMutation_changes (prim : Primitives) (env : Env) (record : MutationRecord)
    (j : Journal) :
    ∃ next, (next = j ∨ PrepareChange prim env false record j next) ∧
      (j.prepareMutation prim env record).1.records = next.records ∧
      (j.prepareMutation prim env record).1.nextId = next.nextId := by
  rcases (prepareMutationImpl_attempt : _ ∨ Attempt j (fun _ => False)
      (PrepareChange prim env false record j)
      fun w => j.prepareMutationImpl prim { env with write := w } false record) with
    ⟨-, _, hretry⟩ | attempt
  · have hsame : (j.prepareMutation prim env record).1 = j := congrArg Prod.fst (hretry env.write)
    exact ⟨j, .inl rfl, by rw [hsame], by rw [hsame]⟩
  · rcases attempt.outcome env.write with ⟨hsame, -⟩ | ⟨_, hfalse, -⟩ | ⟨next, change, kept⟩
    · change (j.prepareMutation prim env record).1 = j at hsame
      exact ⟨j, .inl rfl, by rw [hsame], by rw [hsame]⟩
    · exact hfalse.elim
    · exact ⟨next, .inr change, kept.records, kept.nextId⟩

theorem commit_success {next : Journal} {id id' : UInt64} {undo : Journal → Journal}
    (h : (next.commit env id undo).2 = .success id') :
    id' = id ∧ (next.commit env id undo).1 = { next with file := some next.document } := by
  unfold commit persist at h ⊢
  cases hutf8 : next.document.isUtf8 <;> cases hwrite : env.write <;> simp_all

/-- The id of a prepared mutation is that of its record. -/
theorem prepareMutation_success {record : MutationRecord} {id : UInt64}
    (h : (j.prepareMutation prim env record).2 = .success id) :
    ∃ r ∈ (j.prepareMutation prim env record).1.records,
      r.id = id ∧ r.isActive = true ∧ sameIdentity r record = true := by
  unfold prepareMutation prepareMutationImpl at h ⊢
  cases hadmission : admitMutation prim false record j with
  | error fault => cases fault <;> simp [hadmission, refuseWith, faultReply] at h
  | ok =>
    simp only [hadmission, refuseWith] at h ⊢
    cases hfind : j.records.findIdx? fun e => e.isActive && sameIdentity e record with
    | none =>
      simp only [hfind] at h ⊢
      obtain ⟨rfl, hcommit⟩ := commit_success h
      refine ⟨fresh env j.nextId record, ?_, rfl, rfl, ?_⟩
      · rw [hcommit]
        simp [append]
      · exact sameIdentity_iff.mpr ⟨rfl, rfl, rfl⟩
    | some i =>
      obtain ⟨hlt, hmatch, -⟩ := List.findIdx?_eq_some_iff_getElem.mp hfind
      have found : j.records[i]? = some j.records[i] := List.getElem?_eq_getElem hlt
      rw [Bool.and_eq_true] at hmatch
      simp only [hfind, found] at h ⊢
      split_ifs at h ⊢ with hretry
      · injection h with h
        exact ⟨j.records[i], List.getElem_mem hlt, h, hmatch⟩
      · cases hguard : refreshGuard j.records[i] record with
        | error fault => cases fault <;> simp [hguard, faultReply] at h
        | ok =>
          simp only [hguard] at h ⊢
          obtain ⟨rfl, hcommit⟩ := commit_success h
          refine ⟨refreshed env j.records[i] record, ?_, rfl, rfl, ?_⟩
          · rw [hcommit]
            exact List.mem_set hlt _
          · obtain ⟨hpolicy, -, hresource⟩ := sameIdentity_iff.mp hmatch.2
            exact sameIdentity_iff.mpr ⟨hpolicy, rfl, hresource⟩

/-! ## Statuses -/

/-- The record in its new status, left behind when a validator throws. -/
inductive StatusStaged (prim : Primitives) (status : MutationStatus) (id : UInt64) (j : Journal) :
    Journal → Prop
  | mk {i : Nat} {previous : MutationRecord} {what : Bytes}
      (found : j.find id = some (i, previous))
      (throws : checkStatus prim (withStatus status previous) = .error (.thrown what)) :
      StatusStaged prim status id j (j.setRecord i (withStatus status previous))

inductive StatusChange (prim : Primitives) (env : Env) (status : MutationStatus)
    (message : Bytes) (id : UInt64) (j : Journal) : Journal → Prop
  | mk {i : Nat} {previous : MutationRecord} (found : j.find id = some (i, previous))
      (admitted : admitStatus previous = .ok ())
      (checked : checkStatus prim (withStatus status previous) = .ok ()) :
      StatusChange prim env status message id j
        (j.setRecord i
          { withStatus status previous with error := message, updatedAtEpoch := env.now })

theorem setStatusWithMessage_attempt {status : MutationStatus} {message : Bytes} :
    Attempt j (StatusStaged prim status id j) (StatusChange prim env status message id j)
      fun w => j.setStatusWithMessage prim { env with write := w } id status message := by
  refine .refuseWith (fun _ => rfl) fun _ => ?_
  cases hfind : j.find id with
  | none => exact .refused rfl
  | some found =>
    obtain ⟨i, previous⟩ := found
    have hback : ∀ r, (j.setRecord i r).setRecord i previous = j := by
      intro r
      rw [setRecord_setRecord, setRecord_self (getElem?_of_find hfind)]
    refine .refuseWith (fun _ => rfl) fun admitted => ?_
    simp only
    cases hcheck : checkStatus prim (withStatus status previous) with
    | error fault =>
      cases fault with
      | thrown what => exact .thrown _ (.mk hfind hcheck) fun _ => rfl
      | refused error => exact .quiet (.refused error) rfl fun _ => by simp only [hback]
    | ok =>
      exact .commit env id (·.setRecord i previous) _ (.mk hfind admitted hcheck) (hback _)
        fun _ => rfl

/-! ## Discarding -/

inductive DiscardChange (proven : Bool) (id : UInt64) (j : Journal) : Journal → Prop
  | mk {i : Nat} {removed : MutationRecord} (found : j.find id = some (i, removed))
      (undelegated : j.records.any (delegatesTo id) = false)
      (admitted : admitDiscard proven removed = .ok ()) :
      DiscardChange proven id j (j.eraseRecord i)

theorem insertRecord_eraseRecord {i : Nat} {removed : MutationRecord}
    (h : j.records[i]? = some removed) : (j.eraseRecord i).insertRecord i removed = j := by
  obtain ⟨hlt, hget⟩ := List.getElem?_eq_some_iff.mp h
  unfold eraseRecord insertRecord
  rw [← hget, List.insertIdx_eraseIdx_getElem hlt]

theorem discardImpl_attempt {proven : Bool} : Attempt j staged (DiscardChange proven id j)
      fun w => j.discardImpl { env with write := w } proven id := by
  unfold discardImpl
  cases hdelegated : j.records.any (delegatesTo id) with
  | true => exact .refused rfl
  | false =>
    refine .refuseWith (fun _ => rfl) fun _ => ?_
    cases hfind : j.find id with
    | none => exact .refused rfl
    | some found =>
      obtain ⟨i, removed⟩ := found
      refine .refuseWith (fun _ => rfl) fun admitted => ?_
      exact .commit env id (·.insertRecord i removed) _ (.mk hfind hdelegated admitted)
        (insertRecord_eraseRecord (getElem?_of_find hfind)) fun _ => rfl

/-! ## Typed SSH operations -/

/-- What an SSH operation decided about the record it found. -/
structure SshDecision (plan : SshPlan) (id : UInt64) (j : Journal) (i : Nat)
    (record : MutationRecord) (p : UndoRemoveSshManagedPolicy) (effect : SshEffect) : Prop where
  usable : j.usable = true
  found : j.find id = some (i, record)
  payload : sshPayload record = some p
  act : plan.act record p = .ok effect

inductive SshStaged (prim : Primitives) (plan : SshPlan) (id : UInt64) (j : Journal) :
    Journal → Prop
  | mk {i : Nat} {record changed : MutationRecord} {p : UndoRemoveSshManagedPolicy}
      {next : Journal} (decision : SshDecision plan id j i record p (.change changed))
      (staged : RecordStaged prim j i changed next) : SshStaged prim plan id j next

inductive SshChange (prim : Primitives) (env : Env) (plan : SshPlan) (id : UInt64) (j : Journal) :
    Journal → Prop
  | change {i : Nat} {record changed : MutationRecord} {p : UndoRemoveSshManagedPolicy}
      {next : Journal} (decision : SshDecision plan id j i record p (.change changed))
      (written : RecordWritten prim env j i changed next) : SshChange prim env plan id j next
  | discard {i : Nat} {record : MutationRecord} {p : UndoRemoveSshManagedPolicy} {next : Journal}
      (decision : SshDecision plan id j i record p .discard)
      (discarded : DiscardChange true id j next) : SshChange prim env plan id j next

/-- A plan keeps the id of the record. -/
def SshPlan.KeepsId (plan : SshPlan) : Prop :=
  ∀ record p changed, plan.act record p = .ok (.change changed) → changed.id = record.id

theorem runPlan_attempt {plan : SshPlan} (hplan : SshPlan.KeepsId plan) :
    Attempt j (SshStaged prim plan id j) (SshChange prim env plan id j)
      fun w => j.runPlan prim { env with write := w } id plan := by
  unfold runPlan
  by_cases hguard : (!j.usable || (plan.needsLifecycle && !j.lifecycleInitialized)) = true
  · exact .quiet (.refused plan.unhealthy) rfl fun _ => if_pos hguard
  · have husable : j.usable = true := by
      cases hu : j.usable <;> simp_all
    simp only [hguard, if_false, Bool.false_eq_true]
    unfold findSsh
    cases hfind : j.find id with
    | none => exact .refused rfl
    | some found =>
      obtain ⟨i, record⟩ := found
      simp only
      cases hpayload : sshPayload record with
      | none => exact .refused rfl
      | some p =>
        simp only [Option.map_some]
        cases hact : plan.act record p with
        | error fault => exact .refused (isSuccess_faultReply fault)
        | ok effect =>
          have decision : SshDecision plan id j i record p effect :=
            ⟨husable, hfind, hpayload, hact⟩
          cases effect with
          | discard => exact discardImpl_attempt.mono (fun _ h => h) fun _ h => .discard decision h
          | change changed =>
            have hrecord := id_of_find hfind
            refine (persistRecordChange_attempt (by rw [hrecord]; exact hfind)
              (hplan record p changed hact)).mono ?_ ?_
            · intro next staged
              exact .mk decision staged
            · intro next written
              exact .change decision written

end Journal

end Fic.Journal
