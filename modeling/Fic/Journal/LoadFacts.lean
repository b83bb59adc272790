import Fic.Journal.Codec.Soundness
import Fic.Journal.Load
import Fic.Journal.Ssh.Lifecycle

/-!
# What a load guarantees

`Decoded` is everything the loader has checked across the records it publishes,
`RecordLoaded` what it has checked of each one.  Every record a load accepts reads
back from what the journal writes of it.
-/

namespace Fic.Journal

open Fic.Lib Journal

variable {j j' : Journal} {value : Json} {env : LoadEnv} {policy : MissingJournalPolicy}
  {record : MutationRecord}

variable {prim : Primitives} {records : List MutationRecord} {nextId : UInt64}

/-! ## One record -/

structure RecordLoaded (prim : Primitives) (record : MutationRecord) : Prop where
  named : record.policy.moduleName ≠ [] ∧ record.policy.policyName ≠ []
  undo : ∃ value, deserializeUndoAction prim value = .ok record.undo
  identity : ∃ namesPam, identityChecks prim namesPam record.identified = .ok ()
  status : statusChecks prim record = .ok ()

theorem readPolicy_named :
    Yields (fun policy => policy.moduleName ≠ [] ∧ policy.policyName ≠ []) (readPolicy value) := by
  refine .bind fun _ _ => .bind fun _ _ => .bind fun _ _ => .require fun hnamed => .ok ?_
  simpa using hnamed

theorem deserializeRecord_loaded : Yields (RecordLoaded prim) (deserializeRecord prim value) := by
  refine .require fun _ => .bind fun _ _ => .bind fun policy hpolicy => .bind fun _ _ =>
    .bind fun undo hundo => .bind fun _ hidentity => .bind fun _ _ => .bind fun _ hstatus =>
      .bind fun _ _ => .bind fun _ _ => .bind fun _ _ => .ok ?_
  obtain ⟨policyValue, -, hpolicy⟩ := except_bind_eq_ok.mp hpolicy
  obtain ⟨undoValue, -, hundo⟩ := except_bind_eq_ok.mp hundo
  exact ⟨readPolicy_named policy hpolicy, ⟨undoValue, hundo⟩,
    ⟨_, ofChecked_eq_ok.mp hidentity⟩, hstatus⟩

section

variable (h : RecordLoaded prim record)

include h

theorem RecordLoaded.validSsh :
    validSshRecord prim record = .ok () := by
  obtain ⟨⟨⟩, hssh, -⟩ := except_bind_eq_ok.mp h.status
  exact hssh

theorem RecordLoaded.validSysctl :
    validSysctlRecord record = .ok () := by
  obtain ⟨⟨⟩, -, h⟩ := except_bind_eq_ok.mp h.status
  obtain ⟨⟨⟩, hsysctl, -⟩ := except_bind_eq_ok.mp h
  exact ofChecked_eq_ok.mp hsysctl

/-- What the loader reads is what its validators accept. -/
theorem RecordLoaded.accepted : LoadAccepted prim record := by
  obtain ⟨value, hundo⟩ := h.undo
  obtain ⟨namesPam, hidentity⟩ := h.identity
  have hread := deserializeUndoAction_read hundo
  exact ⟨h.named, hread.belongs, hread.checks, identityChecks_mono hidentity, h.status⟩

theorem RecordLoaded.bounds :
    readerBounds record.undo.payload = true := by
  obtain ⟨value, hundo⟩ := h.undo
  exact (deserializeUndoAction_read hundo).bounds

end

theorem recordLoaded_of_accepted (h : LoadAccepted prim record)
    (hbounds : readerBounds record.undo.payload = true) : RecordLoaded prim record :=
  ⟨h.named, ⟨_, deserializeUndoAction_serialize h hbounds⟩, ⟨true, h.identity⟩, h.status⟩

theorem LoadAccepted.pamIdentity (h : LoadAccepted prim record)
    (hbackend : record.undo.backend = .Pam) :
    checkPamIdentity true record.identified = .ok () := by
  have hidentity := h.identity
  simp only [identityChecks, except_check_eq_ok] at hidentity
  obtain ⟨-, -, -, -, -, hpam, -⟩ := hidentity
  have hbackend : record.identified.undo.backend = .Pam := hbackend
  simpa [checkIf, hbackend] using hpam

/-- The guard of the PAM records asks for what a load has checked. -/
theorem LoadAccepted.pamGuard (h : LoadAccepted prim record)
    (hbackend : record.undo.backend = .Pam) : Fic.Journal.pamGuard record = .ok () := by
  have hidentity := h.pamIdentity hbackend
  have hpayload := h.payload
  have hundo : record.identified.undo.payload = record.undo.payload := rfl
  have hsame : record.identified.isIdentityRecord = record.isIdentityRecord := rfl
  unfold checkPamIdentity at hidentity
  unfold Fic.Journal.pamGuard
  rw [hundo] at hidentity
  cases hp : record.undo.payload <;> rw [hp] at hidentity hpayload <;>
    simp_all [payloadChecks, except_check_eq_ok]

/-- A load accepts exactly the records that the validators and the bounds of the
readers accept, and each of them reads back from what the journal writes of it. -/
theorem deserializeRecord_accepts_iff (prim : Primitives) (record : MutationRecord) :
    ((∃ value, deserializeRecord prim value = .ok record) ↔
        LoadAccepted prim record ∧ readerBounds record.undo.payload = true) ∧
      ((∃ value, deserializeRecord prim value = .ok record) →
        deserializeRecord prim (serializeRecord record) = .ok record) := by
  have hread : LoadAccepted prim record ∧ readerBounds record.undo.payload = true →
      deserializeRecord prim (serializeRecord record) = .ok record :=
    fun h => deserializeRecord_serialize h.1 h.2
  have haccepts : (∃ value, deserializeRecord prim value = .ok record) →
      LoadAccepted prim record ∧ readerBounds record.undo.payload = true := by
    rintro ⟨value, hvalue⟩
    have loaded := deserializeRecord_loaded record hvalue
    exact ⟨loaded.accepted, loaded.bounds⟩
  exact ⟨⟨haccepts, fun h => ⟨_, hread h⟩⟩, fun h => hread (haccepts h)⟩

/-- A release of one setting with the snapshot of its file. -/
def sampleRelease : MutationRecord where
  id := 1
  policy := { moduleName := lit "SYSCTL", submoduleName := lit "Kernel", policyName := lit "ASLR" }
  resource := lit "kernel.randomize_va_space"
  status := .Prepared
  undo :=
    { backend := .Sysctl
      payload := .RemoveManagedSetting
        { key := lit "kernel.randomize_va_space"
          appliedValue := lit "2"
          sysctl := some
            { release := some
                { before := some { inode := 7, content := lit "x", mode := 0o644 } } } } }

theorem deserializeRecord_accepts_sampleRelease :
    LoadAccepted samplePrimitives sampleRelease ∧
      deserializeRecord samplePrimitives (serializeRecord sampleRelease) = .ok sampleRelease :=
  have hread : deserializeRecord samplePrimitives (serializeRecord sampleRelease) =
      .ok sampleRelease := rfl
  have accepts := deserializeRecord_accepts_iff samplePrimitives sampleRelease
  ⟨(accepts.1.mp ⟨_, hread⟩).1, accepts.2 ⟨_, hread⟩⟩

/-! ## All records -/

theorem firstPair_eq_none {α β : Type} {fault : α → α → Option β} {l : List α} :
    firstPair fault l = none ↔ l.Pairwise fun a b => fault a b = none := by
  induction l with
  | nil => simp [firstPair]
  | cons a l ih =>
    simp only [firstPair, List.pairwise_cons, ← ih]
    cases hfault : l.findSome? (fault a) with
    | none => simpa using fun _ => List.findSome?_eq_none_iff.mp hfault
    | some error =>
      simp only [Option.orElse_some, reduceCtorEq, false_iff, not_and]
      intro h
      rw [List.findSome?_eq_none_iff.mpr h] at hfault
      cases hfault

structure Decoded (prim : Primitives) (records : List MutationRecord) (nextId : UInt64) :
    Prop where
  loaded : ∀ r ∈ records, RecordLoaded prim r
  below : ∀ r ∈ records, r.id < nextId
  ids : records.Pairwise fun a b => duplicateId a b = none
  identities : records.Pairwise fun a b => duplicateIdentity a b = none
  containers : records.Pairwise fun a b => duplicateContainer a b = none
  suppressions : records.Pairwise fun a b => sharedSuppression a b = none

theorem deserializeRecords_loaded (items : List Json) :
    Yields (fun records => ∀ r ∈ records, RecordLoaded prim r) (deserializeRecords prim items) := by
  induction items with
  | nil => exact .ok (by simp)
  | cons item items ih =>
    unfold deserializeRecords
    cases hitem : deserializeRecord prim item with
    | error fault => cases fault <;> exact .error _
    | ok record =>
      refine .bind fun rest hrest => .ok ?_
      exact List.forall_mem_cons.mpr ⟨deserializeRecord_loaded record hitem, ih rest hrest⟩

theorem refuseFault_eq_ok {fault : Option Bytes} : refuseFault fault = .ok () ↔ fault = none := by
  cases fault <;> simp [refuseFault, refuse]

theorem decodeDocument_decoded {document : Json} :
    Yields (fun result => Decoded prim result.1 result.2) (decodeDocument prim document) := by
  refine .require fun _ => .bind fun _ _ => .require fun _ => .bind fun _ _ => .bind fun items _ =>
    .bind fun parsed hparsed => .bind fun _ hchecks => .ok ?_
  simp only [checkRecords, except_check_eq_ok, require_eq_ok] at hchecks
  obtain ⟨-, hbelow, hids, hidentities, hcontainers, hsuppressions⟩ := hchecks
  exact
    { loaded := deserializeRecords_loaded items parsed hparsed
      below := by simpa using hbelow
      ids := firstPair_eq_none.mp (refuseFault_eq_ok.mp hids)
      identities := firstPair_eq_none.mp (refuseFault_eq_ok.mp hidentities)
      containers := firstPair_eq_none.mp (refuseFault_eq_ok.mp hcontainers)
      suppressions := firstPair_eq_none.mp (refuseFault_eq_ok.mp hsuppressions) }

theorem Decoded.nodup (h : Decoded prim records nextId) : (records.map (·.id)).Nodup := by
  refine List.pairwise_map.mpr (h.ids.imp ?_)
  intro a b hab heq
  simp [duplicateId, heq] at hab

/-! ## The journal -/

/-- A load that publishes what it read, starts the empty journal of a first load, or
revokes the trust in what was published before and leaves it alone. -/
inductive FailsClosed (prim : Primitives) (env : LoadEnv) (policy : MissingJournalPolicy)
    (j : Journal) : Journal × LoadReply → Prop
  | fresh (missing : env.file = .missing) (allowed : policy = .AllowFreshEmpty)
      (first : j.loaded = false) (healthy : j.health = .Healthy) :
      FailsClosed prim env policy j
        ({ j with records := [], nextId := 1, loaded := true }, .loaded)
  | published {document : Json} {parsed : List MutationRecord} {next : UInt64}
      (read : env.file = .document (.ok document))
      (decoded : decodeDocument prim document = .ok (parsed, next)) :
      FailsClosed prim env policy j
        ({ j with records := parsed, nextId := next, loaded := true, health := .Healthy }, .loaded)
  | failed (error : Bytes) :
      FailsClosed prim env policy j ({ j with health := .Indeterminate }, .failed error)

theorem loadImpl_cases (prim : Primitives) (env : LoadEnv) (policy : MissingJournalPolicy)
    (j : Journal) :
    FailsClosed prim env policy j (j.loadImpl prim env policy) ∨
      ∃ document what, env.file = .document (.ok document) ∧
        decodeDocument prim document = .error (.thrown what) ∧
        j.loadImpl prim env policy = (j, .threw what) := by
  unfold loadImpl
  split
  case h_2 hfile =>
    unfold loadMissing
    split_ifs with hfresh
    · simp only [Bool.and_eq_true, decide_eq_true_eq, Bool.not_eq_true'] at hfresh
      exact .inl (.fresh hfile hfresh.1.1 hfresh.1.2 hfresh.2)
    · exact .inl (.failed _)
    · exact .inl (.failed _)
  case h_6 document hfile =>
    unfold loadDocument
    split
    · rename_i what hdecode
      exact .inr ⟨document, what, hfile, hdecode, rfl⟩
    · exact .inl (.failed _)
    · rename_i hdecode
      split
      · exact .inl (.failed _)
      · split
        · exact .inl (.failed _)
        · exact .inl (.published hfile hdecode)
  all_goals exact .inl (.failed _)

/-- A load publishes decoded records, or starts an empty journal. -/
theorem loadImpl_loaded (h : j.loadImpl prim env policy = (j', .loaded)) :
    Decoded prim j'.records j'.nextId := by
  have hcases := loadImpl_cases prim env policy j
  rw [h] at hcases
  rcases hcases with closed | ⟨_, _, -, -, hthrew⟩
  · cases closed with
    | fresh => exact ⟨by simp, by simp, .nil, .nil, .nil, .nil⟩
    | published _ decoded => exact decodeDocument_decoded _ decoded
  · cases hthrew

/-- A loaded journal is one the typed SSH operations can work on. -/
theorem sshWellFormed_of_load (h : j.loadImpl prim env policy = (j', .loaded)) :
    SshWellFormed prim j' where
  nodup := (loadImpl_loaded h).nodup
  valid := fun r hr => ((loadImpl_loaded h).loaded r hr).validSsh

/-! ## Loading again -/

end Fic.Journal
