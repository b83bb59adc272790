import Fic.Incident.Durable

/-!
# What a clear reports

`clear` publishes `UNLOCKED` and, when that cannot be made durable, takes it back: it writes
the previous severity again or removes the file.  Its report is right on all of these
paths (`clearFinish_reports`).  Two others are not covered.  A file that already holds
`UNLOCKED` is reported as cleared without a look at its durability, and a creation that
fails behind the new link leaves `UNLOCKED` in place of the absent file, unless its
temporary name stays as well.
-/

namespace Fic.Incident

open Fic.Lib Fic.Core
open Fic.Journal (AtomicTargetState)

variable {file file' : StoredFile}

def ProvenAt (severity : IncidentSeverity) (stored : Stored) : Prop :=
  (readResult stored).provenance = .Proven ∧ (readResult stored).severity = severity

instance (severity : IncidentSeverity) (stored : Stored) : Decidable (ProvenAt severity stored) :=
  inferInstanceAs (Decidable (_ ∧ _))

/-- What a caller of `clear` may conclude from the result. -/
structure Reports (file : StoredFile) (result : ClearResult) (file' : StoredFile) : Prop where
  cleared : result.ok = true → ProvenAt .Unlocked file'.live ∧ ProvenAt .Unlocked file'.durable
  atLeast : result.ok = false → effective file'.live ≤ result.effectiveSeverity
  known : result.ok = false → result.effectiveSeverity = .Isolate ∨
    ProvenAt result.effectiveSeverity file.live

theorem provenAt_written {state : AtomicTargetState} {target : IncidentSeverity}
    (h : state.content = serialize target) : ProvenAt target (.file state) := by
  have hread := readResult_file (h ▸ parseStrictSeverity_serialize target)
  rw [ProvenAt, hread]
  exact ⟨rfl, rfl⟩

theorem reports_isolate {result : ClearResult} (hok : result.ok = false)
    (hisolate : result.effectiveSeverity = .Isolate) : Reports file result file' where
  cleared h := by rw [hok] at h; cases h
  atLeast _ := hisolate ▸ IncidentSeverity.le_isolate _
  known _ := .inl hisolate

theorem readResult_absent {stored : Stored} (h : (readResult stored).provenance = .Absent) :
    stored = .absent := by
  cases stored with
  | absent => rfl
  | unprovable detail => cases h
  | file state =>
    simp only [readResult] at h
    split at h <;> cases h

/-! ## Behind the write -/

theorem clearBroken_reports (file : StoredFile) (installed : Option AtomicTargetState)
    (file' : StoredFile) : Free (Reports file) (clearBroken installed) file' :=
  (encode_free installed file').bind fun _ _ _ => free_done (reports_isolate rfl rfl)

section

variable (identity : StateIdentity)

include identity

theorem clearCompensate_reports (installed : AtomicTargetState) :
    Free (Reports file) (clearCompensate identity (readResult file.live) installed)
      { file with live := .file installed } := by
  unfold clearCompensate
  split_ifs with hproven
  · refine (writeLocked_alone (D := fun _ => True) identity installed _ trivial).bind
      fun restored file₁ hrestored => ?_
    refine (confirmIfInstalled_alone (D := fun _ => True) hrestored.1 hrestored.2 trivial).bind
      fun confirmed file₂ hconfirmed => ?_
    split_ifs with hdurable
    · cases hconfirmed with
      | refused hnot _ _ => rw [hnot] at hdurable; cases hdurable
      | unsynced hnot _ _ _ => rw [hnot] at hdurable; cases hdurable
      | synced _ hcontent _ _ =>
        refine free_done ⟨nofun, fun _ => ?_, fun _ => .inr ⟨hproven, rfl⟩⟩
        exact le_of_eq (effective_written hcontent)
    · exact clearBroken_reports file _ file₂
  · exact clearBroken_reports file _ _

/-- Whatever a write that installs nothing by itself leaves, the report is right. -/
theorem clearFinish_reports {written : RaiseResult}
    (h : Written file .Unlocked written file')
    (hseverity : written.persistence = .InstalledNotDurable →
      written.effectiveSeverity = .Unlocked) :
    Free (Reports file) (clearFinish identity (readResult file.live) written) file' := by
  refine (confirmIfInstalled_alone (D := fun _ => True) h hseverity trivial).bind
    fun confirmed file₁ hconfirmed => ?_
  cases hconfirmed with
  | refused hdurable hinstalled _ =>
    rw [hdurable, hinstalled]
    refine (read_alone (D := fun _ => True) trivial).bind fun after last hread => free_done ?_
    obtain ⟨rfl, rfl⟩ := hread
    refine ⟨nofun, fun _ => le_rfl, fun _ => ?_⟩
    by_cases hproven : (readResult last.live).provenance = .Proven
    · right
      show ProvenAt (if _ then _ else _) last.live
      rw [if_pos hproven]
      exact ⟨hproven, rfl⟩
    · left
      exact if_neg hproven
  | synced hdurable hcontent _ _ =>
    rw [hdurable]
    exact free_done ⟨fun _ => ⟨provenAt_written hcontent, provenAt_written hcontent⟩,
      nofun, nofun⟩
  | unsynced hdurable _ hinstalled _ =>
    rw [hdurable, hinstalled]
    exact clearCompensate_reports identity _

/-! ## The whole clear -/

/-- The two ways a report can be wrong: an `UNLOCKED` that is not durable, and a creation
that fails behind its link and then removes its temporary name. -/
def ClearSound (file : StoredFile) (faults : Nat → FileFault) : Prop :=
  (ProvenAt .Unlocked file.live → ProvenAt .Unlocked file.durable) ∧
    ¬(file.live = .absent ∧ (faults 1).refused = false ∧ (faults 1).leftBehind = true ∧
      (faults 1).doubled = none)

theorem exec_write_bind {α : Type} (state : AtomicTargetState)
    (target : IncidentSeverity) (create : Bool) (next : RaiseResult → FileProgram α)
    (faults : Nat → FileFault) (file : StoredFile) :
    fileMachine.exec ((writeLocked identity state target create).bind next) faults file =
      fileMachine.exec (next (writeOutcome target (file.writeWithResult (serialize target)
          (writeOptions identity state create) (faults 0)).1)) (fun n => faults (n + 1))
        (file.writeWithResult (serialize target) (writeOptions identity state create)
          (faults 0)).2 :=
  rfl

theorem exec_clearFinish_failed (current : ReadResult)
    {report : Report AtomicWriteResult} (h : report.result.installed = false)
    (faults : Nat → FileFault) (file : StoredFile) :
    (fileMachine.exec (clearFinish identity current (writeOutcome .Unlocked report)) faults
          file).1.ok = false ∧
      (fileMachine.exec (clearFinish identity current (writeOutcome .Unlocked report)) faults
          file).1.effectiveSeverity =
        if (readResult file.live).provenance = .Proven then (readResult file.live).severity
        else .Isolate := by
  have hconfirm : confirmIfInstalled (writeOutcome .Unlocked report) =
      return writeOutcome .Unlocked report := by
    refine if_neg fun hinstalled => ?_
    simp only [writeOutcome, h] at hinstalled
    by_cases hflagged : report.result.preconditionFailed = true <;> simp [hflagged] at hinstalled
  simp only [clearFinish, hconfirm]
  simp only [writeOutcome, h]
  exact ⟨rfl, rfl⟩

/-- A creation that fails behind its link: what is left is read again. -/
theorem exec_clear_left {faults : Nat → FileFault}
    (hlive : file.live = .absent) (hrefused : (faults 1).refused = false)
    (hleft : (faults 1).leftBehind = true) :
    (fileMachine.exec (clear identity) faults file).1.ok = false ∧
      (fileMachine.exec (clear identity) faults file).1.effectiveSeverity =
        if (faults 1).doubled = none then .Unlocked else .Isolate := by
  obtain ⟨live, durable⟩ := file
  subst hlive
  have hclear : fileMachine.exec (clear identity) faults ⟨.absent, durable⟩ =
      fileMachine.exec ((writeLocked identity (clearPrecondition identity (readResult .absent))
        .Unlocked true).bind (clearFinish identity (readResult .absent)))
        (fun n => faults (n + 1)) ⟨.absent, durable⟩ := rfl
  have hwrite (state : AtomicTargetState) :
      (⟨.absent, durable⟩ : StoredFile).writeWithResult (serialize .Unlocked)
        (writeOptions identity state true) (faults 1) =
      ({ succeeded := false, error := (faults 1).error
         result := { preconditionFailed := (faults 1).flagged } },
        ⟨StoredFile.leftover (StoredFile.published (serialize .Unlocked)
          (writeOptions identity state true) (faults 1)) (faults 1), durable⟩) := by
    simp [StoredFile.writeWithResult, StoredFile.admits, writeOptions, hrefused, hleft]
  rw [hclear, exec_write_bind, hwrite]
  refine (exec_clearFinish_failed identity _ rfl _ _).imp_right fun hseverity => hseverity.trans ?_
  unfold StoredFile.leftover
  cases (faults 1).doubled with
  | none => exact effective_written rfl
  | some detail => rfl

end

/-- Whatever fails, the report of a clear is right if and only if the clear is sound. -/
theorem clear_reports_iff (identity : StateIdentity) (file : StoredFile)
    (faults : Nat → FileFault) :
    Reports file (fileMachine.exec (clear identity) faults file).1
        (fileMachine.exec (clear identity) faults file).2 ↔ ClearSound file faults := by
  by_cases hleft : file.live = .absent ∧ (faults 1).refused = false ∧ (faults 1).leftBehind = true
  · obtain ⟨hok, hseverity⟩ := exec_clear_left identity hleft.1 hleft.2.1 hleft.2.2
    have hproven : ∀ severity, ¬ProvenAt severity file.live := by
      intro severity hproven
      rw [hleft.1] at hproven
      cases hproven.1
    by_cases hdoubled : (faults 1).doubled = none
    · rw [if_pos hdoubled] at hseverity
      refine ⟨fun h => ?_, fun h => absurd ⟨hleft.1, hleft.2.1, hleft.2.2, hdoubled⟩ h.2⟩
      rcases h.known hok with hisolate | hknown
      · rw [hseverity] at hisolate
        cases hisolate
      · exact absurd hknown (hproven _)
    · rw [if_neg hdoubled] at hseverity
      exact iff_of_true (reports_isolate hok hseverity)
        ⟨fun h => absurd h (hproven _), fun h => hdoubled h.2.2.2⟩
  have hsound : ClearSound file faults ↔
      (ProvenAt .Unlocked file.live → ProvenAt .Unlocked file.durable) :=
    ⟨fun h => h.1, fun h => ⟨h, fun h' => hleft ⟨h'.1, h'.2.1, h'.2.2.1⟩⟩⟩
  rw [hsound]
  change Reports file (fileMachine.exec (read.bind _) faults file).1
    (fileMachine.exec (read.bind _) faults file).2 ↔ _
  rw [exec_read_bind]
  by_cases hbroken : (readResult file.live).provenance = .Broken
  · rw [if_pos hbroken]
    refine ⟨fun _ hproven => ?_, fun _ => reports_isolate rfl rfl⟩
    rw [hproven.1] at hbroken
    cases hbroken
  rw [if_neg hbroken]
  by_cases hunlocked : (readResult file.live).provenance = .Proven ∧
      (readResult file.live).severity = .Unlocked
  · -- the early return: the durable copy is not looked at
    rw [if_pos hunlocked]
    refine ⟨fun h _ => (h.cleared rfl).2, fun h =>
      ⟨fun _ => ⟨hunlocked, h hunlocked⟩, nofun, nofun⟩⟩
  rw [if_neg hunlocked]
  refine iff_of_true ?_ fun h => absurd h hunlocked
  rw [Program.bind_eq, exec_write_bind]
  have hends := file.writeEnds (serialize .Unlocked) (writeOptions identity
    (clearPrecondition identity (readResult file.live))
    (decide ((readResult file.live).provenance = .Absent))) (faults 1)
  have hwritten := written_of_writeEnds (fun h => hleft ⟨?_, h.2⟩) hends
  · exact (clearFinish_reports identity hwritten writeOutcome_severity).exec _
  · exact readResult_absent (of_decide_eq_true h.1)

def hardFile : StoredFile :=
  { live := .file { mode := 0o640, content := lit "HARD\n" }
    durable := .file { mode := 0o640, content := lit "HARD\n" } }

/-- A clear of `HARD` whose barriers and compensation fail leaves `UNLOCKED` in the file and
reports `ISOLATE`; the next clear reports success, and a crash brings `HARD` back.  A creation
that fails behind its link reports `UNLOCKED` for a file that was absent. -/
theorem cleared_without_barrier :
    let start := (fileMachine.exec (clear {})
      (fun n => { unsynced := true, refused := 3 ≤ n, identity := ⟨1, 1⟩ }) hardFile).2
    let outcome := fileMachine.exec (clear {}) (fun _ => {}) start
    let created := fileMachine.exec (clear {}) (fun _ => { leftBehind := true })
      { live := .absent, durable := .absent }
    outcome.1.ok = true ∧ effective (StoredFile.restore outcome.2).live = .Hard ∧
      created.1.ok = false ∧ created.1.effectiveSeverity = .Unlocked := by
  decide +kernel

end Fic.Incident
