import Fic.Incident.Monotone

/-!
# What a crash leaves

A raise that reports a durable severity `s` promises that a crash never brings back less
than `s`.  Every call of a raise keeps such a promise (`keeps_perform`): it is about both
copies of the file, the live one and the one a crash restores.  A raise makes the promise
good on every path but one.  When it finds the requested severity in the file it writes
nothing and does not ask for a barrier, so it must start from a file whose severity is
durable (`Settled`); an earlier raise that failed may have left one that is not.
-/

namespace Fic.Incident

open Fic.Lib Fic.Core
open Fic.Journal (AtomicTargetState)

variable {severity : IncidentSeverity} {report : Report AtomicWriteResult}

/-! ## Promises -/

def Holds (severity : IncidentSeverity) (file : StoredFile) : Prop :=
  severity ≤ effective file.live ∧ severity ≤ effective file.durable

/-- Every promise that was good stays good. -/
def Keeps (file file' : StoredFile) : Prop := ∀ severity, Holds severity file → Holds severity file'

theorem keeps_perform {op : FileOp} (h : Raising op) (file : StoredFile) (fault : FileFault) :
    Keeps file (fileMachine.perform file op fault).2 := by
  intro severity hholds
  have hlive := hholds.1.trans (rises_perform h file fault)
  rcases durable_perform op file fault with hsame | hsynced
  · exact ⟨hlive, hsame ▸ hholds.2⟩
  · exact ⟨hlive, hsynced ▸ hlive⟩

/-- A program that runs alone; every call finds such a durable copy. -/
abbrev Alone {α : Type} (D : Stored → Prop) (post : α → StoredFile → Prop) (p : FileProgram α)
    (file : StoredFile) : Prop :=
  fileMachine.Safe (fun file _ => D file.durable) Eq (fun _ _ => True) post p file

variable {D : Stored → Prop} {file file' : StoredFile} {target : IncidentSeverity}
  {written : RaiseResult}

theorem alone_done {α : Type} {post : α → StoredFile → Prop} {value : α} (h : post value file) :
    Alone D post (.done value) file := by
  rintro _ rfl
  exact h

theorem alone_ask (op : FileOp) {post : op.Answer → StoredFile → Prop} (hok : D file.durable)
    (hpost : ∀ fault, post (fileMachine.perform file op fault).1
      (fileMachine.perform file op fault).2) :
    Alone D post (Program.ask op) file := by
  rintro _ rfl
  exact ⟨hok, fun fault => ⟨trivial, alone_done (hpost fault)⟩⟩

/-! ## The operations -/

theorem read_alone (hok : D file.durable) :
    Alone D (fun current last => last = file ∧ current = readResult file.live) read file := by
  have hread : Alone D (fun stored last => last = file ∧ stored = file.live)
      readSecureStateFile file := alone_ask .read hok fun _ => ⟨rfl, rfl⟩
  refine hread.bind fun stored last h => alone_done ?_
  obtain ⟨rfl, rfl⟩ := h
  exact ⟨rfl, rfl⟩

/-- The ways a conditional write of a severity ends, without or with its confirmation. -/
inductive Written (file : StoredFile) (target : IncidentSeverity) : RaiseResult → StoredFile → Prop
  | refused {written : RaiseResult} (hdurable : written.durable = false)
      (hinstalled : written.installedState = none)
      (hpersistence : written.persistence = .NotInstalled ∨ written.persistence = .Failed) :
      Written file target written file
  | synced {written : RaiseResult} {state : AtomicTargetState} (hdurable : written.durable = true)
      (hcontent : state.content = serialize target) (hseverity : written.effectiveSeverity = target)
      (hpersistence : written.persistence = .DurableConfirmed) :
      Written file target written { live := .file state, durable := .file state }
  | unsynced {written : RaiseResult} {state : AtomicTargetState}
      (hdurable : written.durable = false)
      (hcontent : state.content = serialize target)
      (hinstalled : written.installedState = some state)
      (hpersistence : written.persistence = .InstalledNotDurable) :
      Written file target written { file with live := .file state }

theorem Written.promised (h : Written file target written file') :
    written.durable = true → Holds written.effectiveSeverity file' := by
  intro hreported
  cases h with
  | refused hnot _ _ => rw [hnot] at hreported; cases hreported
  | synced _ hcontent hseverity _ =>
    rw [hseverity]
    exact ⟨ge_of_eq (effective_written hcontent), ge_of_eq (effective_written hcontent)⟩
  | unsynced hnot _ _ _ => rw [hnot] at hreported; cases hreported

theorem written_of_writeEnds {options : AtomicWriteOptions} {fault : FileFault}
    (hleft : ¬(options.exclusiveCreate = true ∧ fault.refused = false ∧ fault.leftBehind = true))
    (h : file.WriteEnds (serialize target) options fault report file') :
    Written file target (writeOutcome target report) file' := by
  cases h with
  | refused hresult =>
    unfold writeOutcome
    rw [hresult]
    cases report.result.preconditionFailed with
    | false => exact .refused rfl rfl (.inr rfl)
    | true => exact .refused rfl rfl (.inl rfl)
  | left hexclusive hrefused hbehind _ _ _ => exact absurd ⟨hexclusive, hrefused, hbehind⟩ hleft
  | doubled hexclusive hrefused hbehind _ => exact absurd ⟨hexclusive, hrefused, hbehind⟩ hleft
  | synced _ hcontent hsucceeded hresult =>
    unfold writeOutcome
    rw [hresult, hsucceeded]
    exact .synced rfl hcontent rfl rfl
  | unsynced _ hcontent hsucceeded hresult =>
    unfold writeOutcome
    rw [hresult, hsucceeded]
    exact .unsynced rfl hcontent rfl rfl

theorem writeOutcome_severity
    (h : (writeOutcome target report).persistence = .InstalledNotDurable) :
    (writeOutcome target report).effectiveSeverity = target := by
  have hinstalled := writeOutcome_durable (.inr h)
  unfold writeOutcome
  rw [hinstalled]
  split
  · next hnot => cases hnot
  · split <;> rfl

theorem writeLocked_alone (identity : StateIdentity) (state : AtomicTargetState)
    (target : IncidentSeverity) (hok : D file.durable) :
    Alone D (fun written last => Written file target written last ∧
      (written.persistence = .InstalledNotDurable → written.effectiveSeverity = target))
      (writeLocked identity state target false) file := by
  have hwrite : Alone D (fun report last => ∃ fault, file.WriteEnds (serialize target)
      (writeOptions identity state false) fault report last)
      (AtomicFileWriter.writeWithResult (serialize target)
        (writeOptions identity state false)) file :=
    alone_ask (.writeWithResult _ _) hok fun fault => ⟨fault, file.writeEnds _ _ fault⟩
  refine hwrite.bind fun report last hends => alone_done ?_
  obtain ⟨fault, hends⟩ := hends
  have hleft : ¬((writeOptions identity state false).exclusiveCreate = true ∧
      fault.refused = false ∧ fault.leftBehind = true) := fun h => Bool.false_ne_true h.1
  exact ⟨written_of_writeEnds hleft hends, writeOutcome_severity⟩

theorem confirm_alone (h : Written file target written file')
    (hseverity : written.effectiveSeverity = target)
    (hinstalled : written.persistence = .InstalledNotDurable) (hok : D file.durable) :
    Alone D (Written file target) (confirmInstalledDurability written) file' := by
  cases h with
  | refused _ _ hpersistence =>
    rw [hinstalled] at hpersistence
    rcases hpersistence with h | h <;> cases h
  | synced _ _ _ hpersistence =>
    rw [hinstalled] at hpersistence
    cases hpersistence
  | @unsynced state hdurable hcontent hstate hpersistence =>
    unfold confirmInstalledDurability
    rw [hstate]
    have hask : Alone D (fun (report : Report Unit) last =>
        (report.succeeded = false ∧ last = { file with live := .file state }) ∨
          report.succeeded = true ∧ last = { live := .file state, durable := .file state })
        (AtomicFileWriter.ensureTargetDurableIfCurrentState state)
          { file with live := .file state } :=
      alone_ask (.ensureTargetDurableIfCurrentState state) hok
        fun fault => StoredFile.ensureDurable_ends _ state fault
    refine hask.bind fun report last hends => ?_
    rcases hends with ⟨hreport, rfl⟩ | ⟨hreport, rfl⟩
    · rw [hreport]
      exact alone_done (.unsynced rfl hcontent rfl hpersistence)
    · rw [hreport]
      exact alone_done (.synced rfl hcontent hseverity rfl)

theorem confirmIfInstalled_alone (h : Written file target written file')
    (hseverity : written.persistence = .InstalledNotDurable → written.effectiveSeverity = target)
    (hok : D file.durable) :
    Alone D (Written file target) (confirmIfInstalled written) file' := by
  unfold confirmIfInstalled
  split_ifs with hinstalled
  · exact confirm_alone h (hseverity hinstalled) hinstalled hok
  · exact alone_done h

/-- A durable result whose promise is good. -/
def Promised (result : RaiseResult) (file : StoredFile) : Prop :=
  result.durable = true → Holds result.effectiveSeverity file

/-- A run whose calls are free. -/
abbrev Free {α : Type} (post : α → StoredFile → Prop) (p : FileProgram α)
    (file : StoredFile) : Prop :=
  Alone (fun _ => True) post p file

theorem free_done {α : Type} {post : α → StoredFile → Prop} {value : α}
    (h : post value file) : Free post (.done value) file := alone_done h

theorem free_failed {result : RaiseResult} (h : result.durable = false) :
    Free Promised (.done result) file :=
  free_done fun hdurable => by rw [h] at hdurable; cases hdurable

theorem absent_free (file : StoredFile) :
    Free (fun (report : Report Unit) last => report.succeeded = true → Holds .Isolate last)
      AtomicFileWriter.ensureTargetAbsentDurableIfCurrentState file := by
  refine alone_ask .ensureTargetAbsentDurableIfCurrentState trivial fun fault hsucceeded => ?_
  change (file.ensureTargetAbsentDurableIfCurrentState fault).1.succeeded = true at hsucceeded
  change Holds .Isolate (file.ensureTargetAbsentDurableIfCurrentState fault).2
  unfold StoredFile.ensureTargetAbsentDurableIfCurrentState at hsucceeded ⊢
  by_cases habsent : (decide (file.live = .absent) && !fault.refused && !fault.unsynced) = true
  · rw [if_pos habsent]
    simp only [Bool.and_eq_true, decide_eq_true_eq, Bool.not_eq_true'] at habsent
    simp only [StoredFile.sync, habsent.2, habsent.1.1]
    exact ⟨le_rfl, le_rfl⟩
  · rw [if_neg habsent] at hsucceeded
    cases hsucceeded

theorem encode_free (expected : Option AtomicTargetState) (file : StoredFile) :
    Free Promised (encodeDurableBrokenStateLocked expected) file := by
  have hread : ∀ file, Free (fun _ _ => True) read file := fun file =>
    (read_alone (D := fun _ => True) trivial).mono (fun _ _ h => h) fun _ _ _ => trivial
  have hremove : ∀ state file, Free (fun _ _ => True)
      (AtomicFileWriter.removeIfCurrentState state) file := fun state file =>
    alone_ask (.removeIfCurrentState state) trivial fun _ => trivial
  have hencode :=
    encode_safe hread hremove absent_free (fun _ _ hgood heq => heq ▸ hgood) expected file
  refine hencode.mono (fun _ _ h => h) fun result last hreached hdurable => ?_
  rw [(hreached hdurable).1]
  exact (hreached hdurable).2

/-- A severity that is found in the file is durable. -/
def Settled (requested : IncidentSeverity) (file : StoredFile) : Prop :=
  (readResult file.live).provenance = .Proven → requested ≤ (readResult file.live).severity →
    (readResult file.live).severity ≤ effective file.durable

theorem raiseLoop_free (identity : StateIdentity) (requested : IncidentSeverity) (attempts : Nat) :
    ∀ file, Settled requested file →
      Free Promised (raiseLoop identity requested attempts) file := by
  induction attempts with
  | zero => exact fun file _ => free_failed rfl
  | succ attempts ih =>
    intro file hsettled
    refine (read_alone (D := fun _ => True) trivial).bind fun current file₁ hread => ?_
    obtain ⟨rfl, rfl⟩ := hread
    by_cases hbroken : (readResult file₁.live).provenance = .Broken ∨
        (readResult file₁.live).provenance = .InvalidContent
    · rw [if_pos hbroken]
      exact free_failed rfl
    rw [if_neg hbroken]
    by_cases habsent : (readResult file₁.live).provenance = .Absent
    · rw [if_pos habsent]
      exact encode_free none file₁
    rw [if_neg habsent]
    have hproven : (readResult file₁.live).provenance = .Proven := by
      cases hprovenance : (readResult file₁.live).provenance <;> simp_all
    obtain ⟨state, hlive, hstate, hparse⟩ := readResult_proven hproven
    have hcurrent := effective_file hparse
    by_cases hsame : maxIncidentSeverity (readResult file₁.live).severity requested =
        (readResult file₁.live).severity
    · -- the early return: nothing is written
      rw [if_pos hsame]
      rw [maxIncidentSeverity_eq, max_eq_left_iff] at hsame
      refine free_done fun _ => ⟨?_, hsettled hproven hsame⟩
      show (readResult file₁.live).severity ≤ effective file₁.live
      conv_rhs => rw [hlive]
      exact ge_of_eq hcurrent
    rw [if_neg hsame, hstate, Option.getD_some, maxIncidentSeverity_eq]
    refine (writeLocked_alone (D := fun _ => True) identity state _ trivial).bind
      fun written file₂ hwritten => ?_
    obtain ⟨hwritten, hseverity⟩ := hwritten
    cases hpersistence : written.persistence with
    | DurableConfirmed => exact free_done hwritten.promised
    | InstalledNotDurable =>
      refine (confirm_alone (D := fun _ => True) hwritten
        (hseverity hpersistence) hpersistence trivial).bind
        fun confirmed file₃ hconfirmed => ?_
      split_ifs with hdurable
      · exact free_done hconfirmed.promised
      · exact encode_free _ file₃
    | NotInstalled =>
      cases hwritten with
      | refused _ _ _ => exact ih file₁ hsettled
      | synced _ _ _ hother => rw [hpersistence] at hother; cases hother
      | unsynced _ _ _ hother => rw [hpersistence] at hother; cases hother
    | Failed => exact encode_free none file₂

/-! ## Runs with crashes -/

/-- What happens to the file: a raise that returns, or a crash, between two raises or
somewhere inside one. -/
inductive Event
  | raise (requested : IncidentSeverity) (faults : Nat → FileFault)
  | crash (requested : IncidentSeverity) (faults : List FileFault)

def Event.result (identity : StateIdentity) (file : StoredFile) : Event → Option RaiseResult
  | .raise requested faults =>
      some (fileMachine.exec (raiseToAtLeast identity requested) faults file).1
  | .crash _ _ => none

def Event.after (identity : StateIdentity) (file : StoredFile) : Event → StoredFile
  | .raise requested faults => (fileMachine.exec (raiseToAtLeast identity requested) faults file).2
  | .crash requested faults =>
    StoredFile.restore (fileMachine.run (raiseToAtLeast identity requested, file) faults).2

def runEvents (identity : StateIdentity) (file : StoredFile) (events : List Event) : StoredFile :=
  events.foldl (Event.after identity) file

theorem Keeps.trans_gen (h : Relation.ReflTransGen Keeps file file') :
    Keeps file file' := by
  induction h with
  | refl => exact fun _ hholds => hholds
  | tail _ hstep ih => exact fun severity hholds => hstep severity (ih severity hholds)

/-- A raise keeps every promise, from any file and wherever it is stopped. -/
theorem raise_keeps (identity : StateIdentity) (requested : IncidentSeverity) (file : StoredFile) :
    fileMachine.Safe (fun _ op => Raising op) Eq Keeps (fun _ _ => True)
      (raiseToAtLeast identity requested) file :=
  ((raiseLoop_raised identity requested MAX_RAISE_ATTEMPTS file).alone
    fun file _ fault hop => keeps_perform hop file fault).mono (fun _ _ h => h) fun _ _ _ => trivial

theorem holds_after (identity : StateIdentity) (h : Holds severity file)
    (event : Event) : Holds severity (event.after identity file) := by
  cases event with
  | raise requested faults =>
    exact Keeps.trans_gen ((raise_keeps identity requested file).exec_guarantee faults) severity h
  | crash requested faults =>
    have hstart : fileMachine.Safe (fun _ op => Raising op) Eq Keeps (fun _ _ => True)
        (raiseToAtLeast identity requested, file).1 (raiseToAtLeast identity requested, file).2 :=
      raise_keeps identity requested file
    have hstopped := Keeps.trans_gen (hstart.run faults).2 severity h
    exact ⟨hstopped.2, hstopped.2⟩

theorem holds_runEvents (identity : StateIdentity) (events : List Event) :
    ∀ {file : StoredFile}, Holds severity file →
    Holds severity (runEvents identity file events) := by
  induction events with
  | nil => exact fun h => h
  | cons event events ih => exact fun h => ih (holds_after identity h event)

theorem exec_read_bind {α : Type} (next : ReadResult → FileProgram α) (faults : Nat → FileFault)
    (file : StoredFile) : fileMachine.exec (read.bind next) faults file =
      fileMachine.exec (next (readResult file.live)) (fun n => faults (n + 1)) file := rfl

theorem exec_raise_early (identity : StateIdentity) {requested : IncidentSeverity}
    (hproven : (readResult file.live).provenance = .Proven)
    (hle : requested ≤ (readResult file.live).severity) (faults : Nat → FileFault) :
    fileMachine.exec (raiseToAtLeast identity requested) faults file =
      ({ durable := true, persistence := .DurableConfirmed
         effectiveSeverity := (readResult file.live).severity, escalated := false }, file) := by
  have hbroken : ¬((readResult file.live).provenance = .Broken ∨
      (readResult file.live).provenance = .InvalidContent) := by
    rw [hproven]
    decide
  have habsent : ¬(readResult file.live).provenance = .Absent := by
    rw [hproven]
    decide
  have hsame : maxIncidentSeverity (readResult file.live).severity requested =
      (readResult file.live).severity := by
    rw [maxIncidentSeverity_eq]
    exact max_eq_left hle
  change fileMachine.exec (read.bind _) faults file = _
  rw [exec_read_bind, if_neg hbroken, if_neg habsent]
  rw [if_pos hsame]
  rfl

/-- What a raise reports as durable survives every later crash if and only if the raise did not
start from a file that holds the requested severity and is not durable. -/
theorem durable_raise_survives_iff (identity : StateIdentity) (file : StoredFile)
    (before : List Event) (requested : IncidentSeverity) (faults : Nat → FileFault) :
    (∀ (after : List Event) (stopped : IncidentSeverity) (stops : List FileFault),
      let start := runEvents identity file before
      let result := (fileMachine.exec (raiseToAtLeast identity requested) faults start).1
      result.durable = true →
      result.effectiveSeverity ≤ effective (runEvents identity start
        (.raise requested faults :: after ++ [.crash stopped stops])).live) ↔
    Settled requested (runEvents identity file before) := by
  dsimp only
  generalize runEvents identity file before = start
  constructor
  · intro h hproven hle
    have hearly := exec_raise_early identity hproven hle faults
    have hcrash := h [] requested [] (by rw [hearly])
    rw [hearly] at hcrash
    change (readResult start.live).severity ≤ effective
      (StoredFile.restore
        (fileMachine.exec (raiseToAtLeast identity requested) faults start).2).live
      at hcrash
    rw [hearly] at hcrash
    exact hcrash
  · intro hsettled after stopped stops hdurable
    have hpromised := (raiseLoop_free identity requested MAX_RAISE_ATTEMPTS start hsettled).exec
      faults hdurable
    exact (holds_runEvents identity (after ++ [.crash stopped stops]) hpromised).1

/-- A raise to `HARD` publishes the file, but its barriers and the removal fail.  The next one
finds `HARD`, writes nothing and reports a durable severity, which a crash takes back. -/
theorem early_return_is_lost :
    let start := runEvents {} unlockedFile
      [.raise .Hard fun n => { unsynced := true, refused := n = 4, identity := ⟨1, 1⟩ }]
    let outcome := fileMachine.exec (raiseToAtLeast {} .Hard) (fun _ => {}) start
    outcome.1.durable = true ∧ outcome.1.effectiveSeverity = .Hard ∧
      effective (StoredFile.restore outcome.2).live = .Unlocked := by
  decide +kernel

end Fic.Incident
