import Fic.Incident.StateStore

/-!
# The severity never goes down

Every state of the file but a proven one counts as `ISOLATE`.  A raise writes over the exact
state it has read, and never a lower severity; the fallback only removes the file.  So
each call of a raise lets the effective severity rise, whatever the other raises do in
between, and the severity that a raise reports as durable is reached when it returns.
-/

namespace Fic.Incident

open Fic.Lib Fic.Core
open Fic.Journal (AtomicTargetState)

variable {op : FileOp} {severity : IncidentSeverity} {result : RaiseResult}
  {state : AtomicTargetState} {target : IncidentSeverity} {file : StoredFile}

/-- The severity every reader has to act on. -/
def effective (stored : Stored) : IncidentSeverity :=
  if (readResult stored).provenance = .Proven then (readResult stored).severity else .Isolate

theorem readResult_file (h : parseStrictSeverity state.content = .ok severity) :
    readResult (.file state) = { provenance := .Proven, severity, provenState := some state } := by
  simp only [readResult, h]

theorem effective_file (h : parseStrictSeverity state.content = .ok severity) :
    effective (.file state) = severity := by
  rw [effective, readResult_file h]
  rfl

theorem readResult_proven {stored : Stored} (h : (readResult stored).provenance = .Proven) :
    ∃ state, stored = .file state ∧ (readResult stored).provenState = some state ∧
      parseStrictSeverity state.content = .ok (readResult stored).severity := by
  cases stored with
  | absent => cases h
  | unprovable detail => cases h
  | file state =>
    cases hparse : parseStrictSeverity state.content with
    | error reason => simp [readResult, hparse] at h
    | ok severity => exact ⟨state, rfl, by simp [readResult, hparse], by simp [readResult, hparse]⟩

/-! ## What the operations do -/

theorem effective_written (h : state.content = serialize target) :
    effective (.file state) = target :=
  effective_file (h ▸ parseStrictSeverity_serialize target)

@[simp] theorem live_sync (file : StoredFile) (fault : FileFault) :
    (file.sync fault).live = file.live := by
  unfold StoredFile.sync
  split <;> rfl

theorem live_writeWithResult (file : StoredFile) (content : Bytes) (options : AtomicWriteOptions)
    (fault : FileFault) :
    ((file.writeWithResult content options fault).1.result.installed = false ∧
      (file.writeWithResult content options fault).2 = file) ∨
    (file.admits options = true ∧ ∃ state, state.content = content ∧
      (file.writeWithResult content options fault).2.live = .file state) ∨
    (file.writeWithResult content options fault).1.result.installed = false ∧
      ∃ detail, (file.writeWithResult content options fault).2.live = .unprovable detail := by
  have hends := file.writeEnds content options fault
  generalize file.writeWithResult content options fault = outcome at hends ⊢
  obtain ⟨report, file'⟩ := outcome
  cases hends with
  | refused hresult => exact .inl ⟨hresult, rfl⟩
  | left _ _ _ hadmits hcontent _ => exact .inr (.inl ⟨hadmits, _, hcontent, rfl⟩)
  | doubled _ _ _ hresult => exact .inr (.inr ⟨hresult, _, rfl⟩)
  | synced hadmits hcontent _ _ => exact .inr (.inl ⟨hadmits, _, hcontent, rfl⟩)
  | unsynced hadmits hcontent _ _ => exact .inr (.inl ⟨hadmits, _, hcontent, rfl⟩)

theorem live_of_absent_confirmed {fault : FileFault}
    (h : (file.ensureTargetAbsentDurableIfCurrentState fault).1.succeeded = true) :
    (file.ensureTargetAbsentDurableIfCurrentState fault).2.live = .absent := by
  unfold StoredFile.ensureTargetAbsentDurableIfCurrentState at h ⊢
  by_cases habsent : (decide (file.live = .absent) && !fault.refused && !fault.unsynced) = true
  · rw [if_pos habsent, live_sync]
    simp only [Bool.and_eq_true, decide_eq_true_eq] at habsent
    exact habsent.1.1
  · rw [if_neg habsent] at h
    cases h

/-! ## Rising -/

/-- The effective severity is at least what it was. -/
def Rises (file file' : StoredFile) : Prop := effective file.live ≤ effective file'.live

instance : Std.Refl Rises := ⟨fun _ => le_rfl⟩

instance : IsTrans StoredFile Rises := ⟨fun _ _ _ h h' => le_trans h h'⟩

/-- A write over a state that is not above the written severity, or no write at all. -/
def Raising : FileOp → Prop
  | .writeWithResult content options => ∃ state target, content = serialize target ∧
      options.createIfMissing = false ∧ options.expectedTargetState = some state ∧
      effective (.file state) ≤ target
  | _ => True

theorem rises_perform (h : Raising op) (file : StoredFile) (fault : FileFault) :
    Rises file (fileMachine.perform file op fault).2 := by
  cases op with
  | read => exact le_rfl
  | writeWithResult content options =>
    obtain ⟨state, target, rfl, hcreate, hexpected, hle⟩ := h
    rcases live_writeWithResult file (serialize target) options fault with ⟨-, hsame⟩ |
      ⟨hadmits, written, hcontent, hlive⟩ | ⟨-, detail, hlive⟩
    · show effective file.live ≤ effective
        (file.writeWithResult (serialize target) options fault).2.live
      rw [hsame]
    · -- the write was conditional on the state it expects
      have hstate : file.live = .file state := by
        unfold StoredFile.admits at hadmits
        cases hfile : file.live with
        | absent => simp [hfile, hcreate] at hadmits
        | unprovable detail => simp [hfile] at hadmits
        | file actual =>
          simp only [hfile, hexpected, Option.all_some, Bool.and_eq_true, decide_eq_true_eq]
            at hadmits
          rw [hadmits.2]
      show effective file.live ≤ effective
        (file.writeWithResult (serialize target) options fault).2.live
      rw [hlive, hstate, effective_written hcontent]
      exact hle
    · -- what no reader can prove counts as `ISOLATE`
      show effective file.live ≤
        effective (file.writeWithResult (serialize target) options fault).2.live
      rw [hlive]
      exact IncidentSeverity.le_isolate _
  | ensureTargetDurableIfCurrentState expected =>
    show effective file.live ≤ effective
      (file.ensureTargetDurableIfCurrentState expected fault).2.live
    unfold StoredFile.ensureTargetDurableIfCurrentState
    split <;> simp
  | removeIfCurrentState expected =>
    show effective file.live ≤ effective (file.removeIfCurrentState expected fault).2.live
    unfold StoredFile.removeIfCurrentState
    split
    · rw [live_sync]
      exact IncidentSeverity.le_isolate _
    · exact le_rfl
  | ensureTargetAbsentDurableIfCurrentState =>
    show effective file.live ≤ effective (file.ensureTargetAbsentDurableIfCurrentState fault).2.live
    unfold StoredFile.ensureTargetAbsentDurableIfCurrentState
    split <;> simp

/-- A program whose calls only let the severity rise, while others do the same. -/
abbrev Raised {α : Type} (post : α → StoredFile → Prop) (p : FileProgram α) (file : StoredFile) :
    Prop :=
  fileMachine.Safe (fun _ op => Raising op) Rises Rises post p file

theorem raised_ask {post : op.Answer → StoredFile → Prop} (hop : Raising op)
    (hpost : ∀ file' fault last, Rises file file' →
      Rises (fileMachine.perform file' op fault).2 last →
      Rises file last → post (fileMachine.perform file' op fault).1 last) :
    Raised post (Program.ask op) file := by
  intro file' hbefore
  refine ⟨hop, fun fault => ⟨rises_perform hop file' fault, fun last hlater => ?_⟩⟩
  have hrises : Rises file last := hbefore.trans ((rises_perform hop file' fault).trans hlater)
  exact hpost file' fault last hbefore hlater hrises

theorem raised_done {α : Type} {post : α → StoredFile → Prop} {value : α}
    (h : ∀ last, Rises file last → post value last) : Raised post (.done value) file := h

/-! ## The operations -/

theorem read_raised (file : StoredFile) :
    Raised (fun current last => Rises file last ∧ ∃ stored, current = readResult stored ∧
      effective stored ≤ effective last.live) read file := by
  have hread : Raised (fun stored last => Rises file last ∧ effective stored ≤ effective last.live)
      readSecureStateFile file :=
    raised_ask trivial fun _ _ _ _ hlater hrises => ⟨hrises, hlater⟩
  refine hread.bind fun stored last ⟨hrises, hle⟩ => raised_done fun final hfinal => ?_
  exact ⟨hrises.trans hfinal, stored, rfl, hle.trans hfinal⟩

theorem writeOutcome_durable {report : Report AtomicWriteResult}
    (h : (writeOutcome target report).persistence = .DurableConfirmed ∨
      (writeOutcome target report).persistence = .InstalledNotDurable) :
    report.result.installed = true := by
  unfold writeOutcome at h
  cases hinstalled : report.result.installed with
  | true => rfl
  | false =>
    cases hflag : report.result.preconditionFailed <;> simp [hinstalled, hflag] at h

theorem writeLocked_raised {identity : StateIdentity} (hle : effective (.file state) ≤ target)
    (file : StoredFile) :
    Raised (fun written last => Rises file last ∧
      (written.persistence = .DurableConfirmed ∨ written.persistence = .InstalledNotDurable →
        target ≤ effective last.live)) (writeLocked identity state target false) file := by
  have hwrite : Raised (fun (report : Report AtomicWriteResult) last => Rises file last ∧
      (report.result.installed = true → target ≤ effective last.live))
      (AtomicFileWriter.writeWithResult (serialize target) (writeOptions identity state false))
        file := by
    refine raised_ask ⟨state, target, rfl, rfl, rfl, hle⟩ fun file' fault last _ hlater hrises => ?_
    refine ⟨hrises, fun hinstalled => ?_⟩
    rcases live_writeWithResult file' (serialize target) (writeOptions identity state false) fault
      with ⟨hnot, -⟩ | ⟨-, written, hcontent, hlive⟩ | ⟨hnot, -⟩
    · exact absurd (hnot.symm.trans hinstalled) Bool.false_ne_true
    · change effective (file'.writeWithResult _ _ fault).2.live ≤ _ at hlater
      rw [hlive, effective_written hcontent] at hlater
      exact hlater
    · exact absurd (hnot.symm.trans hinstalled) Bool.false_ne_true
  refine hwrite.bind fun report last ⟨hrises, hinstalled⟩ => raised_done fun final hfinal => ?_
  exact ⟨hrises.trans hfinal, fun h => (hinstalled (writeOutcome_durable h)).trans hfinal⟩

theorem confirm_raised (result : RaiseResult) (file : StoredFile) :
    Raised (fun _ last => Rises file last) (confirmInstalledDurability result) file := by
  unfold confirmInstalledDurability
  split
  · exact raised_done fun last hrises => hrises
  · next installed _ =>
    have hask : Raised (fun (_ : Report Unit) last => Rises file last)
        (AtomicFileWriter.ensureTargetDurableIfCurrentState installed) file :=
      raised_ask trivial fun _ _ _ _ _ hrises => hrises
    refine hask.bind fun report last hrises => ?_
    split_ifs
    · exact raised_done fun final hfinal => hrises.trans hfinal
    · exact raised_done fun final hfinal => hrises.trans hfinal

/-! ## The programs -/

/-- A durable result stands for an effective severity of at least `bound`. -/
def Reached (bound : IncidentSeverity) (result : RaiseResult) (file : StoredFile) : Prop :=
  result.durable = true → bound ≤ effective file.live

theorem raised_failed {bound : IncidentSeverity} (h : result.durable = false) :
    Raised (Reached bound) (.done result) file :=
  raised_done fun last _ hdurable => by rw [h] at hdurable; cases hdurable

theorem raised_reached {bound : IncidentSeverity} (h : bound ≤ effective file.live) :
    Raised (Reached bound) (.done result) file :=
  raised_done fun _ hrises _ => h.trans hrises

theorem absent_raised (file : StoredFile) :
    Raised (fun (report : Report Unit) last => report.succeeded = true →
      IncidentSeverity.Isolate ≤ effective last.live)
      AtomicFileWriter.ensureTargetAbsentDurableIfCurrentState file := by
  refine raised_ask trivial fun file' fault last _ hlater _ hsucceeded => ?_
  have hlive := live_of_absent_confirmed hsucceeded
  change effective (file'.ensureTargetAbsentDurableIfCurrentState fault).2.live ≤ _ at hlater
  rw [hlive] at hlater
  exact hlater

/-- The removal of the state: a durable result is one that the last barrier has confirmed. -/
theorem encode_safe {allowed : StoredFile → FileOp → Prop}
    {rely guarantee : StoredFile → StoredFile → Prop} [Std.Refl rely] {good : StoredFile → Prop}
    (hread : ∀ file, fileMachine.Safe allowed rely guarantee (fun _ _ => True) read file)
    (hremove : ∀ state file, fileMachine.Safe allowed rely guarantee (fun _ _ => True)
      (AtomicFileWriter.removeIfCurrentState state) file)
    (habsent : ∀ file, fileMachine.Safe allowed rely guarantee
      (fun report last => report.succeeded = true → good last)
      AtomicFileWriter.ensureTargetAbsentDurableIfCurrentState file)
    (hgood : ∀ file file', good file → rely file file' → good file')
    (expected : Option AtomicTargetState) (file : StoredFile) :
    fileMachine.Safe allowed rely guarantee
      (fun result last => result.durable = true → result.effectiveSeverity = .Isolate ∧ good last)
      (encodeDurableBrokenStateLocked expected) file := by
  have hfailed : ∀ detail file, fileMachine.Safe allowed rely guarantee (fun result last =>
      result.durable = true → result.effectiveSeverity = .Isolate ∧ good last)
      (.done (notBroken detail)) file := fun _ _ _ _ => nofun
  refine (hread file).bind fun current file₁ _ => ?_
  by_cases hmissing : current.provenance = .Absent
  · rw [if_pos hmissing]
    refine (habsent file₁).bind fun report file₂ hconfirmed => ?_
    cases hreport : report.succeeded with
    | false => exact hfailed _ file₂
    | true => exact fun last hrely _ => ⟨rfl, hgood _ _ (hconfirmed hreport) hrely⟩
  rw [if_neg hmissing]
  split
  · next state _ _ =>
    split
    · exact hfailed _ file₁
    refine (hremove state file₁).bind fun removed file₂ _ => ?_
    split
    · exact hfailed _ file₂
    split
    · exact hfailed _ file₂
    split
    · exact hfailed _ file₂
    refine (habsent file₂).bind fun report file₃ hconfirmed => ?_
    cases hreport : report.succeeded with
    | false => exact hfailed _ file₃
    | true => exact fun last hrely _ => ⟨rfl, hgood _ _ (hconfirmed hreport) hrely⟩
  · exact hfailed _ file₁

theorem encode_raised (expected : Option AtomicTargetState) (bound : IncidentSeverity)
    (file : StoredFile) :
    Raised (Reached bound) (encodeDurableBrokenStateLocked expected) file := by
  have hremove : ∀ state file, Raised (fun _ _ => True)
      (AtomicFileWriter.removeIfCurrentState state) file :=
    fun state file => raised_ask trivial fun _ _ _ _ _ _ => trivial
  have hencode := encode_safe
    (fun file => (read_raised file).mono (fun _ _ h => h) fun _ _ _ => trivial) hremove
    absent_raised (fun _ _ hgood hrises => hgood.trans hrises) expected file
  exact hencode.mono (fun _ _ h => h) fun _ _ hreached hdurable =>
    (IncidentSeverity.le_isolate bound).trans (hreached hdurable).2

theorem raiseLoop_raised (identity : StateIdentity) (requested : IncidentSeverity)
    (attempts : Nat) :
    ∀ file, Raised (Reached requested) (raiseLoop identity requested attempts) file := by
  induction attempts with
  | zero => exact fun file => raised_failed rfl
  | succ attempts ih =>
    intro file
    refine (read_raised file).bind fun current file₁ hread => ?_
    obtain ⟨-, stored, rfl, hstored⟩ := hread
    by_cases hbroken : (readResult stored).provenance = .Broken ∨
        (readResult stored).provenance = .InvalidContent
    · rw [if_pos hbroken]
      exact raised_failed rfl
    rw [if_neg hbroken]
    by_cases habsent : (readResult stored).provenance = .Absent
    · rw [if_pos habsent]
      exact encode_raised none requested file₁
    rw [if_neg habsent]
    have hproven : (readResult stored).provenance = .Proven := by
      cases hprovenance : (readResult stored).provenance <;> simp_all
    obtain ⟨state, rfl, hstate, hparse⟩ := readResult_proven hproven
    have hcurrent := effective_file hparse
    rw [hcurrent] at hstored
    by_cases hsame : maxIncidentSeverity (readResult (.file state)).severity requested =
        (readResult (.file state)).severity
    · rw [if_pos hsame]
      rw [maxIncidentSeverity_eq] at hsame
      exact raised_reached ((max_eq_left_iff.mp hsame).trans hstored)
    rw [if_neg hsame, hstate, Option.getD_some, maxIncidentSeverity_eq]
    have hle : effective (.file state) ≤ max (readResult (.file state)).severity requested := by
      rw [hcurrent]
      exact le_max_left _ _
    refine (writeLocked_raised hle file₁).bind fun written file₂ hwritten => ?_
    obtain ⟨-, hinstalled⟩ := hwritten
    cases hpersistence : written.persistence with
    | DurableConfirmed =>
      exact raised_reached ((le_max_right _ _).trans (hinstalled (.inl hpersistence)))
    | InstalledNotDurable =>
      refine (confirm_raised written file₂).bind fun confirmed file₃ hrises => ?_
      have hreached := (le_max_right _ _).trans (hinstalled (.inr hpersistence))
      split_ifs
      · exact raised_reached (hreached.trans hrises)
      · exact encode_raised _ requested file₃
    | NotInstalled => exact ih file₂
    | Failed => exact encode_raised none requested file₂

/-! ## Calls at the same time -/

/-- The calls of the store that detectors make. -/
inductive StoreCall
  | raise (requested : IncidentSeverity)
  | encodeBroken
  deriving DecidableEq, Repr

def StoreCall.program (identity : StateIdentity) : StoreCall → FileProgram RaiseResult
  | .raise requested => raiseToAtLeast identity requested
  | .encodeBroken => encodeDurableBrokenState

/-- The severity a call asks for. -/
def StoreCall.bound : StoreCall → IncidentSeverity
  | .raise requested => requested
  | .encodeBroken => .Isolate

theorem program_raised (identity : StateIdentity) (call : StoreCall) (file : StoredFile) :
    Raised (Reached call.bound) (call.program identity) file := by
  cases call with
  | raise requested => exact raiseLoop_raised identity requested MAX_RAISE_ATTEMPTS file
  | encodeBroken => exact encode_raised none .Isolate file

/-- However the calls are interleaved and whatever fails, the effective severity never goes
down, and a call that reports a durable result has reached the severity it asked for. -/
theorem concurrent_raises_monotone (identity : StateIdentity) (calls : List StoreCall)
    (file : StoredFile) (schedule later : List (Nat × FileFault)) :
    effective (fileMachine.runPool (calls.map (·.program identity), file) schedule).2.live ≤
      effective (fileMachine.runPool (calls.map (·.program identity), file)
        (schedule ++ later)).2.live ∧
    ∀ (i : Nat) (requested : IncidentSeverity) (result : RaiseResult),
      calls[i]? = some (.raise requested) →
      (fileMachine.runPool (calls.map (·.program identity), file) schedule).1[i]? =
        some (.done result) →
      result.durable = true →
      requested ≤ effective
        (fileMachine.runPool (calls.map (·.program identity), file) schedule).2.live := by
  have hsafe : ∀ (i : Nat) (p : FileProgram RaiseResult),
      (calls.map (·.program identity), file).1[i]? = some p →
      Raised (fun result file => ∀ call : StoreCall, calls[i]? = some call →
        Reached call.bound result file)
        p (calls.map (·.program identity), file).2 := by
    intro i p hp
    rw [List.getElem?_map, Option.map_eq_some_iff] at hp
    obtain ⟨call, hcall, rfl⟩ := hp
    refine (program_raised identity call file).mono (fun _ _ h => h)
      fun result last h found hfound => ?_
    rw [hcall] at hfound
    rw [← Option.some.inj hfound]
    exact h
  have hreached := Machine.safe_runPool (fun _ _ h => h) hsafe schedule
  constructor
  · have hlater := Machine.safe_runPool (fun _ _ h => h) hreached.1 later
    have happend : fileMachine.runPool (fileMachine.runPool (calls.map (·.program identity), file)
        schedule) later = fileMachine.runPool (calls.map (·.program identity), file)
        (schedule ++ later) := by
      unfold Machine.runPool
      rw [List.foldl_append]
    have hrises := hlater.2
    rw [happend] at hrises
    exact hrises
  · intro i requested result hcall hdone hdurable
    exact hreached.1 i _ hdone _ (refl _) _ hcall hdurable

def unlockedFile : StoredFile :=
  { live := .file { mode := 0o640, content := lit "UNLOCKED\n" }
    durable := .file { mode := 0o640, content := lit "UNLOCKED\n" } }

/-- Two raises read the same state; the slower one loses the race and reads again. -/
theorem concurrent_raises_monotone_race :
    IncidentSeverity.Hard ≤ effective (fileMachine.runPool
      ([StoreCall.raise .Soft, .raise .Hard].map (·.program {}), unlockedFile)
      [(0, {}), (1, {}), (0, { identity := ⟨1, 1⟩ }), (1, { flagged := true }), (1, {}),
        (1, { identity := ⟨1, 2⟩ })]).2.live :=
  (concurrent_raises_monotone {} [.raise .Soft, .raise .Hard] unlockedFile
    [(0, {}), (1, {}), (0, { identity := ⟨1, 1⟩ }), (1, { flagged := true }), (1, {}),
      (1, { identity := ⟨1, 2⟩ })] []).2 1 .Hard
    { durable := true, persistence := .DurableConfirmed, effectiveSeverity := .Hard
      escalated := true
      installedState := some { device := 1, inode := 2, mode := 0o640, content := lit "HARD\n" } }
    rfl (by rfl) rfl

end Fic.Incident
