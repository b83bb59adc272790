import Fic.Incident.Clear

/-!
# What the controller's calls do to lockstatus

The target store belongs to an incident as long as lockstatus does not leave `UNLOCKED`
durably.  Two facts about the operations of the state store are enough for that.

* A raise or a clear that finds an active severity with a durable copy that is not
  `UNLOCKED` makes all its calls in such a state (`Firm`): the durable copy becomes
  `UNLOCKED` at most in the last call of a clear.
* Where no active severity is live, none is published (`Lowering`).
-/

namespace Fic.Incident

open Fic.Lib Fic.Core
open Fic.Journal (AtomicTargetState)

variable {op : FileOp} {can : FileOp → Prop} {file : StoredFile}

def Active (stored : Stored) : Prop :=
  (readResult stored).provenance = .Proven ∧ (readResult stored).severity ≠ .Unlocked

instance (stored : Stored) : Decidable (Active stored) := inferInstanceAs (Decidable (_ ∧ _))

theorem soft_le_effective {stored : Stored} :
    .Soft ≤ effective stored ↔ ¬ProvenAt .Unlocked stored := by
  have hsoft : ∀ severity : IncidentSeverity, .Soft ≤ severity ↔ severity ≠ .Unlocked := by
    intro severity
    cases severity <;> decide
  rw [hsoft, effective, ProvenAt]
  by_cases hproven : (readResult stored).provenance = .Proven
  · rw [if_pos hproven]
    simp [hproven]
  · rw [if_neg hproven]
    simp [hproven]

theorem Active.not_unlocked {stored : Stored} (h : Active stored) : ¬ProvenAt .Unlocked stored :=
  fun hunlocked => h.2 hunlocked.2

theorem not_active_absent : ¬Active .absent := fun h => by cases h.1

/-! ## Operations that publish nothing active -/

/-- The calls of `encodeDurableBrokenState`. -/
inductive Withdrawing : FileOp → Prop
  | read : Withdrawing .read
  | remove (expected : AtomicTargetState) : Withdrawing (.removeIfCurrentState expected)
  | absent : Withdrawing .ensureTargetAbsentDurableIfCurrentState

/-- The calls of a clear that restores nothing. -/
inductive Lowering : FileOp → Prop
  | withdraw {op : FileOp} (h : Withdrawing op) : Lowering op
  | write (options : AtomicWriteOptions) : Lowering (.writeWithResult (serialize .Unlocked) options)
  | durable (expected : AtomicTargetState) : Lowering (.ensureTargetDurableIfCurrentState expected)

theorem withdrawing_perform (h : Withdrawing op) (file : StoredFile) (fault : FileFault) :
    ((fileMachine.perform file op fault).2.live = file.live ∨
      (fileMachine.perform file op fault).2.live = .absent) ∧
    ((fileMachine.perform file op fault).2.durable = file.durable ∨
      (fileMachine.perform file op fault).2.durable = .absent) := by
  have hsync : ∀ file : StoredFile, file.live = .absent →
      (file.sync fault).live = .absent ∧ ((file.sync fault).durable = file.durable ∨
        (file.sync fault).durable = .absent) := by
    intro file habsent
    unfold StoredFile.sync
    split
    · exact ⟨habsent, .inl rfl⟩
    · exact ⟨habsent, .inr habsent⟩
  cases h with
  | read => exact ⟨.inl rfl, .inl rfl⟩
  | remove expected =>
    change ((file.removeIfCurrentState expected fault).2.live = _ ∨
      (file.removeIfCurrentState expected fault).2.live = _) ∧
      ((file.removeIfCurrentState expected fault).2.durable = _ ∨
        (file.removeIfCurrentState expected fault).2.durable = _)
    unfold StoredFile.removeIfCurrentState
    split
    · obtain ⟨hlive, hdurable⟩ := hsync { file with live := .absent } rfl
      exact ⟨.inr hlive, hdurable⟩
    · exact ⟨.inl rfl, .inl rfl⟩
  | absent =>
    change ((file.ensureTargetAbsentDurableIfCurrentState fault).2.live = _ ∨
      (file.ensureTargetAbsentDurableIfCurrentState fault).2.live = _) ∧
      ((file.ensureTargetAbsentDurableIfCurrentState fault).2.durable = _ ∨
        (file.ensureTargetAbsentDurableIfCurrentState fault).2.durable = _)
    unfold StoredFile.ensureTargetAbsentDurableIfCurrentState
    split
    · next hconfirmed =>
      simp only [Bool.and_eq_true, decide_eq_true_eq] at hconfirmed
      obtain ⟨hlive, hdurable⟩ := hsync file hconfirmed.1.1
      exact ⟨.inr hlive, hdurable⟩
    · exact ⟨.inl rfl, .inl rfl⟩

theorem lowering_perform (h : Lowering op) (hlive : ¬Active file.live) (fault : FileFault) :
    ¬Active (fileMachine.perform file op fault).2.live := by
  cases h with
  | withdraw h =>
    rcases (withdrawing_perform h file fault).1 with hsame | habsent
    · rw [hsame]
      exact hlive
    · rw [habsent]
      exact not_active_absent
  | write options =>
    rcases live_writeWithResult file (serialize .Unlocked) options fault with ⟨-, hsame⟩ |
      ⟨-, state, hcontent, hwritten⟩ | ⟨-, detail, hdoubled⟩
    · change ¬Active (file.writeWithResult (serialize .Unlocked) options fault).2.live
      rw [hsame]
      exact hlive
    · change ¬Active (file.writeWithResult (serialize .Unlocked) options fault).2.live
      rw [hwritten]
      exact fun hactive => hactive.not_unlocked (provenAt_written hcontent)
    · change ¬Active (file.writeWithResult (serialize .Unlocked) options fault).2.live
      rw [hdoubled]
      exact fun hactive => nomatch hactive.1
  | durable expected =>
    change ¬Active (file.ensureTargetDurableIfCurrentState expected fault).2.live
    unfold StoredFile.ensureTargetDurableIfCurrentState
    split
    · rw [live_sync]
      exact hlive
    · exact hlive

/-- A program that makes only these calls, whatever is answered. -/
abbrev Makes {α : Type} (can : FileOp → Prop) (p : FileProgram α) : Prop :=
  Program.Probe can (fun _ _ => True) p

variable {α : Type} {p : FileProgram α}

theorem makes_bind {β : Type} {f : α → FileProgram β} (h : Makes can p)
    (hf : ∀ value, Makes can (f value)) : Makes can (p.bind f) :=
  Program.Probe.bind h fun value _ _ => hf value

theorem makes_ask (h : can op) :
    Makes can (Program.ask op : FileProgram op.Answer) := ⟨h, fun _ => trivial⟩

theorem makes_read (h : can .read) : Makes can read :=
  makes_bind (makes_ask h) fun _ => trivial

theorem encode_makes (expected : Option AtomicTargetState) :
    Makes Withdrawing (encodeDurableBrokenStateLocked expected) := by
  refine makes_bind (makes_read .read) fun current => ?_
  by_cases habsent : current.provenance = .Absent
  · rw [if_pos habsent]
    refine makes_bind (makes_ask .absent) fun report => ?_
    split <;> trivial
  rw [if_neg habsent]
  split
  · next state _ _ =>
    split
    · trivial
    refine makes_bind (makes_ask (.remove state)) fun removed => ?_
    split
    · trivial
    split
    · trivial
    split
    · trivial
    refine makes_bind (makes_ask .absent) fun barrier => ?_
    split <;> trivial
  · trivial

theorem confirm_makes (result : RaiseResult) :
    Makes Lowering (confirmInstalledDurability result) := by
  unfold confirmInstalledDurability
  split
  · trivial
  · refine makes_bind (makes_ask (.durable _)) fun report => ?_
    split <;> trivial

theorem clearBroken_makes (installed : Option AtomicTargetState) :
    Makes Lowering (clearBroken installed) :=
  makes_bind ((encode_makes installed).mono (fun _ h => .withdraw h) fun _ _ _ => trivial)
    fun _ => trivial

variable {current : ReadResult}

/-- A clear restores only a severity that was proven. -/
theorem clearFinish_makes (identity : StateIdentity)
    (h : current.provenance ≠ .Proven) (written : RaiseResult) :
    Makes Lowering (clearFinish identity current written) := by
  have hconfirm : Makes Lowering (confirmIfInstalled written) := by
    unfold confirmIfInstalled
    split
    · exact confirm_makes written
    · trivial
  refine makes_bind hconfirm fun confirmed => ?_
  split
  · trivial
  split
  · next installed _ =>
    unfold clearCompensate
    rw [if_neg h]
    exact clearBroken_makes _
  · exact makes_bind (makes_read (.withdraw .read)) fun _ => trivial

/-- A program on the file that is bound by its calls alone. -/
abbrev Bounded {α : Type} (can : FileOp → Prop) (p : FileProgram α) (file : StoredFile) : Prop :=
  fileMachine.Safe (fun _ op => can op) Eq (fun _ _ => True) (fun _ _ => True) p file

theorem bounded_makes (h : Makes can p) (file : StoredFile) : Bounded can p file := by
  have hsafe : fileMachine.Safe (fun _ op => can op) Eq (fun _ _ => True)
      (fun _ _ => ∃ trace : Program.Trace FileOp FileOp.Answer, True ∧ True) p file :=
    Machine.Safe.probe (fun _ _ _ => True) (fun _ _ _ _ _ _ _ => trivial) trivial
      (fun _ _ _ _ hop => hop) (fun _ _ _ _ => trivial) h
  exact hsafe.mono (fun _ _ _ => trivial) fun _ _ _ => trivial

theorem bounded_done (value : α) (file : StoredFile) :
    Bounded can (.done value) file := fun _ _ => trivial

theorem bounded_read_bind {next : ReadResult → FileProgram α} (hread : can .read)
    (h : Bounded can (next (readResult file.live)) file) : Bounded can (read.bind next) file := by
  rintro _ rfl
  exact ⟨hread, fun _ => ⟨trivial, h⟩⟩

/-- A clear that finds no active severity publishes none. -/
theorem clear_lowers (identity : StateIdentity) (hlive : ¬Active file.live) :
    Bounded Lowering (clear identity) file := by
  refine bounded_read_bind (.withdraw .read) ?_
  by_cases hbroken : (readResult file.live).provenance = .Broken
  · rw [if_pos hbroken]
    exact bounded_done _ file
  rw [if_neg hbroken]
  by_cases hunlocked : (readResult file.live).provenance = .Proven ∧
      (readResult file.live).severity = .Unlocked
  · rw [if_pos hunlocked]
    exact bounded_done _ file
  rw [if_neg hunlocked]
  have hunproven : (readResult file.live).provenance ≠ .Proven := by
    intro hproven
    by_cases hseverity : (readResult file.live).severity = .Unlocked
    · exact hunlocked ⟨hproven, hseverity⟩
    · exact hlive ⟨hproven, hseverity⟩
  refine bounded_makes
    (makes_bind ?_ fun written => clearFinish_makes identity hunproven written) file
  exact makes_bind (makes_ask (.write _)) fun _ => trivial

/-- A raise that finds no active severity publishes none, unless it starts a new incident. -/
theorem raise_lowers (identity : StateIdentity) {requested : IncidentSeverity}
    (hlive : ¬Active file.live) (hnew : ProvenAt .Unlocked file.live → requested = .Unlocked) :
    Bounded Lowering (raiseToAtLeast identity requested) file := by
  refine bounded_read_bind (.withdraw .read) ?_
  by_cases hbroken : (readResult file.live).provenance = .Broken ∨
      (readResult file.live).provenance = .InvalidContent
  · rw [if_pos hbroken]
    exact bounded_done _ file
  rw [if_neg hbroken]
  by_cases habsent : (readResult file.live).provenance = .Absent
  · rw [if_pos habsent]
    exact bounded_makes
      ((encode_makes none).mono (fun _ h => .withdraw h) fun _ _ _ => trivial) file
  rw [if_neg habsent]
  have hproven : (readResult file.live).provenance = .Proven := by
    cases hprovenance : (readResult file.live).provenance <;> simp_all
  have hseverity : (readResult file.live).severity = .Unlocked := by
    by_contra hother
    exact hlive ⟨hproven, hother⟩
  rw [hnew ⟨hproven, hseverity⟩, hseverity]
  exact bounded_done _ file

/-! ## Operations on an active severity -/

abbrev NotUnlocked (stored : Stored) : Prop := ¬ProvenAt .Unlocked stored

/-- Every call finds a durable copy that is not `UNLOCKED`. -/
abbrev Firm {α : Type} (post : α → StoredFile → Prop) (p : FileProgram α)
    (file : StoredFile) : Prop :=
  Alone NotUnlocked post p file

theorem firm_ended (value : α) (file : StoredFile) :
    Firm (fun _ _ => True) (.done value) file := alone_done trivial

theorem firm_withdrawing (h : Makes Withdrawing p)
    (hfirm : ¬ProvenAt .Unlocked file.durable) : Firm (fun _ _ => True) p file := by
  have hsteps : fileMachine.Safe (fun _ op => Withdrawing op) Eq
      (fun file file' => file'.durable = file.durable ∨ file'.durable = .absent) (fun _ _ => True)
      p file :=
    (bounded_makes h file).alone fun file op fault hop => (withdrawing_perform hop file fault).2
  have hkept := hsteps.invariant (fun file => ¬ProvenAt .Unlocked file.durable) hfirm ?_
  · exact (hkept.allow fun _ _ hop => hop.2).mono (fun _ _ _ => trivial) fun _ _ _ => trivial
  · intro file file' hbefore hstep
    rcases hstep with hsame | habsent
    · rw [hsame]
      exact hbefore
    · rw [habsent]
      exact fun hunlocked => by cases hunlocked.1

/-- What a write of an active severity leaves durable. -/
theorem Written.firm {file' : StoredFile} {target : IncidentSeverity} {written : RaiseResult}
    (h : Written file target written file') (htarget : target ≠ .Unlocked)
    (hfirm : ¬ProvenAt .Unlocked file.durable) : ¬ProvenAt .Unlocked file'.durable := by
  cases h with
  | refused _ _ _ => exact hfirm
  | unsynced _ _ _ _ => exact hfirm
  | synced _ hcontent _ _ =>
    intro hunlocked
    exact htarget ((provenAt_written hcontent).2.symm.trans hunlocked.2)

theorem clearBroken_firm (installed : Option AtomicTargetState)
    (hfirm : ¬ProvenAt .Unlocked file.durable) :
    Firm (fun _ _ => True) (clearBroken installed) file :=
  (firm_withdrawing (encode_makes installed) hfirm).bind fun _ _ _ => firm_ended _ _

theorem clearCompensate_firm (identity : StateIdentity)
    (hactive : current.provenance = .Proven → current.severity ≠ .Unlocked)
    (installed : AtomicTargetState) (hfirm : ¬ProvenAt .Unlocked file.durable) :
    Firm (fun _ _ => True) (clearCompensate identity current installed) file := by
  unfold clearCompensate
  split
  · next hproven =>
    refine (writeLocked_alone (D := NotUnlocked) identity installed current.severity hfirm).bind
      fun restored file₁ hrestored => ?_
    refine (confirmIfInstalled_alone (D := NotUnlocked) hrestored.1 hrestored.2 hfirm).bind
      fun confirmed file₂ hconfirmed => ?_
    split
    · exact firm_ended _ _
    · exact clearBroken_firm _ (hconfirmed.firm (hactive hproven) hfirm)
  · exact clearBroken_firm _ hfirm

/-- A clear of an active severity finds a durable `UNLOCKED` in none of its calls: it ends when
there is one. -/
theorem clear_firm (identity : StateIdentity) (hlive : Active file.live)
    (hfirm : ¬ProvenAt .Unlocked file.durable) : Firm (fun _ _ => True) (clear identity) file := by
  refine (read_alone (D := NotUnlocked) hfirm).bind fun current file₀ hcurrent => ?_
  obtain ⟨rfl, rfl⟩ := hcurrent
  split
  · exact firm_ended _ _
  split
  · exact firm_ended _ _
  have hcreate : decide ((readResult file₀.live).provenance = .Absent) = false := by
    rw [hlive.1]
    rfl
  rw [hcreate]
  refine (writeLocked_alone (D := NotUnlocked) identity _ .Unlocked hfirm).bind
    fun written file₁ hwritten => ?_
  refine (confirmIfInstalled_alone (D := NotUnlocked) hwritten.1 hwritten.2 hfirm).bind
    fun confirmed file₂ hconfirmed => ?_
  cases hconfirmed with
  | refused hdurable hinstalled _ =>
    rw [hdurable, hinstalled]
    exact (read_alone (D := NotUnlocked) hfirm).bind fun _ _ _ => firm_ended _ _
  | synced hdurable _ _ _ =>
    rw [hdurable]
    exact firm_ended _ _
  | unsynced hdurable _ hinstalled _ =>
    rw [hdurable, hinstalled]
    exact clearCompensate_firm identity (fun _ => hlive.2) _ hfirm

/-- A raise of an active severity never finds a durable `UNLOCKED`. -/
theorem raise_firm (identity : StateIdentity) (requested : IncidentSeverity)
    (hlive : Active file.live) (hfirm : ¬ProvenAt .Unlocked file.durable) :
    Firm (fun _ _ => True) (raiseToAtLeast identity requested) file := by
  have hholds : Holds .Soft file :=
    ⟨soft_le_effective.mpr hlive.not_unlocked, soft_le_effective.mpr hfirm⟩
  have hkept := (raise_keeps identity requested file).invariant (Holds .Soft) hholds
    fun _ _ hsoft hkeeps => hkeeps _ hsoft
  exact (hkept.allow fun file op hop => soft_le_effective.mp hop.2.2).mono
    (fun _ _ _ => trivial) fun _ _ _ => trivial

end Fic.Incident
