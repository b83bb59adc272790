import Fic.Incident.Authorized

/-!
# Runs of the controller

The public operations keep the store fenced (`call_guarded`), and so do a restart of the
daemon after any of its calls and a boot of the machine, which brings back the durable
copies of both files.  Hence every termination of a run is authorized, provided each
operation starts from files whose live and durable copies agree on the incident.
-/

namespace Fic.Incident

open Fic.Lib
open TargetStore (JsonText documentOf)

variable {requested : IncidentSeverity} {text : JsonText} {v : View}

section Guarded

variable {α β : Type} {w : Wiring} {s : Watched}

/-! ## Parts that leave the files alone -/

theorem leaves_readState : Leaves w readState :=
  fun _ hfenced => spec_mono (spec_readState hfenced) fun _ _ h => .of_eq h.2

theorem leaves_remembered : Leaves w remembered :=
  fun _ hfenced => spec_mono (spec_remembered hfenced) fun _ _ h => .of_eq h.2

theorem guarded_bind_leaves {x : ControlM α} {f : α → ControlM β}
    (h : Fences w x s) (hf : ∀ value, Leaves w (f value)) :
    Fences w (x >>= f) s :=
  spec_bind h fun value s' hfenced =>
    spec_mono (hf value s' hfenced) fun _ _ hfiles => hfiles.fenced hfenced

theorem Leaves.guarded {x : ControlM α} (h : Leaves w x) (hfenced : Fenced w.text s.view) :
    Fences w x s :=
  spec_mono (h s hfenced) fun _ _ hfiles => hfiles.fenced hfenced

namespace Controller

theorem whenever_leaves (condition : Bool) {x : ControlM Unit} (h : Leaves w x) :
    Leaves w (whenever condition x) := by
  unfold whenever
  split
  · exact h
  · exact leaves_pure ()

theorem recordAudit_leaves (event : Bytes) (result : IncidentResult) (source : IncidentSource)
    (reason : Bytes) : Leaves w (recordAudit w event result source reason) :=
  whenever_leaves _ (leaves_call (.auditSink _))

theorem notifySeverity_leaves (severity : IncidentSeverity) (reason : Bytes) :
    Leaves w (notifySeverity w severity reason) := by
  refine leaves_bind leaves_remembered fun memory => ?_
  split
  · exact leaves_pure ()
  · refine leaves_bind (leaves_update _) fun _ => ?_
    exact whenever_leaves _ (leaves_call (.notifySink severity reason))

theorem settleNonActiveMode_leaves (mode : IncidentResponseMode) (severity : IncidentSeverity) :
    Leaves w (settleNonActiveMode mode severity) := by
  refine leaves_bind (leaves_update _) fun _ => ?_
  refine leaves_bind (leaves_call (.applyQuarantine false)) fun verdict => ?_
  exact leaves_bind (leaves_update _) fun _ => leaves_pure _

theorem settle_guarded (mode : IncidentResponseMode) (severity : IncidentSeverity) (reason : Bytes)
    {allowTargetMutation : Bool} (hfenced : Fenced w.text s.view)
    (hsame : allowTargetMutation = true → severity ≠ .Unlocked → SameDocument w.text s.view) :
    Fences w (settle w mode severity reason allowTargetMutation) s := by
  unfold settle
  split
  · exact applyContainment_guarded severity reason hfenced hsame
  · exact (settleNonActiveMode_leaves mode severity).guarded hfenced

/-! ## Raising -/

theorem raiseIgnored_leaves : Leaves w raiseIgnored := by
  refine leaves_bind leaves_readState fun current => ?_
  exact leaves_bind (settleNonActiveMode_leaves _ _) fun _ => leaves_pure _

theorem raiseUnfenced_guarded (mode : IncidentResponseMode) (previousSeverity : IncidentSeverity)
    (fenced : TargetRegistration) (source : IncidentSource) (reason : Bytes)
    (hfenced : Fenced w.text s.view) (hlive : ¬Active s.view.system.lockstatus.live) :
    Fences w (raiseUnfenced w mode previousSeverity fenced source reason) s := by
  have hencode : Bounded Lowering encodeDurableBrokenState s.view.system.lockstatus :=
    (bounded_makes (encode_makes none) _).allow fun _ _ hop => .withdraw hop
  refine spec_bind (lowering_guarded hlive hfenced hencode) fun broken s₁ hbroken => ?_
  refine guarded_bind_leaves (settle_guarded mode _ _ hbroken.1 nofun) fun contained => ?_
  refine leaves_bind (leaves_update _) fun _ => ?_
  refine leaves_bind (recordAudit_leaves _ _ _ _) fun _ => ?_
  exact leaves_bind (notifySeverity_leaves _ _) fun _ => leaves_pure _

theorem raiseUnpersisted_guarded (mode : IncidentResponseMode) (result : IncidentResult)
    (source : IncidentSource) (reason : Bytes) (hfenced : Fenced w.text s.view) :
    Fences w (raiseUnpersisted w mode result source reason) s := by
  unfold raiseUnpersisted
  split
  · refine guarded_bind_leaves ((settleNonActiveMode_leaves _ _).guarded hfenced) fun passive => ?_
    refine leaves_bind (recordAudit_leaves _ _ _ _) fun _ => ?_
    exact leaves_bind (notifySeverity_leaves _ _) fun _ => leaves_pure _
  · refine guarded_bind_leaves (applyContainment_guarded _ _ hfenced nofun) fun contained => ?_
    refine leaves_bind (leaves_update _) fun _ => ?_
    refine leaves_bind (recordAudit_leaves _ _ _ _) fun _ => ?_
    refine leaves_bind (recordAudit_leaves _ _ _ _) fun _ => ?_
    exact leaves_bind (notifySeverity_leaves _ _) fun _ => leaves_pure _

theorem raisePersisted_guarded (mode : IncidentResponseMode) (result : IncidentResult)
    (source : IncidentSource) (reason : Bytes) (hfenced : Fenced w.text s.view)
    (hsame : SameDocument w.text s.view) :
    Fences w (raisePersisted w mode result source reason) s := by
  unfold raisePersisted
  split
  · refine guarded_bind_leaves ((settleNonActiveMode_leaves _ _).guarded hfenced) fun passive => ?_
    refine leaves_bind (recordAudit_leaves _ _ _ _) fun _ => ?_
    exact leaves_bind (whenever_leaves _ (notifySeverity_leaves _ _)) fun _ => leaves_pure _
  · refine spec_bind (leaves_update _ s hfenced) fun _ s₁ hfiles => ?_
    refine guarded_bind_leaves (applyContainment_guarded _ _ (hfiles.fenced hfenced)
      fun _ _ => hfiles.sameDocument hsame) fun contained => ?_
    refine leaves_bind (recordAudit_leaves _ _ _ _) fun _ => ?_
    exact leaves_bind (whenever_leaves _ (notifySeverity_leaves _ _)) fun _ => leaves_pure _

/-- A call on lockstatus alone leaves the two copies of the target store. -/
theorem LockstatusOnly.sameDocument {v' : View} (h : LockstatusOnly v v')
    (hsame : SameDocument text v) : SameDocument text v' := by
  unfold SameDocument
  rw [h.targets]
  exact hsame

theorem raiseStored_guarded (mode : IncidentResponseMode) (previousSeverity : IncidentSeverity)
    (source : IncidentSource) (reason : Bytes) (hsame : SameDocument w.text s.view)
    (hraise : FencesOn w (onLockstatus (raiseToAtLeast w.identity requested)) s) :
    Fences w (raiseStored w mode previousSeverity requested source reason) s := by
  refine spec_bind hraise fun raised s₁ hraised => ?_
  refine spec_bind (spec_readState hraised.1) fun after s₂ hafter => ?_
  have hfenced : Fenced w.text s₂.view := by
    rw [hafter.2]
    exact hraised.1
  dsimp only
  split
  · exact raiseUnpersisted_guarded mode _ source reason hfenced
  · refine raisePersisted_guarded mode _ source reason hfenced ?_
    rw [hafter.2]
    exact LockstatusOnly.sameDocument hraised.2 hsame

end Controller

/-! ## Operations -/

/-- The files agree on the incident: an active severity is not durably `UNLOCKED`, and the
two copies of the target store read the same. -/
structure Trusted (text : JsonText) (v : View) : Prop where
  firm : Active v.system.lockstatus.live → ¬ProvenAt .Unlocked v.system.lockstatus.durable
  same : SameDocument text v

/-- A raise that is not a new incident. -/
theorem onLockstatus_raise_guarded (hfenced : Fenced w.text s.view)
    (htrusted : Trusted w.text s.view)
    (hnew : ProvenAt .Unlocked s.view.system.lockstatus.live → requested = .Unlocked) :
    FencesOn w (onLockstatus (raiseToAtLeast w.identity requested)) s := by
  by_cases hlive : Active s.view.system.lockstatus.live
  · exact firm_guarded (hfenced (.inl hlive))
      (raise_firm w.identity requested hlive (htrusted.firm hlive))
  · exact lowering_guarded hlive hfenced (raise_lowers w.identity hlive hnew)

namespace Controller

theorem raise_guarded (requested : IncidentSeverity) (source : IncidentSource) (reason : Bytes)
    (hfenced : Fenced w.text s.view) (htrusted : Trusted w.text s.view) :
    Fences w (raise w requested source reason) s := by
  refine spec_bind (leaves_call .resolveMode s hfenced) fun mode s₁ hfiles₁ => ?_
  have hfenced₁ := hfiles₁.fenced hfenced
  split
  · exact raiseIgnored_leaves.guarded hfenced₁
  refine spec_bind (spec_readState hfenced₁) fun before s₂ hbefore => ?_
  have htrusted₂ : Trusted w.text s₂.view := by
    rw [hbefore.2]
    refine ⟨?_, hfiles₁.sameDocument htrusted.same⟩
    rw [hfiles₁.lockstatus]
    exact htrusted.firm
  rw [← hbefore.2] at hfenced₁ hbefore
  split
  · -- a new incident: the store is emptied before anything active is published
    next hnew =>
    have hunlocked : ProvenAt .Unlocked s₂.view.system.lockstatus.live := by
      rw [hbefore.1] at hnew
      exact ⟨hnew.1, hnew.2.1⟩
    refine spec_bind (fenceNewIncident_guarded hfenced₁) fun fenced s₃ hfenceds => ?_
    split
    · refine raiseUnfenced_guarded mode _ fenced source reason hfenceds.1 ?_
      rw [hfenceds.2.1]
      exact fun hactive => hactive.not_unlocked hunlocked
    · next hok =>
      obtain ⟨hempty, hsame⟩ := hfenceds.2.2 (by simpa using hok)
      exact raiseStored_guarded mode _ source reason hsame (noTargets_guarded hempty)
  · next hnew =>
    refine raiseStored_guarded mode _ source reason htrusted₂.same ?_
    refine onLockstatus_raise_guarded hfenced₁ htrusted₂ fun hunlocked => ?_
    by_contra hrequested
    refine hnew ⟨?_, ?_, ?_⟩
    · rw [hbefore.1]
      exact hunlocked.1
    · rw [hbefore.1]
      exact hunlocked.2
    · cases requested with
      | Unlocked => exact absurd rfl hrequested
      | Soft => rfl
      | Standard => rfl
      | Hard => rfl
      | Isolate => rfl

theorem clearRefused_guarded (mode : IncidentResponseMode) (result : IncidentResult)
    (persistence : PersistenceResult) (actor : Bytes) (hfenced : Fenced w.text s.view)
    (hsame : SameDocument w.text s.view) :
    Fences w (clearRefused w mode result persistence actor) s := by
  refine guarded_bind_leaves (settle_guarded mode _ _ hfenced fun _ _ => hsame) fun contained => ?_
  refine leaves_bind (whenever_leaves _ (leaves_update _)) fun _ => ?_
  exact leaves_bind (recordAudit_leaves _ _ _ _) fun _ => leaves_pure _

theorem cleanTargets_guarded (hfenced : Fenced w.text s.view) :
    Fences w (cleanTargets w) s := by
  refine spec_bind (spec_currentIncidentBootId hfenced) fun bootId s₁ hboot => ?_
  rw [← hboot.2] at hfenced
  refine spec_bind (spec_readTargets hfenced) fun store s₂ hstore => ?_
  rw [← hstore.2] at hfenced
  split
  · exact spec_pure hfenced
  split
  · exact spec_pure hfenced
  cases nextGeneration store with
  | none => exact spec_pure hfenced
  | some incidentGeneration =>
    exact spec_mono (writeTargets_guarded hfenced store nofun) fun _ _ hwritten => hwritten.1.fenced

theorem clearStored_guarded (mode : IncidentResponseMode) (result : IncidentResult) (actor : Bytes)
    (hfenced : Fenced w.text s.view) :
    Fences w (clearStored w mode result actor) s := by
  refine spec_bind (cleanTargets_guarded hfenced) fun cleaned s₁ hfenced₁ => ?_
  refine spec_bind (leaves_update _ s₁ hfenced₁) fun _ s₂ hfiles => ?_
  refine guarded_bind_leaves (settle_guarded mode _ _ (hfiles.fenced hfenced₁)
    fun _ hactive => absurd rfl hactive) fun contained => ?_
  refine leaves_bind (whenever_leaves _ (leaves_update _)) fun _ => ?_
  refine leaves_bind (leaves_update _) fun _ => ?_
  refine leaves_bind (recordAudit_leaves _ _ _ _) fun _ => ?_
  exact leaves_bind (whenever_leaves _ (leaves_call (.notifySink _ _))) fun _ => leaves_pure _

theorem clear_guarded (actor : Bytes) (hfenced : Fenced w.text s.view)
    (htrusted : Trusted w.text s.view) :
    Fences w (clear w actor) s := by
  refine spec_bind (leaves_call .resolveMode s hfenced) fun mode s₁ hfiles₁ => ?_
  refine spec_bind (leaves_update _ s₁ (hfiles₁.fenced hfenced)) fun _ s₂ hfiles₂ => ?_
  have hfiles₂ := hfiles₁.trans hfiles₂
  refine spec_bind (leaves_readState s₂ (hfiles₂.fenced hfenced)) fun before s₃ hfiles₃ => ?_
  have hfiles₃ := hfiles₂.trans hfiles₃
  have hclear : FencesOn w (onLockstatus (Incident.clear w.identity)) s₃ := by
    by_cases hlive : Active s₃.view.system.lockstatus.live
    · have hfirm := hlive
      rw [hfiles₃.lockstatus] at hfirm
      refine firm_guarded (hfiles₃.fenced hfenced (.inl hlive)) (clear_firm w.identity hlive ?_)
      rw [hfiles₃.lockstatus]
      exact htrusted.firm hfirm
    · exact lowering_guarded hlive (hfiles₃.fenced hfenced) (clear_lowers w.identity hlive)
  refine spec_bind hclear fun cleared s₄ hcleared => ?_
  refine spec_bind (leaves_readState s₄ hcleared.1) fun after s₅ hfiles₅ => ?_
  split
  · refine clearRefused_guarded mode _ _ actor (hfiles₅.fenced hcleared.1) ?_
    refine hfiles₅.sameDocument (LockstatusOnly.sameDocument hcleared.2 ?_)
    exact hfiles₃.sameDocument htrusted.same
  · exact clearStored_guarded mode _ actor (hfiles₅.fenced hcleared.1)

theorem reconcile_guarded (hfenced : Fenced w.text s.view) (hsame : SameDocument w.text s.view) :
    Fences w (reconcile w) s := by
  refine spec_bind (leaves_readState s hfenced) fun state s₁ hfiles₁ => ?_
  refine spec_bind (leaves_call .resolveMode s₁ (hfiles₁.fenced hfenced)) fun mode s₂ hfiles₂ => ?_
  have hfiles₂ := hfiles₁.trans hfiles₂
  refine guarded_bind_leaves (settle_guarded mode _ _ (hfiles₂.fenced hfenced)
    fun _ _ => hfiles₂.sameDocument hsame) fun contained => ?_
  refine leaves_bind (whenever_leaves _ (leaves_update _)) fun _ => ?_
  exact leaves_bind (whenever_leaves _ (leaves_update _)) fun _ => leaves_pure _

end Controller

inductive Call
  | raise (requested : IncidentSeverity) (source : IncidentSource) (reason : Bytes)
  | clear (actor : Bytes)
  | reconcile

def Call.program (w : Wiring) : Call → ControlM IncidentResult
  | .raise requested source reason => Controller.raise w requested source reason
  | .clear actor => Controller.clear w actor
  | .reconcile => Controller.reconcile w

theorem call_guarded (operation : Call) (hfenced : Fenced w.text s.view)
    (htrusted : Trusted w.text s.view) :
    Fences w (operation.program w) s := by
  cases operation with
  | raise requested source reason => exact Controller.raise_guarded _ _ _ hfenced htrusted
  | clear actor => exact Controller.clear_guarded actor hfenced htrusted
  | reconcile => exact Controller.reconcile_guarded hfenced htrusted.same

end Guarded

/-! ## Runs -/

/-- What happens to the daemon.  It can be stopped in the middle of an operation. -/
inductive DaemonEvent
  | returned (operation : Call) (faults : Nat → ControlFault)
  | stopped (operation : Call) (faults : List ControlFault)
  | restarted
  | booted (bootId : Bytes)

/-- A restart loses what the controller remembers. -/
def System.restart (system : System) : System := { system with memory := {} }

/-- A boot also brings back the durable copies of the files. -/
def System.boot (system : System) (bootId : Bytes) : System :=
  { lockstatus := system.lockstatus.restore
    targets := system.targets.restore, bootId }

def DaemonEvent.apply (w : Wiring) (s : Watched) : DaemonEvent → Watched
  | .returned operation faults => (watchedMachine.exec (operation.program w).run faults s).2
  | .stopped operation faults =>
    let stopped := (watchedMachine.run ((operation.program w).run, s) faults).2
    (stopped.1.restart, stopped.2)
  | .restarted => (s.1.restart, s.2)
  | .booted bootId => (s.1.boot bootId, s.2)

def runDaemon (w : Wiring) (s : Watched) (events : List DaemonEvent) : Watched :=
  events.foldl (DaemonEvent.apply w) s

/-- The event starts an operation. -/
def DaemonEvent.Operates : DaemonEvent → Prop
  | .returned _ _ => True
  | .stopped _ _ => True
  | _ => False

/-- Every operation of the run starts from files that agree on the incident. -/
def TrustedRun (w : Wiring) : Watched → List DaemonEvent → Prop
  | _, [] => True
  | s, event :: events =>
    (event.Operates → Trusted w.text s.view) ∧ TrustedRun w (event.apply w s) events

section Runs

variable {w : Wiring} {s : Watched}

theorem fenced_boot (h : Fenced text v) (bootId : Bytes) :
    Fenced text { v with system := v.system.boot bootId } := by
  intro hactive
  have hdurable : Active v.system.lockstatus.durable := hactive.elim id id
  have hclean := h (.inr hdurable)
  exact ⟨hclean.2, hclean.2⟩

/-- However an operation ends, the store is fenced. -/
theorem fenced_of_ends {result : Option IncidentResult} {s' : Watched}
    (h : Machine.Ends (fun _ s => Fenced w.text s.view) (fun s => Fenced w.text s.view) result s') :
    Fenced w.text s'.view := by
  cases result with
  | none => exact h
  | some value => exact h

/-- An event keeps the store fenced. -/
theorem fenced_apply (event : DaemonEvent) (hfenced : Fenced w.text s.view)
    (htrusted : event.Operates → Trusted w.text s.view) :
    Fenced w.text (event.apply w s).view := by
  cases event with
  | returned operation faults =>
    exact fenced_of_ends ((call_guarded operation hfenced (htrusted trivial)).exec faults)
  | stopped operation faults =>
    let config := ((operation.program w).run, s)
    have hstart : watchedMachine.Safe
        (Permitted (Fenced w.text) (Authorized w.text)) Eq Grows
        (Machine.Ends (fun _ s => Fenced w.text s.view) fun s => Fenced w.text s.view)
        config.1 config.2 := call_guarded operation hfenced (htrusted trivial)
    exact (hstart.run faults).1.now (fun s _ hpermitted => hpermitted.1)
      fun _ _ hends => fenced_of_ends hends
  | restarted => exact hfenced
  | booted bootId => exact fenced_boot hfenced bootId

theorem fenced_runDaemon (events : List DaemonEvent) (hfenced : Fenced w.text s.view)
    (htrusted : TrustedRun w s events) : Fenced w.text (runDaemon w s events).view := by
  induction events generalizing s with
  | nil => exact hfenced
  | cons event events ih => exact ih (fenced_apply event hfenced htrusted.1) htrusted.2

/-- From a host without an active severity, however the daemon is stopped, restarted and booted
and whatever fails: as long as every operation starts from files that agree on the incident,
each termination is authorized. -/
theorem terminations_authorized (w : Wiring) {s : Watched} (hlive : ¬Active s.1.lockstatus.live)
    (hdurable : ¬Active s.1.lockstatus.durable) (events : List DaemonEvent)
    (htrusted : TrustedRun w s events) (operation : Call)
    (hnext : Trusted w.text (runDaemon w s events).view) {state : Watched} {op : ControlOp}
    (hcalls : watchedMachine.Calls (operation.program w).run (runDaemon w s events) state op) :
    Authorized w.text state.view op := by
  have hfenced : Fenced w.text s.view := fun hactive => (hactive.elim hlive hdurable).elim
  have hguarded := call_guarded operation (fenced_runDaemon events hfenced htrusted) hnext
  have hpermitted := hguarded.calls hcalls
  by_cases hterminates : op.terminates = true
  · exact hpermitted.2 hterminates
  · cases op <;> trivial

end Runs

/-! ## Two runs -/

def sampleSession : LoginSession :=
  { id := lit "1", uid := 1000, user := lit "user", className := lit "user", ordinary := true
    startTimestamp := 1 }

def sampleWiring : Wiring := { text := TargetStore.plainText }

/-- A host without an incident and without a target store. -/
def sampleHost : System :=
  { lockstatus := unlockedFile, targets := { live := .absent, durable := .absent }
    bootId := lit "01234567-89ab-cdef-0123-456789abcdef" }

/-- One session; from call `first` on no barrier succeeds. -/
def sampleFaults (first n : Nat) : ControlFault :=
  { file := { unsynced := first ≤ n, identity := ⟨1, n.toUInt64⟩ }
    inventory := { proven := true, sessions := [sampleSession] } }

/-- The first calls of an operation, without a fault. -/
def sampleRun (operation : Call) (s : Watched) (calls : Nat) :
    Program ControlOp ControlOp.Answer (Option IncidentResult) × Watched :=
  watchedMachine.run ((operation.program sampleWiring).run, s)
    ((List.range calls).map (sampleFaults calls))

/-- The session that a program terminates with its next call. -/
def nextTermination : Program ControlOp ControlOp.Answer (Option IncidentResult) →
    Option LoginSession
  | .call (.terminateSession session) _ => some session
  | _ => none

theorem calls_of_nextTermination {operation : Call} {s : Watched} {calls : Nat}
    {session : LoginSession} (h : nextTermination (sampleRun operation s calls).1 = some session) :
    watchedMachine.Calls (operation.program sampleWiring).run s (sampleRun operation s calls).2
      (.terminateSession session) := by
  cases hnext : (sampleRun operation s calls).1 with
  | done value => rw [hnext] at h; cases h
  | call op next =>
    rw [hnext] at h
    cases op with
    | terminateSession found =>
      rw [← Option.some.inj h]
      exact Machine.Calls.of_run hnext
    | _ => cases h

/-- A raise to `HARD` terminates the session that it has registered. -/
theorem raise_terminates_registered :
    nextTermination (sampleRun (.raise .Hard {} []) (sampleHost, {}) 30).1 = some sampleSession ∧
      Authorized sampleWiring.text (sampleRun (.raise .Hard {} []) (sampleHost, {}) 30).2.view
        (.terminateSession sampleSession) := by
  have hnext : nextTermination (sampleRun (.raise .Hard {} []) (sampleHost, {}) 30).1 =
      some sampleSession := by
    decide +kernel
  have hidle : ¬Active sampleHost.lockstatus.live := by decide +kernel
  have htrusted : Trusted sampleWiring.text ⟨sampleHost, []⟩ :=
    ⟨fun hactive => absurd hactive hidle, rfl⟩
  exact ⟨hnext, terminations_authorized sampleWiring (s := (sampleHost, {})) hidle hidle [] trivial
    (.raise .Hard {} []) htrusted (calls_of_nextTermination hnext)⟩

/-- The barriers behind the registration of a raise fail.  The next reconciliation finds the
target in the store, writes nothing and terminates the session, while the durable store holds
no target. -/
theorem terminated_before_durable :
    let s := runDaemon sampleWiring (sampleHost, {})
      [.returned (.raise .Hard {} []) (sampleFaults 20)]
    ¬Active sampleHost.lockstatus.live ∧ ¬Active sampleHost.lockstatus.durable ∧
      watchedMachine.Calls (Call.reconcile.program sampleWiring).run s (sampleRun .reconcile s 19).2
        (.terminateSession sampleSession) ∧
      ¬Authorized sampleWiring.text (sampleRun .reconcile s 19).2.view
        (.terminateSession sampleSession) := by
  refine ⟨by decide +kernel, by decide +kernel, calls_of_nextTermination (by decide +kernel), ?_⟩
  rintro ⟨document, hdocument, -, -, target, htarget, -⟩
  have hempty : (documentOf sampleWiring.text (sampleRun .reconcile (runDaemon sampleWiring
      (sampleHost, {}) [.returned (.raise .Hard {} []) (sampleFaults 20)])
      19).2.view.system.targets.durable).map (·.targets) = some [] := by
    decide +kernel
  rw [hdocument, Option.map_some] at hempty
  have hnone : document.targets = [] := Option.some.inj hempty
  rw [hnone] at htarget
  cases htarget

end Fic.Incident
