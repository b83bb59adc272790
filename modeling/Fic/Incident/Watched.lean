import Fic.Incident.Clear
import Fic.Incident.ControllerCalls

/-!
# Watching the controller

What the properties of the controller speak about is recorded beside the system: every call
with its answer, and the proven session inventories since lockstatus last left `UNLOCKED`
durably.  A `View` is the system with these inventories.

`Spec` is a specification of a program of the controller that runs alone.  Every call is made
in a view that satisfies the invariant, a termination also in one that authorizes it, and
the result satisfies the postcondition.  The faults that may happen are a parameter.
-/

namespace Fic.Incident

open Fic.Lib Fic.Core

variable {op : ControlOp}

/-! ## The record -/

abbrev ControlTrace := Program.Trace ControlOp ControlOp.Answer

structure Watch where
  inventories : List (List LoginSession) := []
  log : ControlTrace := []

/-- Lockstatus leaves `UNLOCKED` durably. -/
def Opens (before after : System) : Prop :=
  ProvenAt .Unlocked before.lockstatus.durable ∧ ¬ProvenAt .Unlocked after.lockstatus.durable

instance (before after : System) : Decidable (Opens before after) :=
  inferInstanceAs (Decidable (_ ∧ ¬_))

def addInventory (inventories : List (List LoginSession)) (inventory : SessionInventoryResult) :
    List (List LoginSession) :=
  if inventory.proven then inventory.sessions :: inventories else inventories

def inventoriesAfter (inventories : List (List LoginSession)) (before after : System) :
    (op : ControlOp) → op.Answer → List (List LoginSession)
  | .listSessions, answer => addInventory inventories answer
  | .lockstatus _, _ => if Opens before after then [] else inventories
  | _, _ => inventories

def watch (record : Watch) (before : System) (op : ControlOp) (answer : op.Answer)
    (after : System) : Watch :=
  { inventories := inventoriesAfter record.inventories before after op answer
    log := record.log ++ [⟨op, answer⟩] }

abbrev Watched := System × Watch

def watchedMachine : Machine ControlOp ControlOp.Answer ControlFault Watched :=
  controlMachine.observe watch

/-- What invariants speak about. -/
structure View where
  system : System
  inventories : List (List LoginSession)

def Watched.view (s : Watched) : View := ⟨s.1, s.2.inventories⟩

/-- The log only grows. -/
def Grows (s s' : Watched) : Prop := s.2.log ⊆ s'.2.log

theorem grows_perform (s : Watched) (op : ControlOp) (fault : ControlFault) :
    Grows s (watchedMachine.perform s op fault).2 := List.subset_append_left _ _

/-! ## Specifications -/

def ControlOp.terminates : ControlOp → Bool
  | .terminateSession _ => true
  | .terminateUser _ => true
  | _ => false

section Spec

variable {α β : Type} {inv : View → Prop} {authorized : View → ControlOp → Prop}
  {post : α → Watched → Prop} {s : Watched}

/-- When a call may be made. -/
def Permitted (inv : View → Prop) (authorized : View → ControlOp → Prop) (s : Watched)
    (op : ControlOp) : Prop :=
  inv s.view ∧ (op.terminates = true → authorized s.view op)

abbrev Spec (inv : View → Prop) (authorized : View → ControlOp → Prop)
    (post : α → Watched → Prop) (x : ControlM α) (s : Watched) : Prop :=
  watchedMachine.Safe (Permitted inv authorized) Eq Grows
    (Machine.Ends post fun s => inv s.view) x.run s

theorem spec_pure {value : α} (h : post value s) : Spec inv authorized post (pure value) s := by
  rintro _ rfl
  exact h

variable {x : ControlM α}

theorem spec_ite {c : Prop} [Decidable c] {y : ControlM α}
    (hx : c → Spec inv authorized post x s) (hy : ¬c → Spec inv authorized post y s) :
    Spec inv authorized post (if c then x else y) s := by
  split_ifs with hc
  · exact hx hc
  · exact hy hc

variable {f : α → ControlM β}

theorem spec_bind {post' : β → Watched → Prop}
    (h : Spec inv authorized post x s)
    (hf : ∀ value s', post value s' → Spec inv authorized post' (f value) s') :
    Spec inv authorized post' (x >>= f) s :=
  Machine.Safe.bind_throw h hf fun _ _ hthrown heq => heq ▸ hthrown

theorem spec_mono {post' : α → Watched → Prop}
    (h : Spec inv authorized post x s) (hpost : ∀ value s', post value s' → post' value s') :
    Spec inv authorized post' x s := by
  refine Machine.Safe.mono h (fun _ _ hgrows => hgrows) fun result s' hends => ?_
  cases result with
  | none => exact hends
  | some value => exact hpost value s' hends

/-! ## Calls -/

section

variable (hinv : inv s.view)

include hinv

theorem spec_call {post : op.Answer → Watched → Prop}
    (hauthorized : op.terminates = true → authorized s.view op)
    (h : ∀ fault, post (watchedMachine.perform s op fault).1
      (watchedMachine.perform s op fault).2) : Spec inv authorized post (call op) s := by
  rintro _ rfl
  refine ⟨⟨hinv, hauthorized⟩, fun fault => ⟨grows_perform s op fault, ?_⟩⟩
  rintro _ rfl
  exact h fault

theorem spec_remembered :
    Spec inv authorized (fun memory s' => memory = s.view.system.memory ∧ s'.view = s.view)
      remembered s :=
  spec_call hinv nofun fun _ => ⟨rfl, rfl⟩

theorem spec_update {f : Memory → Memory} :
    Spec inv authorized (fun _ s' => s'.view = { s.view with
      system := { s.view.system with memory := f s.view.system.memory } }) (update f) s := by
  refine spec_bind (spec_remembered hinv) fun memory s₁ hread => ?_
  refine spec_call (by rw [hread.2]; exact hinv) nofun fun fault => ?_
  have hview : s₁.view = s.view := hread.2
  rw [hread.1, ← hview]
  rfl

theorem spec_currentIncidentBootId :
    Spec inv authorized (fun bootId s' => (bootId = [] ∨ bootId = s.view.system.bootId) ∧
      s'.view = s.view) currentIncidentBootId s := by
  refine spec_call hinv nofun fun fault => ⟨?_, rfl⟩
  show (if fault.bootUnreadable = true then [] else s.1.bootId) = [] ∨ _
  by_cases hunreadable : fault.bootUnreadable = true
  · exact .inl (if_pos hunreadable)
  · exact .inr (if_neg hunreadable)

theorem spec_listSessions :
    Spec inv authorized (fun inventory s' =>
      s'.view = { s.view with inventories := addInventory s.view.inventories inventory })
      Backend.listSessions s :=
  spec_call hinv nofun fun _ => rfl

end

/-! ## Programs of the stores -/

/-- The view behind a call on lockstatus. -/
def View.onLockstatus (v : View) (op : FileOp) (fault : FileFault) : View :=
  let system := { v.system with lockstatus := (fileMachine.perform v.system.lockstatus op fault).2 }
  { system, inventories := if Opens v.system system then [] else v.inventories }

/-- The view behind a call on the target store. -/
def View.onTargets (v : View) (op : FileOp) (fault : FileFault) : View :=
  { v with system :=
      { v.system with targets := (fileMachine.perform v.system.targets op fault).2 } }

variable {allowed : StoredFile → FileOp → Prop} {guarantee : StoredFile → StoredFile → Prop}
  {filePost : α → StoredFile → Prop} {p : FileProgram α}

theorem spec_onLockstatus (keep : View → Prop) (hinv : ∀ v, keep v → inv v)
    (hstep : ∀ v op fault, keep v → allowed v.system.lockstatus op →
      guarantee v.system.lockstatus (fileMachine.perform v.system.lockstatus op fault).2 →
      keep (v.onLockstatus op fault))
    (hkeep : keep s.view)
    (h : fileMachine.Safe allowed Eq guarantee filePost p s.view.system.lockstatus) :
    Spec inv authorized (fun value s' => keep s'.view ∧ filePost value s'.view.system.lockstatus)
      (onLockstatus p) s := by
  have hhandles : Machine.Handles fileMachine watchedMachine allowed
      guarantee (Permitted inv authorized) Grows (fun s => keep s.view)
      (fun s => s.view.system.lockstatus) (fun op => Program.ask (ControlOp.lockstatus op)) := by
    rintro op s hkeep hop hstepped _ rfl
    refine ⟨⟨hinv _ hkeep, nofun⟩, fun fault => ⟨grows_perform s _ fault, ?_⟩⟩
    rintro _ rfl
    exact ⟨hstep s.view op fault.file hkeep hop (hstepped fault.file), fault.file, rfl, rfl⟩
  exact (Machine.Safe.interpret hhandles hkeep h).lift fun _ _ _ hpost heq => heq ▸ hpost

theorem interpret_targets (keep : View → Prop) (hinv : ∀ v, keep v → inv v)
    (hstep : ∀ v op fault, keep v → allowed v.system.targets op →
      guarantee v.system.targets (fileMachine.perform v.system.targets op fault).2 →
      keep (v.onTargets op fault))
    (hkeep : keep s.view)
    (h : fileMachine.Safe allowed Eq guarantee filePost p s.view.system.targets) :
    watchedMachine.Safe (Permitted inv authorized) Eq Grows
      (fun value s' => keep s'.view ∧ filePost value s'.view.system.targets)
      (p.interpret fun op => Program.ask (ControlOp.targets op)) s := by
  have hhandles : Machine.Handles fileMachine watchedMachine allowed
      guarantee (Permitted inv authorized) Grows (fun s => keep s.view)
      (fun s => s.view.system.targets) (fun op => Program.ask (ControlOp.targets op)) := by
    rintro op s hkeep hop hstepped _ rfl
    refine ⟨⟨hinv _ hkeep, nofun⟩, fun fault => ⟨grows_perform s _ fault, ?_⟩⟩
    rintro _ rfl
    exact ⟨hstep s.view op fault.file hkeep hop (hstepped fault.file), fault.file, rfl, rfl⟩
  exact Machine.Safe.interpret hhandles hkeep h

theorem spec_readState (hinv : inv s.view) :
    Spec inv authorized (fun state s' => state = readResult s.view.system.lockstatus.live ∧
      s'.view = s.view) readState s := by
  -- a read changes nothing, so lockstatus does not leave `UNLOCKED`
  have hopens : ¬Opens s.1 s.1 := fun h => h.2 h.1
  rintro _ rfl
  refine ⟨⟨hinv, nofun⟩, fun fault => ⟨grows_perform s _ fault, ?_⟩⟩
  rintro _ rfl
  refine ⟨rfl, ?_⟩
  show View.mk s.1 (if Opens s.1 s.1 then [] else s.2.inventories) = s.view
  rw [if_neg hopens]
  rfl

theorem spec_readTargets {w : Wiring} (hinv : inv s.view) :
    Spec inv authorized (fun store s' =>
      store = TargetStore.readResult w.text s.view.system.targets.live ∧ s'.view = s.view)
      (readTargets w) s := by
  rintro _ rfl
  refine ⟨⟨hinv, nofun⟩, fun fault => ⟨grows_perform s _ fault, ?_⟩⟩
  rintro _ rfl
  exact ⟨rfl, rfl⟩

/-! ## Probes -/

/-- The calls that leave the view as it is; `sessions` and `users` may be terminated. -/
inductive Probing (sessions : LoginSession → Prop) (users : LoginUser → Prop) : ControlOp → Prop
  | resolveMode : Probing sessions users .resolveMode
  | accessGateVerifier : Probing sessions users .accessGateVerifier
  | applyQuarantine (enabled : Bool) : Probing sessions users (.applyQuarantine enabled)
  | classifySession (session : LoginSession) : Probing sessions users (.classifySession session)
  | lockSession (session : LoginSession) : Probing sessions users (.lockSession session)
  | verifySessionLocked (session : LoginSession) :
      Probing sessions users (.verifySessionLocked session)
  | terminateSession {session : LoginSession} (h : sessions session) :
      Probing sessions users (.terminateSession session)
  | verifySessionsGone (gone : List LoginSession) :
      Probing sessions users (.verifySessionsGone gone)
  | lookupProvenUser (uid : UInt32) (name : Bytes) :
      Probing sessions users (.lookupProvenUser uid name)
  | terminateUser {user : LoginUser} (h : users user) : Probing sessions users (.terminateUser user)
  | verifyUserRuntimeGone (user : LoginUser) : Probing sessions users (.verifyUserRuntimeGone user)
  | auditSink (event : AuditEvent) : Probing sessions users (.auditSink event)
  | notifySink (severity : IncidentSeverity) (reason : Bytes) :
      Probing sessions users (.notifySink severity reason)

variable {sessions : LoginSession → Prop} {users : LoginUser → Prop} {can : ControlOp → Prop}
  {Q : α → ControlTrace → Prop}

/-- The program makes only these calls and never throws. -/
abbrev Probes (can : ControlOp → Prop) (Q : α → ControlTrace → Prop) (x : ControlM α) : Prop :=
  Program.Probe can (fun result trace => ∃ value, result = some value ∧ Q value trace) x.run

theorem probes_pure {value : α} (h : Q value []) : Probes can Q (pure value) := ⟨value, rfl, h⟩

theorem probes_call {Q : op.Answer → ControlTrace → Prop} (hcan : can op)
    (h : ∀ answer, Q answer [⟨op, answer⟩]) : Probes can Q (call op) :=
  ⟨hcan, fun answer => ⟨answer, rfl, h answer⟩⟩

variable {R : β → ControlTrace → Prop}

theorem probes_bind (h : Probes can Q x)
    (hf : ∀ value trace, Q value trace → Probes can (fun last later => R last (trace ++ later))
      (f value)) :
    Probes can R (x >>= f) := by
  refine Program.Probe.bind h fun result trace hresult => ?_
  obtain ⟨value, rfl, hvalue⟩ := hresult
  exact hf value trace hvalue

theorem probes_ite {c : Prop} [Decidable c] {y : ControlM α} (hx : c → Probes can Q x)
    (hy : ¬c → Probes can Q y) : Probes can Q (if c then x else y) := by
  split_ifs with hc
  · exact hx hc
  · exact hy hc

theorem probes_ask {f : op.Answer → ControlM β} (hcan : can op)
    (h : ∀ answer, Probes can (fun last later => R last (⟨op, answer⟩ :: later)) (f answer)) :
    Probes can R (call op >>= f) := by
  have hcall : Probes can (fun answer trace => trace = [⟨op, answer⟩]) (call op) :=
    probes_call hcan fun _ => rfl
  refine probes_bind hcall fun answer trace htrace => ?_
  subst htrace
  exact h answer

theorem probes_mono {R : α → ControlTrace → Prop} (h : Probes can Q x)
    (hQ : ∀ value trace, Q value trace → R value trace) : Probes can R x := by
  refine Program.Probe.mono h (fun _ hcan => hcan) fun result trace hresult => ?_
  obtain ⟨value, rfl, hvalue⟩ := hresult
  exact ⟨value, rfl, hQ value trace hvalue⟩

/-- The view is the same and the trace is added to the log. -/
def Grown (s : Watched) (trace : ControlTrace) (s' : Watched) : Prop :=
  s'.view = s.view ∧ s'.2.log = s.2.log ++ trace

theorem grown_perform {s' : Watched} {trace : ControlTrace} (hop : Probing sessions users op)
    (fault : ControlFault) (h : Grown s trace s') :
    Grown s (trace ++ [⟨op, (watchedMachine.perform s' op fault).1⟩])
      (watchedMachine.perform s' op fault).2 := by
  have hlog : (watchedMachine.perform s' op fault).2.2.log =
    s'.2.log ++ [⟨op, (watchedMachine.perform s' op fault).1⟩] := rfl
  refine ⟨?_, by rw [hlog, h.2, List.append_assoc]⟩
  rw [← h.1]
  cases hop <;> rfl

/-- What a probe calls is permitted where its terminations are authorized. -/
theorem permitted_probing (hinv : inv s.view)
    (hsessions : ∀ session, sessions session → authorized s.view (.terminateSession session))
    (husers : ∀ user, users user → authorized s.view (.terminateUser user))
    (hop : Probing sessions users op) : Permitted inv authorized s op := by
  refine ⟨hinv, fun hterminates => ?_⟩
  cases hop with
  | terminateSession h => exact hsessions _ h
  | terminateUser h => exact husers _ h
  | _ => cases hterminates

/-- A probe leaves the view and adds its trace to the log. -/
theorem spec_probes (hinv : inv s.view)
    (hsessions : ∀ session, sessions session → authorized s.view (.terminateSession session))
    (husers : ∀ user, users user → authorized s.view (.terminateUser user))
    (h : Probes (Probing sessions users) Q x) :
    Spec inv authorized (fun value s' => s'.view = s.view ∧
      ∃ trace, s'.2.log = s.2.log ++ trace ∧ Q value trace) x s := by
  have hsafe : watchedMachine.Safe (Permitted inv authorized) Eq Grows
      (fun result s' => ∃ trace, Grown s trace s' ∧ ∃ value, result = some value ∧ Q value trace)
      x.run s := by
    refine Machine.Safe.probe Grown ?_ ⟨rfl, (List.append_nil _).symm⟩ ?_ ?_ h
    · exact fun _ _ _ op fault hop hgrown => grown_perform hop fault hgrown
    · intro trace s' op hgrown hop
      refine permitted_probing ?_ ?_ ?_ hop
      all_goals rw [hgrown.1]
      · exact hinv
      · exact hsessions
      · exact husers
    · exact fun s' op fault _ => grows_perform s' op fault
  refine hsafe.mono (fun _ _ hgrows => hgrows) fun result s' hresult => ?_
  obtain ⟨trace, ⟨hview, hlog⟩, value, rfl, hvalue⟩ := hresult
  exact ⟨hview, trace, hlog, hvalue⟩

end Spec

end Fic.Incident
