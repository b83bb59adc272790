import Fic.Incident.Watched

/-!
# The parts of the containment that only probe

The parts of `applyContainment` that ask the backends and change neither file.  Each lemma
says which calls the part makes, and relates what it returns to the answers in its trace.
-/

namespace Fic.Incident

open Fic.Core

variable {sessions : LoginSession → Prop} {users : LoginUser → Prop} {visit : Visit}
  {trace trace' : ControlTrace} {target : IncidentSessionTarget}

abbrev nobody {α : Type} : α → Prop := fun _ => False

/-! ## Gate and network -/

theorem verifyAccessGate_probes (w : Wiring) {severity : IncidentSeverity}
    (h : .Standard ≤ severity) :
    Probes (Probing nobody nobody) (fun stage trace => stage.contained = true →
      ∃ verdict : Verdict, ⟨.accessGateVerifier, some verdict⟩ ∈ trace ∧ verdict.holds = true)
      (verifyAccessGate w severity) := by
  unfold verifyAccessGate
  rw [if_neg (not_lt.mpr h)]
  have hanswer : Probes (Probing nobody nobody) (fun (answer : Option Verdict) trace =>
      ∀ verdict, answer = some verdict → verdict.holds = true →
        (⟨.accessGateVerifier, some verdict⟩ : (op : ControlOp) × op.Answer) ∈ trace)
      (if w.accessGateVerifier = true then call .accessGateVerifier else pure (some {})) := by
    refine probes_ite (fun hwired => ?_) fun hwired => ?_
    · refine probes_call Probing.accessGateVerifier fun answer verdict hverdict _ => ?_
      rw [hverdict]
      exact List.mem_singleton.mpr rfl
    · refine probes_pure fun verdict hverdict hholds => ?_
      rw [← Option.some.inj hverdict] at hholds
      cases hholds
  refine probes_bind hanswer fun answer trace hlogged => probes_pure fun hcontained => ?_
  rw [List.append_nil]
  cases answer with
  | none => cases hcontained
  | some verdict => exact ⟨verdict, hlogged verdict rfl hcontained, hcontained⟩

/-! ## Sessions -/

/-- The session was locked, and the lock was verified. -/
def Locked (session : LoginSession) (trace : ControlTrace) : Prop :=
  ⟨.classifySession session, SessionKind.Graphical⟩ ∈ trace ∧
    (∃ outcome : ContainmentOutcome, ⟨.lockSession session, outcome⟩ ∈ trace ∧
      outcome.performed = true) ∧
    ∃ verdict : Verdict, ⟨.verifySessionLocked session, verdict⟩ ∈ trace ∧ verdict.holds = true

theorem Locked.mono {session : LoginSession} (h : Locked session trace) (hsub : trace ⊆ trace') :
    Locked session trace' := by
  obtain ⟨hkind, ⟨outcome, houtcome, hperformed⟩, verdict, hverdict, hholds⟩ := h
  exact ⟨hsub hkind, ⟨outcome, hsub houtcome, hperformed⟩, verdict, hsub hverdict, hholds⟩

theorem lockVerified_probes (session : LoginSession) :
    Probes (Probing nobody nobody) (fun locked trace => locked = true →
      (∃ outcome : ContainmentOutcome, ⟨.lockSession session, outcome⟩ ∈ trace ∧
        outcome.performed = true) ∧
      ∃ verdict : Verdict, ⟨.verifySessionLocked session, verdict⟩ ∈ trace ∧ verdict.holds = true)
      (lockVerified session) := by
  refine probes_ask (Probing.lockSession session) fun outcome => ?_
  refine probes_ite (fun hperformed => ?_) fun _ => probes_pure nofun
  refine probes_ask (Probing.verifySessionLocked session) fun verdict =>
    probes_pure fun hholds => ?_
  exact ⟨⟨outcome, List.mem_cons_self, hperformed⟩, verdict, by simp, hholds⟩

/-- What is selected from an inventory. -/
structure Selected (severity : IncidentSeverity) (sessions : List LoginSession)
    (selection : Selection) (trace : ControlTrace) : Prop where
  newTargets : selection.newTargets = (sessions.filter isOrdinaryTarget).map sessionTarget
  toTerminate : ∀ session ∈ selection.toTerminate, session ∈ sessions ∧
    isOrdinaryTarget session = true
  covered : ∀ session ∈ sessions, isOrdinaryTarget session = true →
    session ∈ selection.toTerminate ∨ severity = .Standard ∧ Locked session trace

theorem selectSessions_probes (severity : IncidentSeverity) (sessions : List LoginSession) :
    Probes (Probing nobody nobody) (Selected severity sessions)
      (selectSessions severity sessions) := by
  induction sessions with
  | nil => exact probes_pure ⟨rfl, nofun, nofun⟩
  | cons session sessions ih =>
    unfold selectSessions
    refine probes_ite (fun hordinary => ?_) fun hordinary => ?_
    · have hnot : isOrdinaryTarget session = false := by simpa using hordinary
      refine probes_mono ih fun selection trace h => ?_
      refine ⟨by simp [h.newTargets, hnot], fun s hs => ?_, fun s hs hs' => ?_⟩
      · exact ⟨List.mem_cons_of_mem _ (h.toTerminate s hs).1, (h.toTerminate s hs).2⟩
      · rcases List.mem_cons.mp hs with rfl | hs
        · rw [hnot] at hs'
          cases hs'
        · exact h.covered s hs hs'
    have hyes : isOrdinaryTarget session = true := by simpa using hordinary
    refine probes_ask (Probing.classifySession session) fun kind => ?_
    have hlocked : Probes (Probing nobody nobody) (fun locked trace => locked = true →
        severity = .Standard ∧ Locked session (⟨.classifySession session, kind⟩ :: trace))
        (if severity = .Standard ∧ kind = .Graphical then lockVerified session
          else pure false) := by
      refine probes_ite (fun hstandard => ?_) fun _ => probes_pure nofun
      refine probes_mono (lockVerified_probes session) fun locked trace h hlocked => ?_
      obtain ⟨⟨outcome, houtcome, hperformed⟩, verdict, hverdict, hholds⟩ := h hlocked
      refine ⟨hstandard.1, ?_, ⟨outcome, List.mem_cons_of_mem _ houtcome, hperformed⟩,
        verdict, List.mem_cons_of_mem _ hverdict, hholds⟩
      rw [hstandard.2]
      exact List.mem_cons_self
    refine probes_bind hlocked fun locked middle hmiddle => ?_
    refine probes_bind ih fun selection trace h => probes_pure ?_
    refine ⟨?_, fun s hs => ?_, fun s hs hs' => ?_⟩
    · simp [h.newTargets, hyes]
    · have hrest : s ∈ selection.toTerminate → s ∈ session :: sessions ∧
          isOrdinaryTarget s = true :=
        fun hs => ⟨List.mem_cons_of_mem _ (h.toTerminate s hs).1, (h.toTerminate s hs).2⟩
      cases locked with
      | true => exact hrest hs
      | false =>
        rcases List.mem_cons.mp hs with rfl | hs
        · exact ⟨List.mem_cons_self, hyes⟩
        · exact hrest hs
    · rcases List.mem_cons.mp hs with rfl | hs
      · cases locked with
        | true =>
          obtain ⟨hstandard, hlock⟩ := hmiddle rfl
          refine .inr ⟨hstandard, hlock.mono ?_⟩
          exact fun e he => by simp at he ⊢; tauto
        | false => exact .inl List.mem_cons_self
      · rcases h.covered s hs hs' with hterminate | ⟨hstandard, hlock⟩
        · left
          cases locked with
          | true => exact hterminate
          | false => exact List.mem_cons_of_mem _ hterminate
        · exact .inr ⟨hstandard, hlock.mono fun e he => by simp [he]⟩

theorem terminateSessions_probes (toTerminate : List LoginSession)
    (hsessions : ∀ session ∈ toTerminate, sessions session) :
    Probes (Probing sessions nobody) (fun _ trace => ∀ session ∈ toTerminate,
      ∃ outcome : ContainmentOutcome, ⟨.terminateSession session, outcome⟩ ∈ trace)
      (terminateSessions toTerminate) := by
  induction toTerminate with
  | nil => exact probes_pure nofun
  | cons session toTerminate ih =>
    refine probes_ask (Probing.terminateSession (hsessions session List.mem_cons_self))
      fun outcome => ?_
    refine probes_bind (ih fun s hs => hsessions s (List.mem_cons_of_mem _ hs))
      fun failures trace h => probes_pure fun s hs => ?_
    rcases List.mem_cons.mp hs with rfl | hs
    · exact ⟨outcome, List.mem_cons_self⟩
    · obtain ⟨outcome', hlogged⟩ := h s hs
      exact ⟨outcome', by simp [hlogged]⟩

/-- The backend has verified that these sessions are gone. -/
def SessionsGone (sessions : List LoginSession) (trace : ControlTrace) : Prop :=
  ∃ verdict : Verdict, ⟨.verifySessionsGone sessions, verdict⟩ ∈ trace ∧ verdict.holds = true

theorem terminateSelected_probes (toTerminate : List LoginSession)
    (hsessions : ∀ session ∈ toTerminate, sessions session) :
    Probes (Probing sessions nobody) (fun stage trace => stage.targetsUsable = true ∧
      (stage.contained = true → toTerminate = [] ∨ SessionsGone toTerminate trace) ∧
      ∀ session ∈ toTerminate, ∃ outcome : ContainmentOutcome,
        ⟨.terminateSession session, outcome⟩ ∈ trace)
      (terminateSelected toTerminate) := by
  refine probes_bind (terminateSessions_probes toTerminate hsessions) fun failures before h => ?_
  have hgone : Probes (Probing sessions nobody) (fun (gone : Verdict) trace => gone.holds = true →
      toTerminate = [] ∨ SessionsGone toTerminate trace)
      (if toTerminate.isEmpty = true then pure { holds := true }
        else Backend.verifySessionsGone toTerminate) := by
    refine probes_ite (fun hempty => ?_) fun hempty => ?_
    · exact probes_pure fun _ => .inl (List.isEmpty_iff.mp hempty)
    · exact probes_call (Probing.verifySessionsGone toTerminate) fun verdict hholds =>
        .inr ⟨verdict, List.mem_singleton.mpr rfl, hholds⟩
  refine probes_bind hgone fun gone trace hverified => probes_pure ⟨rfl, fun hcontained => ?_, ?_⟩
  · refine (hverified hcontained).imp_right fun hlogged => ?_
    obtain ⟨verdict, hmem, hholds⟩ := hlogged
    exact ⟨verdict, by simp [hmem], hholds⟩
  · intro session hsession
    obtain ⟨outcome, hmem⟩ := h session hsession
    exact ⟨outcome, by simp [hmem]⟩

/-! ## Users -/

/-- The backend has verified that the runtime of the user is gone. -/
def RuntimeGone (target : IncidentSessionTarget) (trace : ControlTrace) : Prop :=
  ∃ (user : LoginUser) (verdict : Verdict), user.uid = target.uid ∧
    user.name = target.canonicalName ∧ ⟨.verifyUserRuntimeGone user, verdict⟩ ∈ trace ∧
    verdict.holds = true

theorem RuntimeGone.mono (h : RuntimeGone target trace) (hsub : trace ⊆ trace') :
    RuntimeGone target trace' := by
  obtain ⟨user, verdict, huid, hname, hmem, hholds⟩ := h
  exact ⟨user, verdict, huid, hname, hsub hmem, hholds⟩

/-- The same record up to its obligation. -/
def SameRecord (target target' : IncidentSessionTarget) : Prop :=
  target' = { target with runtimeObligation := target'.runtimeObligation }

/-- What the first pass makes of a target. -/
structure Rechecked (target : IncidentSessionTarget) (visit : Visit) (trace : ControlTrace) :
    Prop where
  same : SameRecord target visit.target
  unchanged : visit.changed = false → visit.target = target
  armed : visit.changed = true → visit.target.runtimeObligation = .Pending
  gone : visit.proven = true → visit.changed = false → target.runtimeObligation = .Discharged →
    RuntimeGone target trace

theorem recheckDischarged_probes (target : IncidentSessionTarget) :
    Probes (Probing nobody nobody) (Rechecked target) (recheckDischarged target) := by
  unfold recheckDischarged
  refine probes_ite (fun hpending => ?_) fun _ => ?_
  · exact probes_pure ⟨rfl, fun _ => rfl, nofun, fun _ _ h => absurd h hpending⟩
  refine probes_ask (Probing.lookupProvenUser target.uid target.canonicalName) fun lookup => ?_
  cases lookup.status with
  | Unproven => exact probes_pure ⟨rfl, fun _ => rfl, nofun, nofun⟩
  | Found => exact probes_pure ⟨rfl, nofun, fun _ => rfl, nofun⟩
  | Absent =>
    refine probes_ask (Probing.verifyUserRuntimeGone _) fun verdict => probes_pure ?_
    refine ⟨rfl, fun _ => rfl, nofun, fun hholds _ _ => ?_⟩
    exact ⟨{ uid := target.uid, name := target.canonicalName }, verdict, rfl, rfl, by simp, hholds⟩

/-- What the second pass makes of a target. -/
structure DischargedBy (target : IncidentSessionTarget) (visit : Visit) (trace : ControlTrace) :
    Prop where
  same : SameRecord target visit.target
  unchanged : visit.changed = false → visit.target = target
  discharged : visit.proven = true → visit.target.runtimeObligation = .Discharged
  gone : visit.proven = true → target.runtimeObligation = .Pending → RuntimeGone target trace

theorem dischargePending_probes (target : IncidentSessionTarget)
    (husers : ∀ user : LoginUser, target.runtimeObligation = .Pending → user.uid = target.uid →
      user.name = target.canonicalName → users user) :
    Probes (Probing nobody users) (DischargedBy target) (dischargePending target) := by
  unfold dischargePending
  refine probes_ite (fun hdischarged => ?_) fun hdischarged => ?_
  · refine probes_pure ⟨rfl, fun _ => rfl, fun _ => hdischarged, fun _ hpending => ?_⟩
    rw [hdischarged] at hpending
    cases hpending
  have hpending : target.runtimeObligation = .Pending := by
    cases hobligation : target.runtimeObligation with
    | Pending => rfl
    | Discharged => exact absurd hobligation hdischarged
  refine probes_ask (Probing.lookupProvenUser target.uid target.canonicalName) fun lookup => ?_
  refine probes_ite (fun _ => probes_pure ⟨rfl, fun _ => rfl, nofun, nofun⟩) fun _ => ?_
  refine probes_ask (Probing.terminateUser (husers _ hpending rfl rfl)) fun outcome => ?_
  refine probes_ask (Probing.verifyUserRuntimeGone _) fun verdict => ?_
  refine probes_ite (fun hholds => ?_) fun _ => probes_pure ⟨rfl, fun _ => rfl, nofun, nofun⟩
  refine probes_pure ⟨rfl, nofun, fun _ => rfl, fun _ _ => ?_⟩
  exact ⟨targetUser target lookup, verdict, rfl, rfl, by simp, hholds⟩

/-- What a pass makes of a list of targets, from what its visits make of them. -/
def Passed (V : IncidentSessionTarget → Visit → ControlTrace → Prop)
    (targets : List IncidentSessionTarget) (pass : Pass) (trace : ControlTrace) : Prop :=
  ∃ visits : List Visit, List.Forall₂ (fun target visit => V target visit trace) targets visits ∧
    pass.obligations = visits.map (·.target) ∧
    (pass.proven = true → ∀ v ∈ visits, v.proven = true) ∧
    (pass.changed = false → ∀ v ∈ visits, v.changed = false)

theorem passTargets_probes {V : IncidentSessionTarget → Visit → ControlTrace → Prop}
    (hmono : ∀ {target visit trace trace'}, V target visit trace → trace ⊆ trace' →
      V target visit trace') {visit : IncidentSessionTarget → ControlM Visit}
    (targets : List IncidentSessionTarget)
    (h : ∀ target ∈ targets, Probes (Probing nobody users) (V target) (visit target)) :
    Probes (Probing nobody users) (Passed V targets) (passTargets visit targets) := by
  induction targets with
  | nil => exact probes_pure ⟨[], .nil, rfl, nofun, nofun⟩
  | cons target targets ih =>
    refine probes_bind (h target List.mem_cons_self) fun visited before hvisited => ?_
    refine probes_bind (ih fun t ht => h t (List.mem_cons_of_mem _ ht)) fun pass trace hpass => ?_
    obtain ⟨visits, hvisits, hobligations, hproven, hchanged⟩ := hpass
    refine probes_pure ⟨visited :: visits, .cons (hmono hvisited ?_) (hvisits.imp ?_), ?_, ?_, ?_⟩
    · exact fun e he => by simp [he]
    · exact fun t v hv => hmono hv fun e he => by simp [he]
    · simp [hobligations]
    · intro hall
      rw [Bool.and_eq_true] at hall
      exact List.forall_mem_cons.mpr ⟨hall.1, hproven hall.2⟩
    · intro hnone
      rw [Bool.or_eq_false_iff] at hnone
      exact List.forall_mem_cons.mpr ⟨hnone.1, hchanged hnone.2⟩

theorem Rechecked.mono (h : Rechecked target visit trace) (hsub : trace ⊆ trace') :
    Rechecked target visit trace' :=
  { h with gone := fun hproven hchanged hdischarged =>
    (h.gone hproven hchanged hdischarged).mono hsub }

theorem DischargedBy.mono (h : DischargedBy target visit trace) (hsub : trace ⊆ trace') :
    DischargedBy target visit trace' :=
  { h with gone := fun hproven hpending => (h.gone hproven hpending).mono hsub }

end Fic.Incident
