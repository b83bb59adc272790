import Fic.Incident.ControllerProbes
import Fic.Incident.LockstatusSteps

/-!
# Who may be terminated

A termination is authorized by a target that the store holds durably, for this boot and this
generation, and that comes from a session inventory of this incident.  The invariant behind
it is that both copies of the store hold only such targets whenever an active severity is
live or durable.  It is kept by every call of the controller, provided the controller
starts from files it can trust: it reads both of them as they are now, and takes what it
reads for what is durable.
-/

namespace Fic.Incident

open Fic.Lib Fic.Core
open TargetStore (JsonText documentOf)

variable {lifecycleOk : Bool} {severity : IncidentSeverity}
  {obligations : List IncidentSessionTarget} {store : TargetStore.ReadResult}

variable {text : JsonText} {inventories : List (List LoginSession)} {v v' v'' : View}
  {document : TargetDocument} {target target' : IncidentSessionTarget}

/-! ## Targets of the incident -/

/-- The target comes from an ordinary session of one of the inventories. -/
def Registered (inventories : List (List LoginSession)) (target : IncidentSessionTarget) : Prop :=
  ∃ sessions ∈ inventories, ∃ session ∈ sessions, isOrdinaryTarget session = true ∧
    SameRecord (sessionTarget session) target

theorem Registered.same (h : Registered inventories target) (hsame : SameRecord target target') :
    Registered inventories target' := by
  obtain ⟨sessions, hsessions, session, hsession, hordinary, hrecord⟩ := h
  refine ⟨sessions, hsessions, session, hsession, hordinary, ?_⟩
  unfold SameRecord at hsame hrecord ⊢
  rw [hsame, hrecord]

theorem Registered.mono {inventories' : List (List LoginSession)}
    (h : Registered inventories target) (hsub : inventories ⊆ inventories') :
    Registered inventories' target := by
  obtain ⟨sessions, hsessions, hsession⟩ := h
  exact ⟨sessions, hsub hsessions, hsession⟩

/-- Every target in this copy of the store is one of the incident. -/
def RegisteredIn (text : JsonText) (inventories : List (List LoginSession))
    (stored : Stored) : Prop :=
  ∀ document, documentOf text stored = some document →
    ∀ target ∈ document.targets, Registered inventories target

/-- Both copies of the store hold targets of the incident only. -/
def Clean (text : JsonText) (v : View) : Prop :=
  RegisteredIn text v.inventories v.system.targets.live ∧
    RegisteredIn text v.inventories v.system.targets.durable

/-- While an incident is active, the store belongs to it. -/
def Fenced (text : JsonText) (v : View) : Prop :=
  Active v.system.lockstatus.live ∨ Active v.system.lockstatus.durable → Clean text v

theorem Clean.fenced (h : Clean text v) : Fenced text v := fun _ => h

/-- The store holds such a target durably, for this boot and this generation. -/
def Held (text : JsonText) (v : View) (P : IncidentSessionTarget → Prop) : Prop :=
  ∃ document, documentOf text v.system.targets.durable = some document ∧
    document.bootId = v.system.bootId ∧
    v.system.memory.incidentGeneration = some document.incidentGeneration ∧
    ∃ target ∈ document.targets, P target ∧ Registered v.inventories target

def Authorized (text : JsonText) (v : View) : ControlOp → Prop
  | .terminateSession session =>
    Held text v fun target => target.uid = session.uid ∧ target.canonicalName = session.user
  | .terminateUser user =>
    Held text v fun target => target.uid = user.uid ∧ target.canonicalName = user.name ∧
      target.runtimeObligation = .Pending
  | _ => True

/-- The two copies of the store read the same. -/
def SameDocument (text : JsonText) (v : View) : Prop :=
  documentOf text v.system.targets.live = documentOf text v.system.targets.durable

/-- The store can be used: both copies hold this document of the current incident. -/
structure Usable (text : JsonText) (v : View) (document : TargetDocument) : Prop where
  clean : Clean text v
  live : documentOf text v.system.targets.live = some document
  durable : documentOf text v.system.targets.durable = some document
  bootId : document.bootId = v.system.bootId
  incidentGeneration : v.system.memory.incidentGeneration = some document.incidentGeneration

theorem Usable.held (h : Usable text v document) {P : IncidentSessionTarget → Prop}
    (hmem : target ∈ document.targets) (hP : P target) : Held text v P :=
  ⟨document, h.durable, h.bootId, h.incidentGeneration, target, hmem, hP,
    h.clean.2 document h.durable target hmem⟩

theorem Usable.more (h : Usable text v document) (hsub : v.inventories ⊆ inventories) :
    Usable text { v with inventories } document where
  clean := ⟨fun d hd t ht => (h.clean.1 d hd t ht).mono hsub,
    fun d hd t ht => (h.clean.2 d hd t ht).mono hsub⟩
  live := h.live
  durable := h.durable
  bootId := h.bootId
  incidentGeneration := h.incidentGeneration

/-! ## Views that differ in a part -/

structure SameFiles (v v' : View) : Prop where
  lockstatus : v'.system.lockstatus = v.system.lockstatus
  targets : v'.system.targets = v.system.targets
  bootId : v'.system.bootId = v.system.bootId
  inventories : v'.inventories = v.inventories

theorem SameFiles.refl (v : View) : SameFiles v v := ⟨rfl, rfl, rfl, rfl⟩

theorem SameFiles.of_eq (h : v' = v) : SameFiles v v' := h ▸ .refl v

theorem SameFiles.trans (h : SameFiles v v') (h' : SameFiles v' v'') : SameFiles v v'' :=
  ⟨h'.lockstatus.trans h.lockstatus, h'.targets.trans h.targets, h'.bootId.trans h.bootId,
    h'.inventories.trans h.inventories⟩

theorem SameFiles.clean (h : SameFiles v v') (hclean : Clean text v) : Clean text v' := by
  unfold Clean
  rw [h.targets, h.inventories]
  exact hclean

theorem SameFiles.fenced (h : SameFiles v v') (hfenced : Fenced text v) : Fenced text v' := by
  intro hactive
  rw [h.lockstatus] at hactive
  exact h.clean (hfenced hactive)

theorem SameFiles.sameDocument (h : SameFiles v v') (hsame : SameDocument text v) :
    SameDocument text v' := by
  unfold SameDocument
  rw [h.targets]
  exact hsame

/-- Nothing but the target store differs. -/
structure TargetsOnly (v v' : View) : Prop where
  lockstatus : v'.system.lockstatus = v.system.lockstatus
  memory : v'.system.memory = v.system.memory
  bootId : v'.system.bootId = v.system.bootId
  inventories : v'.inventories = v.inventories

/-- Nothing but lockstatus, and the inventories that belong to it, differs. -/
structure LockstatusOnly (v v' : View) : Prop where
  targets : v'.system.targets = v.system.targets
  memory : v'.system.memory = v.system.memory
  bootId : v'.system.bootId = v.system.bootId

section Guarded

variable {α β : Type} {w : Wiring} {s : Watched} {post : α → Watched → Prop} {op : FileOp}
  {fault : FileFault}

/-- A specification in which every call keeps the store fenced and every termination is
authorized. -/
abbrev Guarded (w : Wiring) (post : α → Watched → Prop) (x : ControlM α) (s : Watched) : Prop :=
  Spec (Fenced w.text) (Authorized w.text) post x s

abbrev Fences (w : Wiring) (x : ControlM α) (s : Watched) : Prop :=
  Guarded w (fun _ s' => Fenced w.text s'.view) x s

/-- A part that keeps the store fenced and changes lockstatus only. -/
abbrev FencesOn (w : Wiring) (x : ControlM α) (s : Watched) : Prop :=
  Guarded w (fun _ s' => Fenced w.text s'.view ∧ LockstatusOnly s.view s'.view) x s

/-! ## Writing the targets -/

theorem clean_onTargets (hstep : TargetStore.Replaces text document v.system.targets
      (fileMachine.perform v.system.targets op fault).2)
    (hdocument : ∀ target ∈ document.targets, Registered v.inventories target)
    (h : Clean text v) : Clean text (v.onTargets op fault) := by
  have hlive : RegisteredIn text v.inventories
      (fileMachine.perform v.system.targets op fault).2.live := by
    rcases hstep.1 with hsame | hwritten
    · rw [hsame]
      exact h.1
    · intro found hfound
      rw [hwritten found hfound]
      exact hdocument
  refine ⟨hlive, ?_⟩
  show RegisteredIn text v.inventories (fileMachine.perform v.system.targets op fault).2.durable
  rcases hstep.2 with hsame | hsynced
  · rw [hsame]
    exact h.2
  · rw [hsynced]
    exact hlive

/-- The store after a durable write. -/
def Holding (text : JsonText) (v : View) (document : TargetDocument) : Prop :=
  v.system.targets.durable = v.system.targets.live ∧
    documentOf text v.system.targets.live = some document

/-- What a write to the store keeps while it is under way. -/
structure WriteKeeps (text : JsonText) (v v' : View) : Prop where
  only : TargetsOnly v v'
  fenced : Fenced text v'
  clean : Clean text v → Clean text v'

theorem writeTargets_guarded (hfenced : Fenced w.text s.view) (expected : TargetStore.ReadResult)
    (hdocument : ∀ target ∈ document.targets, Registered s.view.inventories target) :
    Guarded w (fun result s' => WriteKeeps w.text s.view s'.view ∧
      (result.durable = true → Holding w.text s'.view document))
      (writeTargets w expected document) s := by
  have hsafe : watchedMachine.Safe
      (Permitted (Fenced w.text) (Authorized w.text)) Eq Grows
      (fun result s' => WriteKeeps w.text s.view s'.view ∧ ∀ written, result = some written →
        TargetStore.Replaced w.text document written s'.view.system.targets)
      (writeTargets w expected document).run s := by
    refine interpret_targets (WriteKeeps w.text s.view) (fun v hv => hv.fenced) ?_
      ⟨⟨rfl, rfl, rfl, rfl⟩, hfenced, fun h => h⟩
      (TargetStore.writeIfCurrent_writes w.text w.identity expected document
        s.view.system.targets)
    intro v op fault hkeeps _ hstep
    have hdocument' : ∀ target ∈ document.targets, Registered v.inventories target := by
      rw [hkeeps.only.inventories]
      exact hdocument
    refine ⟨⟨hkeeps.only.lockstatus, hkeeps.only.memory, hkeeps.only.bootId,
      hkeeps.only.inventories⟩, ?_, ?_⟩
    · exact fun hactive => clean_onTargets hstep hdocument' (hkeeps.fenced hactive)
    · exact fun h => clean_onTargets hstep hdocument' (hkeeps.clean h)
  refine hsafe.mono (fun _ _ hgrows => hgrows) fun result s' h => ?_
  cases result with
  | none => exact h.1.fenced
  | some written => exact ⟨h.1, h.2 written rfl⟩

/-! ## Calls on lockstatus -/

/-- A durable copy that is not `UNLOCKED` keeps the inventories. -/
theorem firm_onLockstatus (hfirm : ¬ProvenAt .Unlocked v.system.lockstatus.durable)
    (h : Clean text v) : Clean text (v.onLockstatus op fault) := by
  have hinventories : (v.onLockstatus op fault).inventories = v.inventories :=
    if_neg fun hopens => hfirm hopens.1
  unfold Clean
  rw [hinventories]
  exact h

variable {p : FileProgram α}

/-- A program on lockstatus, with what keeps the store fenced meanwhile. -/
theorem onLockstatus_guarded {allowed : StoredFile → FileOp → Prop}
    (keep : View → Prop) (hfenced : ∀ v, keep v → Fenced w.text v)
    (hstep : ∀ v op fault, keep v → allowed v.system.lockstatus op → keep (v.onLockstatus op fault))
    (hkeep : keep s.view)
    (h : fileMachine.Safe allowed Eq (fun _ _ => True)
      (fun _ _ => True) p s.view.system.lockstatus) :
    FencesOn w (onLockstatus p) s := by
  have hspec : Guarded w (fun _ s' => (keep s'.view ∧ LockstatusOnly s.view s'.view) ∧ True)
      (onLockstatus p) s := by
    refine spec_onLockstatus (fun v => keep v ∧ LockstatusOnly s.view v)
      (fun v hv => hfenced v hv.1) ?_ ⟨hkeep, rfl, rfl, rfl⟩ h
    intro v op fault hv hop _
    exact ⟨hstep v op fault hv.1 hop, hv.2.targets, hv.2.memory, hv.2.bootId⟩
  exact spec_mono hspec fun _ s' h => ⟨hfenced _ h.1.1, h.1.2⟩

theorem firm_guarded (hclean : Clean w.text s.view)
    (h : Firm (fun _ _ => True) p s.view.system.lockstatus) :
    FencesOn w (onLockstatus p) s :=
  onLockstatus_guarded (Clean w.text) (fun _ hv => hv.fenced)
    (fun _ _ _ hv hfirm => firm_onLockstatus hfirm hv) hclean h

/-- Where nothing active is published, the store stays fenced. -/
theorem lowering_onLockstatus (hop : Lowering op) (hlive : ¬Active v.system.lockstatus.live)
    (h : Fenced text v) : Fenced text (v.onLockstatus op fault) := by
  have hlive' : ¬Active (v.onLockstatus op fault).system.lockstatus.live :=
    lowering_perform hop hlive fault
  rintro (hactive | hactive)
  · exact absurd hactive hlive'
  rcases durable_perform op v.system.lockstatus fault with hsame | hsynced
  · -- an active durable copy was there before, so the inventories are kept
    have hsame' : (v.onLockstatus op fault).system.lockstatus.durable =
      v.system.lockstatus.durable := hsame
    rw [hsame'] at hactive
    exact firm_onLockstatus hactive.not_unlocked (h (.inr hactive))
  · have hsynced' : (v.onLockstatus op fault).system.lockstatus.durable =
      (v.onLockstatus op fault).system.lockstatus.live := hsynced
    rw [hsynced'] at hactive
    exact absurd hactive hlive'

theorem lowering_guarded (hlive : ¬Active s.view.system.lockstatus.live)
    (hfenced : Fenced w.text s.view) (h : Bounded Lowering p s.view.system.lockstatus) :
    FencesOn w (onLockstatus p) s := by
  refine onLockstatus_guarded (fun v => Fenced w.text v ∧ ¬Active v.system.lockstatus.live)
    (fun _ hv => hv.1) ?_ ⟨hfenced, hlive⟩ h
  intro v op fault hv hop
  exact ⟨lowering_onLockstatus hop hv.2 hv.1, lowering_perform hop hv.2 fault⟩

/-- Neither copy of the store holds a target. -/
def NoTargets (text : JsonText) (v : View) : Prop :=
  ∀ stored, stored = v.system.targets.live ∨ stored = v.system.targets.durable →
    ∀ document, documentOf text stored = some document → document.targets = []

theorem NoTargets.clean (h : NoTargets text v) : Clean text v := by
  have hcopy : ∀ stored, stored = v.system.targets.live ∨ stored = v.system.targets.durable →
      RegisteredIn text v.inventories stored := by
    intro stored hstored document hdocument target htarget
    rw [h stored hstored document hdocument] at htarget
    cases htarget
  exact ⟨hcopy _ (.inl rfl), hcopy _ (.inr rfl)⟩

/-- An empty store is fenced whatever happens to lockstatus. -/
theorem noTargets_guarded (h : NoTargets w.text s.view) : FencesOn w (onLockstatus p) s := by
  have hany : ∀ (p : FileProgram α) (file : StoredFile),
      fileMachine.Safe (fun _ _ => True) Eq (fun _ _ => True) (fun _ _ => True) p file := by
    intro p
    induction p with
    | done value => exact fun _ _ _ => trivial
    | call op next ih => exact fun file file' _ => ⟨trivial, fun _ => ⟨trivial, ih _ _⟩⟩
  exact onLockstatus_guarded (NoTargets w.text) (fun _ hv => hv.clean.fenced)
    (fun _ _ _ hv _ => hv) h (hany p _)

/-! ## Parts that leave the files alone -/

abbrev Leaves (w : Wiring) (x : ControlM α) : Prop :=
  ∀ s, Fenced w.text s.view → Guarded w (fun _ s' => SameFiles s.view s'.view) x s

theorem leaves_pure (value : α) : Leaves w (pure value) := fun s _ => spec_pure (.refl s.view)

theorem leaves_bind {x : ControlM α} {f : α → ControlM β} (h : Leaves w x)
    (hf : ∀ value, Leaves w (f value)) : Leaves w (x >>= f) := by
  intro s hfenced
  refine spec_bind (h s hfenced) fun value s' hsame => ?_
  exact spec_mono (hf value s' (hsame.fenced hfenced)) fun _ _ h => hsame.trans h

theorem leaves_update (f : Memory → Memory) : Leaves w (update f) :=
  fun _ hfenced => spec_mono (spec_update hfenced)
    fun _ s' h => by rw [h]; exact ⟨rfl, rfl, rfl, rfl⟩

theorem leaves_probes {x : ControlM α} {Q : α → ControlTrace → Prop}
    (h : Probes (Probing nobody nobody) Q x) : Leaves w x :=
  fun _ hfenced => spec_mono (spec_probes hfenced nofun nofun h) fun _ _ h => .of_eq h.1

/-- A call that asks a backend and terminates nobody. -/
theorem leaves_call {op : ControlOp} (h : Probing nobody nobody op) : Leaves w (call op) :=
  leaves_probes (Q := fun _ _ => True) (probes_call h fun _ => trivial)

theorem verifyAccessGate_leaves (severity : IncidentSeverity) :
    Leaves w (verifyAccessGate w severity) := by
  by_cases h : severity < .Standard
  · unfold verifyAccessGate
    rw [if_pos h]
    exact leaves_pure _
  · exact leaves_probes (verifyAccessGate_probes w (not_lt.mp h))

theorem containNetwork_leaves (severity : IncidentSeverity) :
    Leaves w (containNetwork severity) := by
  unfold containNetwork
  split
  · refine leaves_bind (leaves_update _) fun _ => ?_
    exact leaves_bind (leaves_call (.applyQuarantine true)) fun _ => leaves_pure _
  · refine leaves_bind (leaves_update _) fun _ => ?_
    exact leaves_bind (leaves_call (.applyQuarantine false)) fun _ => leaves_pure _

theorem releaseContainment_leaves (severity : IncidentSeverity) :
    Leaves w (releaseContainment severity) := by
  refine leaves_bind (leaves_update _) fun _ => ?_
  refine leaves_bind (leaves_call (.applyQuarantine false)) fun _ => ?_
  exact leaves_bind (leaves_update _) fun _ => leaves_pure _

/-! ## The generation of the incident -/

theorem Holding.usable (h : Holding text v document) (hclean : Clean text v)
    (hboot : document.bootId = v.system.bootId)
    (hgeneration : v.system.memory.incidentGeneration = some document.incidentGeneration) :
    Usable text v document :=
  ⟨hclean, h.2, h.1 ▸ h.2, hboot, hgeneration⟩

theorem Holding.noTargets (h : Holding text v document) (hempty : document.targets = []) :
    NoTargets text v := by
  intro stored hstored found hfound
  have hlive : stored = v.system.targets.live := by
    rcases hstored with hlive | hdurable
    · exact hlive
    · rw [hdurable, h.1]
  rw [hlive] at hfound
  rw [← Option.some.inj (h.2.symm.trans hfound)]
  exact hempty

theorem Holding.sameDocument (h : Holding text v document) : SameDocument text v := by
  unfold SameDocument
  rw [h.1]

theorem fenceNewIncident_guarded (hfenced : Fenced w.text s.view) :
    Guarded w (fun fenced s' => Fenced w.text s'.view ∧
      s'.view.system.lockstatus = s.view.system.lockstatus ∧
      (fenced.ok = true → NoTargets w.text s'.view ∧ SameDocument w.text s'.view))
      (fenceNewIncident w) s := by
  refine spec_bind (spec_currentIncidentBootId hfenced) fun bootId s₁ hboot => ?_
  rw [← hboot.2] at hfenced ⊢
  refine spec_ite (fun _ => spec_pure ⟨hfenced, rfl, nofun⟩) fun hempty => ?_
  refine spec_bind (spec_readTargets hfenced) fun store s₂ hstore => ?_
  rw [← hstore.2] at hfenced ⊢
  refine spec_ite (fun _ => spec_pure ⟨hfenced, rfl, nofun⟩) fun hunprovable => ?_
  cases nextGeneration store with
  | none => exact spec_pure ⟨hfenced, rfl, nofun⟩
  | some incidentGeneration =>
    refine spec_bind (writeTargets_guarded hfenced store nofun) fun written s₃ hwritten => ?_
    obtain ⟨hkeeps, hholding⟩ := hwritten
    refine spec_ite (fun _ => spec_pure ⟨hkeeps.fenced, hkeeps.only.lockstatus, nofun⟩)
      fun hdurable => ?_
    have hheld := hholding (by simpa using hdurable)
    refine spec_bind (spec_update hkeeps.fenced) fun _ s₄ hupdated => ?_
    refine spec_pure ?_
    rw [hupdated]
    exact ⟨hkeeps.fenced, hkeeps.only.lockstatus,
      fun _ => ⟨hheld.noTargets rfl, hheld.sameDocument⟩⟩

theorem adoptGeneration_guarded {bootId : Bytes} (hclean : Clean w.text s.view)
    (hsame : SameDocument w.text s.view) (hboot : bootId = s.view.system.bootId)
    (hstore : documentOf w.text s.view.system.targets.live = some store.document) :
    Guarded w (fun adopted s' => Fenced w.text s'.view ∧
      (adopted.ok = true → ∃ document, Usable w.text s'.view document))
      (adoptGeneration w bootId store) s := by
  unfold adoptGeneration
  refine spec_ite (fun hother => ?_) fun hother => ?_
  · refine spec_bind (writeTargets_guarded hclean.fenced store nofun) fun rebased s₁ hrebased => ?_
    obtain ⟨hkeeps, hholding⟩ := hrebased
    refine spec_ite (fun _ => spec_pure ⟨hkeeps.fenced, nofun⟩) fun hdurable => ?_
    have hheld := hholding (by simpa using hdurable)
    refine spec_bind (spec_update hkeeps.fenced) fun _ s₂ hupdated => spec_pure ?_
    rw [hupdated]
    refine ⟨hkeeps.fenced, fun _ => ⟨_, Holding.usable hheld (hkeeps.clean hclean) ?_ rfl⟩⟩
    exact hboot.trans hkeeps.only.bootId.symm
  · refine spec_bind (spec_update hclean.fenced) fun _ s₁ hupdated => spec_pure ?_
    rw [hupdated]
    refine ⟨hclean.fenced, fun _ => ⟨store.document, hclean, hstore, hsame ▸ hstore, ?_, rfl⟩⟩
    exact (not_not.mp hother).trans hboot

theorem prepareActiveTargetStore_guarded (hfenced : Fenced w.text s.view)
    (hsame : SameDocument w.text s.view) :
    Guarded w (fun prepared s' => Fenced w.text s'.view ∧
      (prepared.ok = true → ∃ document, Usable w.text s'.view document))
      (prepareActiveTargetStore w) s := by
  refine spec_bind (spec_readState hfenced) fun state s₁ hstate => ?_
  obtain ⟨rfl, hview⟩ := hstate
  refine spec_ite (fun _ => spec_pure ⟨hview ▸ hfenced, nofun⟩) fun hinactive => ?_
  -- the severity is active, so the store belongs to the incident
  have hactive : Active s.view.system.lockstatus.live := by
    simpa [Active, incidentSeverityIsUnlocked] using hinactive
  have hclean := hfenced (.inl hactive)
  rw [← hview] at hclean hsame
  refine spec_bind (spec_currentIncidentBootId hclean.fenced) fun bootId s₂ hboot => ?_
  rw [← hboot.2] at hclean hsame hboot
  refine spec_ite (fun _ => spec_pure ⟨hclean.fenced, nofun⟩) fun hempty => ?_
  have hbootId : bootId = s₂.view.system.bootId :=
    hboot.1.resolve_left fun hnone => hempty (List.isEmpty_iff.mpr hnone)
  refine spec_bind (spec_readTargets hclean.fenced) fun store s₃ hstore => ?_
  rw [← hstore.2] at hclean hsame hbootId hstore
  refine spec_ite (fun _ => spec_pure ⟨hclean.fenced, nofun⟩) fun hunproven => ?_
  refine spec_bind (spec_remembered hclean.fenced) fun memory s₄ hmemory => ?_
  rw [← hmemory.2] at hclean hsame hbootId hstore
  split
  · exact spec_pure ⟨hclean.fenced, nofun⟩
  have hproven : (TargetStore.readResult w.text s₄.view.system.targets.live).provenance =
      .Proven := by
    rw [← hstore.1]
    exact not_not.mp hunproven
  refine adoptGeneration_guarded hclean hsame hbootId ?_
  rw [hstore.1]
  exact (TargetStore.documentOf_proven hproven).1

/-! ## Registration -/

/-- The list has a target for this user. -/
def Covers (merged : List IncidentSessionTarget) (target : IncidentSessionTarget) : Prop :=
  ∃ found ∈ merged, found.uid = target.uid ∧ found.canonicalName = target.canonicalName

/-- What a merge makes of a list. -/
structure Merged (inventories : List (List LoginSession))
    (merged merged' : List IncidentSessionTarget) (changed : Bool) : Prop where
  registered : ∀ target ∈ merged', Registered inventories target
  covers : ∀ target, Covers merged target → Covers merged' target
  unchanged : changed = false → merged' = merged

theorem mergeTarget_merged (htarget : Registered inventories target)
    (merged : List IncidentSessionTarget) :
    ∀ {merged' : List IncidentSessionTarget} {changed : Bool},
      mergeTarget target merged = some (merged', changed) →
      (∀ t ∈ merged, Registered inventories t) →
      Merged inventories merged merged' changed ∧ Covers merged' target := by
  induction merged with
  | nil =>
    intro merged' changed h _
    obtain ⟨rfl, rfl⟩ := Prod.mk.inj (Option.some.inj h)
    refine ⟨⟨fun t ht => ?_, fun t ht => ?_, nofun⟩, target, List.mem_singleton.mpr rfl, rfl, rfl⟩
    · rw [List.mem_singleton.mp ht]
      exact htarget
    · obtain ⟨found, hfound, _⟩ := ht
      cases hfound
  | cons existing merged ih =>
    intro merged' changed h hmerged
    obtain ⟨hexisting, hothers⟩ := List.forall_mem_cons.mp hmerged
    unfold mergeTarget at h
    split_ifs at h with huid hname hdischarged
    · -- the record is armed again with the evidence of the new session
      have hname := not_not.mp hname
      obtain ⟨rfl, rfl⟩ := Prod.mk.inj (Option.some.inj h)
      refine ⟨⟨List.forall_mem_cons.mpr ⟨htarget.same ?_, hothers⟩, fun t ht => ?_, nofun⟩, _,
        List.mem_cons_self, huid, hname⟩
      · simp only [SameRecord, huid, hname]
      · obtain ⟨found, hfound, hsame⟩ := ht
        rcases List.mem_cons.mp hfound with rfl | hfound
        · exact ⟨_, List.mem_cons_self, hsame⟩
        · exact ⟨found, List.mem_cons_of_mem _ hfound, hsame⟩
    · obtain ⟨rfl, rfl⟩ := Prod.mk.inj (Option.some.inj h)
      exact ⟨⟨hmerged, fun t ht => ht, fun _ => rfl⟩, existing, List.mem_cons_self, huid,
        not_not.mp hname⟩
    · obtain ⟨⟨rest, changed'⟩, hrest, hpair⟩ := Option.map_eq_some_iff.mp h
      obtain ⟨rfl, rfl⟩ := Prod.mk.inj hpair
      obtain ⟨hmerge, hcovers⟩ := ih hrest hothers
      have hskip : ∀ {t}, Covers rest t → Covers (existing :: rest) t := by
        rintro t ⟨found, hfound, hsame⟩
        exact ⟨found, List.mem_cons_of_mem _ hfound, hsame⟩
      refine ⟨⟨List.forall_mem_cons.mpr ⟨hexisting, hmerge.registered⟩, fun t ht => ?_,
        fun hsame => by rw [hmerge.unchanged hsame]⟩, hskip hcovers⟩
      obtain ⟨found, hfound, hsame⟩ := ht
      rcases List.mem_cons.mp hfound with rfl | hfound
      · exact ⟨found, List.mem_cons_self, hsame⟩
      · exact hskip (hmerge.covers t ⟨found, hfound, hsame⟩)

theorem mergeTargets_merged (newTargets : List IncidentSessionTarget) :
    ∀ {merged merged' : List IncidentSessionTarget} {before changed : Bool},
      (∀ t ∈ newTargets, Registered inventories t) →
      (∀ t ∈ merged, Registered inventories t) →
      mergeTargets merged before newTargets = some (merged', changed) →
      Merged inventories merged merged' changed ∧ (changed = false → before = false) ∧
        ∀ t ∈ newTargets, Covers merged' t := by
  induction newTargets with
  | nil =>
    intro merged merged' before changed _ hmerged h
    obtain ⟨rfl, rfl⟩ := Prod.mk.inj (Option.some.inj h)
    exact ⟨⟨hmerged, fun t ht => ht, fun _ => rfl⟩, fun h => h, nofun⟩
  | cons target newTargets ih =>
    intro merged merged' before changed hnew hmerged h
    unfold mergeTargets at h
    cases hmerge : mergeTarget target merged with
    | none =>
      rw [hmerge] at h
      cases h
    | some result =>
      obtain ⟨middle, changed'⟩ := result
      rw [hmerge] at h
      obtain ⟨hfirst, hcovers⟩ := mergeTarget_merged (hnew target List.mem_cons_self) merged hmerge
        hmerged
      obtain ⟨hrest, hflag, hall⟩ := ih (fun t ht => hnew t (List.mem_cons_of_mem _ ht))
        hfirst.registered h
      have hflags : changed = false → before = false ∧ changed' = false :=
        fun hsame => Bool.or_eq_false_iff.mp (hflag hsame)
      refine ⟨⟨hrest.registered, fun t ht => hrest.covers t (hfirst.covers t ht), fun hsame => ?_⟩,
        fun hsame => (hflags hsame).1, fun t ht => ?_⟩
      · rw [hrest.unchanged hsame, hfirst.unchanged (hflags hsame).2]
      · exact List.forall_mem_cons.mpr ⟨hrest.covers _ hcovers, hall⟩ t ht

theorem registerSessionTargets_guarded (husable : Usable w.text s.view document)
    {newTargets : List IncidentSessionTarget}
    (hnew : ∀ t ∈ newTargets, Registered s.view.inventories t) :
    Guarded w (fun registration s' => Fenced w.text s'.view ∧
      (registration.ok = true → ∃ document', Usable w.text s'.view document' ∧
        ∀ t ∈ newTargets, Covers document'.targets t))
      (registerSessionTargets w newTargets) s := by
  refine spec_bind (spec_currentIncidentBootId husable.clean.fenced) fun bootId s₁ hboot => ?_
  rw [← hboot.2] at husable hnew
  refine spec_ite (fun _ => spec_pure ⟨husable.clean.fenced, nofun⟩) fun hempty => ?_
  refine spec_bind (spec_readTargets husable.clean.fenced) fun store s₂ hstore => ?_
  -- what was read is the document that both copies hold
  have hdocument : store.document = document := by
    rw [hstore.1]
    exact (TargetStore.readResult_document husable.live).2
  rw [← hstore.2] at husable hnew
  refine spec_bind (spec_remembered husable.clean.fenced) fun memory s₃ hmemory => ?_
  rw [← hmemory.2] at husable hnew
  refine spec_ite (fun _ => spec_pure ⟨husable.clean.fenced, nofun⟩) fun hunproven => ?_
  simp only [ne_eq, not_or, not_not] at hunproven
  rw [hdocument] at hunproven ⊢
  cases hmerge : mergeTargets document.targets false newTargets with
  | none => exact spec_pure ⟨husable.clean.fenced, nofun⟩
  | some result =>
    obtain ⟨merged, changed⟩ := result
    have hmerged := mergeTargets_merged newTargets hnew
      (husable.clean.1 document husable.live) hmerge
    dsimp only
    refine spec_ite (fun hunchanged => ?_) fun hunchanged => ?_
    · have hsame : merged = document.targets := hmerged.1.unchanged (by simpa using hunchanged)
      exact spec_pure ⟨husable.clean.fenced, fun _ => ⟨document, husable, hsame ▸ hmerged.2.2⟩⟩
    · refine spec_bind (writeTargets_guarded husable.clean.fenced store hmerged.1.registered)
        fun written s₄ hwritten => ?_
      obtain ⟨hkeeps, hholding⟩ := hwritten
      refine spec_pure ⟨hkeeps.fenced, fun hdurable => ⟨_, Holding.usable (hholding hdurable)
        (hkeeps.clean husable.clean) ?_ ?_, hmerged.2.2⟩⟩
      · rw [hkeeps.only.bootId, ← husable.bootId]
        exact hunproven.2.1.symm
      · rw [hkeeps.only.memory]
        exact husable.incidentGeneration

/-! ## Sessions and users -/

theorem registered_selected {sessions : List LoginSession} (h : sessions ∈ inventories) :
    ∀ t ∈ (sessions.filter isOrdinaryTarget).map sessionTarget, Registered inventories t := by
  intro t ht
  obtain ⟨session, hsession, rfl⟩ := List.mem_map.mp ht
  obtain ⟨hmem, hordinary⟩ := List.mem_filter.mp hsession
  exact ⟨sessions, h, session, hmem, hordinary, rfl⟩

theorem containSessions_guarded (hfenced : Fenced w.text s.view)
    (husable : lifecycleOk = true → ∃ document, Usable w.text s.view document) :
    Guarded w (fun stage s' => Fenced w.text s'.view ∧
      (stage.targetsUsable = true → ∃ document, Usable w.text s'.view document))
      (containSessions w severity lifecycleOk) s := by
  unfold containSessions
  split
  · exact spec_pure ⟨hfenced, nofun⟩
  split
  · exact spec_pure ⟨hfenced, nofun⟩
  split
  · exact spec_pure ⟨hfenced, nofun⟩
  · next hlifecycle =>
    obtain ⟨document, husable⟩ := husable (by simpa using hlifecycle)
    refine spec_bind (spec_listSessions hfenced) fun inventory s₁ hview => ?_
    have husable₁ : Usable w.text s₁.view document := by
      rw [hview]
      refine husable.more ?_
      unfold addInventory
      split
      · exact List.subset_cons_self _ _
      · exact List.Subset.refl _
    refine spec_ite (fun _ => spec_pure ⟨husable₁.clean.fenced, nofun⟩) fun hunproven => ?_
    have hrecorded : inventory.sessions ∈ s₁.view.inventories := by
      rw [hview]
      show inventory.sessions ∈ addInventory _ inventory
      rw [addInventory, if_pos (by simpa using hunproven)]
      exact List.mem_cons_self
    refine spec_bind (spec_probes husable₁.clean.fenced nofun nofun
      (selectSessions_probes severity inventory.sessions)) fun selection s₂ hselected => ?_
    obtain ⟨hview₂, trace, -, hselected⟩ := hselected
    rw [← hview₂] at husable₁ hrecorded
    have hnew := registered_selected hrecorded
    rw [← hselected.newTargets] at hnew
    refine spec_bind (registerSessionTargets_guarded husable₁ hnew)
      fun registration s₃ hregistered => ?_
    obtain ⟨hfenced₃, hregistered⟩ := hregistered
    refine spec_ite (fun _ => spec_pure ⟨hfenced₃, nofun⟩) fun hrefused => ?_
    obtain ⟨document', husable₃, hcovers⟩ := hregistered (by simpa using hrefused)
    have hauthorized : ∀ session ∈ selection.toTerminate,
        Authorized w.text s₃.view (.terminateSession session) := by
      intro session hsession
      obtain ⟨hmem, hordinary⟩ := hselected.toTerminate session hsession
      have htarget : sessionTarget session ∈ selection.newTargets := by
        rw [hselected.newTargets]
        exact List.mem_map_of_mem (List.mem_filter.mpr ⟨hmem, hordinary⟩)
      obtain ⟨found, hfound, hsame⟩ := hcovers _ htarget
      exact husable₃.held hfound hsame
    refine spec_mono (spec_probes husable₃.clean.fenced hauthorized nofun
      (terminateSelected_probes selection.toTerminate fun _ h => h)) fun stage s₄ hstage => ?_
    rw [hstage.1]
    exact ⟨husable₃.clean.fenced, fun _ => ⟨document', husable₃⟩⟩

theorem storeIsCurrent_guarded (hfenced : Fenced w.text s.view) (store : TargetStore.ReadResult) :
    Guarded w (fun current s' => s'.view = s.view ∧ (current = true → store.provenance = .Proven))
      (storeIsCurrent store) s := by
  unfold storeIsCurrent
  refine spec_ite (fun _ => spec_pure ⟨rfl, nofun⟩) fun hunproven => ?_
  refine spec_bind (spec_currentIncidentBootId hfenced) fun bootId s₁ hboot => ?_
  refine spec_bind (spec_remembered (by rw [hboot.2]; exact hfenced)) fun memory s₂ hmemory => ?_
  exact spec_pure ⟨hmemory.2.trans hboot.2, fun _ => not_not.mp hunproven⟩

variable {V : IncidentSessionTarget → Visit → ControlTrace → Prop} {pass : Pass}
  {targets : List IncidentSessionTarget} {trace : ControlTrace}

/-- The records of a pass are those it started from, up to their obligations. -/
theorem Passed.registered (h : Passed V targets pass trace)
    (hsame : ∀ {target visit trace}, V target visit trace → SameRecord target visit.target)
    (htargets : ∀ t ∈ targets, Registered inventories t) :
    ∀ t ∈ pass.obligations, Registered inventories t := by
  obtain ⟨visits, hvisits, hobligations, -⟩ := h
  rw [hobligations]
  clear hobligations
  induction hvisits with
  | nil => exact nofun
  | cons hvisit _ ih =>
    intro t ht
    rcases List.mem_cons.mp ht with rfl | ht
    · exact (htargets _ List.mem_cons_self).same (hsame hvisit)
    · exact ih (fun t ht => htargets t (List.mem_cons_of_mem _ ht)) t ht

theorem Passed.unchanged (h : Passed V targets pass trace)
    (hsame : ∀ {target visit trace}, V target visit trace → visit.changed = false →
      visit.target = target)
    (hchanged : pass.changed = false) : pass.obligations = targets := by
  obtain ⟨visits, hvisits, hobligations, -, hnone⟩ := h
  have hall := hnone hchanged
  rw [hobligations]
  clear hobligations hnone
  induction hvisits with
  | nil => rfl
  | cons hvisit _ ih =>
    rw [List.map_cons, hsame hvisit (hall _ List.mem_cons_self),
      ih fun v hv => hall v (List.mem_cons_of_mem _ hv)]

theorem rearmTargets_guarded (husable : Usable w.text s.view document)
    (hstore : store.document = document)
    (hregistered : ∀ t ∈ obligations, Registered s.view.inventories t) :
    Guarded w (fun rearm s' => Fenced w.text s'.view ∧ s'.view.inventories = s.view.inventories ∧
      (rearm.durable = true → ∃ document', Usable w.text s'.view document' ∧
        document'.targets = obligations))
      (rearmTargets w store obligations) s := by
  refine spec_bind (writeTargets_guarded husable.clean.fenced store hregistered)
    fun written s₁ hwritten => ?_
  obtain ⟨hkeeps, hholding⟩ := hwritten
  refine spec_ite (fun _ => spec_pure ⟨hkeeps.fenced, hkeeps.only.inventories, nofun⟩)
    fun hfailed => ?_
  have husable₁ : Usable w.text s₁.view { store.document with targets := obligations } := by
    refine Holding.usable (hholding (by simpa using hfailed)) (hkeeps.clean husable.clean) ?_ ?_
    · rw [hkeeps.only.bootId, hstore]
      exact husable.bootId
    · rw [hkeeps.only.memory, hstore]
      exact husable.incidentGeneration
  refine spec_bind (spec_readTargets hkeeps.fenced) fun store₂ s₂ hread => ?_
  refine spec_bind (storeIsCurrent_guarded (by rw [hread.2]; exact hkeeps.fenced) store₂)
    fun current s₃ hcurrent => ?_
  have hview : s₃.view = s₁.view := hcurrent.1.trans hread.2
  refine spec_ite (fun hconfirmed => ?_) fun hconfirmed => ?_
  · refine spec_pure ?_
    rw [hview]
    exact ⟨hkeeps.fenced, hkeeps.only.inventories, fun _ => ⟨_, husable₁, rfl⟩⟩
  · refine spec_pure ?_
    rw [hview]
    exact ⟨hkeeps.fenced, hkeeps.only.inventories, nofun⟩

theorem persistDischarged_guarded (hfenced : Fenced w.text s.view)
    (store : TargetStore.ReadResult)
    (hregistered : ∀ t ∈ obligations, Registered s.view.inventories t) :
    Fences w (persistDischarged w store obligations) s := by
  refine spec_bind (spec_currentIncidentBootId hfenced) fun bootId s₁ hboot => ?_
  refine spec_bind (writeTargets_guarded (by rw [hboot.2]; exact hfenced) store
    (by rw [hboot.2]; exact hregistered)) fun persisted s₂ hwritten => ?_
  exact spec_pure hwritten.1.fenced

theorem dischargeTargets_guarded {rearm : Rearm} (hfenced : Fenced w.text s.view)
    (hrearm : rearm.durable = true → ∃ document, Usable w.text s.view document ∧
      document.targets = obligations) :
    Fences w (dischargeTargets w rearm obligations) s := by
  unfold dischargeTargets
  refine spec_ite (fun _ => spec_pure hfenced) fun hfailed => ?_
  obtain ⟨document, husable, rfl⟩ := hrearm (by simpa using hfailed)
  -- only a pending target of the durable document is terminated
  let owed : LoginUser → Prop := fun user => ∃ t ∈ document.targets,
    t.runtimeObligation = .Pending ∧ user.uid = t.uid ∧ user.name = t.canonicalName
  have hauthorized : ∀ user, owed user → Authorized w.text s.view (.terminateUser user) := by
    rintro user ⟨t, ht, hpending, huid, hname⟩
    exact husable.held ht ⟨huid.symm, hname.symm, hpending⟩
  have hvisit : ∀ t ∈ document.targets,
      Probes (Probing nobody owed) (DischargedBy t) (dischargePending t) := fun t ht =>
    dischargePending_probes t fun _ hpending huid hname => ⟨t, ht, hpending, huid, hname⟩
  have hpass := passTargets_probes (V := DischargedBy) DischargedBy.mono document.targets hvisit
  refine spec_bind (spec_probes hfenced nofun hauthorized hpass) fun pass s₁ hpassed => ?_
  obtain ⟨hview, trace, -, hpassed⟩ := hpassed
  have hregistered := hpassed.registered DischargedBy.same
    (husable.clean.1 document husable.live)
  have hpersist : Fences w
      (if pass.changed = true then persistDischarged w rearm.store pass.obligations
        else pure { contained := true }) s₁ := by
    refine spec_ite (fun hchanged => ?_) fun hchanged => ?_
    · exact persistDischarged_guarded (by rw [hview]; exact hfenced) _
        (by rw [hview]; exact hregistered)
    · exact spec_pure (by rw [hview]; exact hfenced)
  exact spec_bind hpersist fun persisted s₂ hfenced₂ => spec_pure hfenced₂

theorem containTargets_guarded (husable : Usable w.text s.view document)
    (hstore : store.document = document) :
    Fences w (containTargets w store) s := by
  have hpass := passTargets_probes (V := Rechecked) Rechecked.mono store.document.targets
    fun t _ => recheckDischarged_probes t
  refine spec_bind (spec_probes husable.clean.fenced nofun nofun hpass) fun recheck s₁ hpassed => ?_
  obtain ⟨hview, trace, -, hpassed⟩ := hpassed
  rw [← hview] at husable
  rw [hstore] at hpassed
  have hrearm : Guarded w (fun rearm s' => Fenced w.text s'.view ∧
      s'.view.inventories = s₁.view.inventories ∧
      (rearm.durable = true → ∃ document', Usable w.text s'.view document' ∧
        document'.targets = recheck.obligations))
      (if recheck.changed = true then rearmTargets w store recheck.obligations
        else pure { store }) s₁ := by
    refine spec_ite (fun hchanged => ?_) fun hchanged => ?_
    · exact rearmTargets_guarded husable hstore
        (hpassed.registered Rechecked.same (husable.clean.1 document husable.live))
    · have hsame := hpassed.unchanged Rechecked.unchanged (by simpa using hchanged)
      exact spec_pure ⟨husable.clean.fenced, rfl, fun _ => ⟨document, husable, hsame.symm⟩⟩
  refine spec_bind hrearm fun rearm s₂ hrearmed => ?_
  refine spec_bind (dischargeTargets_guarded hrearmed.1 hrearmed.2.2)
    fun discharged s₃ hfenced => ?_
  exact spec_pure hfenced

theorem containUsers_guarded {targetsUsable : Bool} (hfenced : Fenced w.text s.view)
    (husable : targetsUsable = true → ∃ document, Usable w.text s.view document) :
    Fences w (containUsers w severity lifecycleOk targetsUsable) s := by
  unfold containUsers
  split
  · exact spec_pure hfenced
  split
  · exact spec_pure hfenced
  split
  · exact spec_pure hfenced
  refine spec_bind (spec_readTargets hfenced) fun store s₁ hstore => ?_
  refine spec_bind (storeIsCurrent_guarded (by rw [hstore.2]; exact hfenced) store)
    fun current s₂ hcurrent => ?_
  have hview : s₂.view = s.view := hcurrent.1.trans hstore.2
  refine spec_ite (fun _ => spec_pure (by rw [hview]; exact hfenced)) fun hunusable => ?_
  have htargets : targetsUsable = true := by
    by_contra hnot
    exact hunusable (by simp [hnot])
  obtain ⟨document, husable⟩ := husable htargets
  have hdocument : store.document = document := by
    rw [hstore.1]
    exact (TargetStore.readResult_document husable.live).2
  exact containTargets_guarded (by rw [hview]; exact husable) hdocument

/-! ## The containment -/

theorem applyContainment_guarded (severity : IncidentSeverity) (reason : Bytes)
    {allowTargetMutation : Bool} (hfenced : Fenced w.text s.view)
    (hsame : allowTargetMutation = true → severity ≠ .Unlocked → SameDocument w.text s.view) :
    Fences w (applyContainment w severity reason allowTargetMutation) s := by
  refine spec_bind (leaves_update _ s hfenced) fun _ s₁ hfiles₁ => ?_
  refine spec_bind (verifyAccessGate_leaves severity s₁ (hfiles₁.fenced hfenced))
    fun gate s₂ hfiles₂ => ?_
  have hfiles₂ := hfiles₁.trans hfiles₂
  refine spec_ite (fun _ => ?_) fun hunlocked => ?_
  · exact spec_mono (releaseContainment_leaves severity s₂ (hfiles₂.fenced hfenced))
      fun _ s' hfiles => (hfiles₂.trans hfiles).fenced hfenced
  have hactive : severity ≠ .Unlocked := by
    rintro rfl
    exact hunlocked rfl
  refine spec_bind (containNetwork_leaves severity s₂ (hfiles₂.fenced hfenced))
    fun network s₃ hfiles₃ => ?_
  have hfiles₃ := hfiles₂.trans hfiles₃
  have hprepare : Guarded w (fun prepared s' => Fenced w.text s'.view ∧
      (prepared.ok = true → ∃ document, Usable w.text s'.view document))
      (if allowTargetMutation = true then prepareActiveTargetStore w
        else pure { detail := lit "incident lifecycle is unproven" }) s₃ := by
    refine spec_ite (fun hallow => ?_) fun hallow => ?_
    · exact prepareActiveTargetStore_guarded (hfiles₃.fenced hfenced)
        (hfiles₃.sameDocument (hsame hallow hactive))
    · exact spec_pure ⟨hfiles₃.fenced hfenced, nofun⟩
  refine spec_bind hprepare fun lifecycle s₄ hprepared => ?_
  refine spec_bind (containSessions_guarded hprepared.1 hprepared.2) fun sessions s₅ hsessions => ?_
  refine spec_bind (containUsers_guarded hsessions.1 hsessions.2) fun users s₆ hfenced₆ => ?_
  refine spec_bind (leaves_update _ s₆ hfenced₆) fun _ s₇ hfiles₇ => ?_
  exact spec_pure (hfiles₇.fenced hfenced₆)

end Guarded

end Fic.Incident
