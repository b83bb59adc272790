import Fic.Lib.Except
import Fic.Pam.ControlFlow.Dispatcher

/-!
# Exactness of the symbolic execution

Every loop of `executeStack` notes exactly the steps of the concrete
dispatcher: one lemma `…_worked` for each loop, from the outcomes of a call up
to the entries of a stack.  With the nesting depth as the induction parameter
this gives `executeStack_core`: what a stack completes are the ends of its
runs.
-/

namespace Fic.Pam

open Fic.Lib Worklist

variable {incoming state : ExecutionState} {states : List ExecutionState} {length : Nat}
  {next : Option Nat} {result : PamReturnCode} {rule : PamRule} {entry : PamStackEntry}
  {control : ParsedControl} {w w' : StackWorklist}

/-! ## Adding states -/

theorem StackWorklist.add_noted (h : w.add next state = .ok w') :
    ∃ states, addUnique (w.noted next) state = .ok states ∧
      w'.noted = Function.update w.noted next states := by
  cases next with
  | none | some k =>
    obtain ⟨states, hadd, rfl⟩ := except_map_eq_ok.mp h
    refine ⟨states, hadd, funext fun n => ?_⟩
    cases n <;> simp [noted, Function.update_apply]

theorem StackWorklist.add_worked {i : Nat} (hnext : ∀ k, next = some k → i < k)
    (h : w.add next state = .ok w') :
    Worked ExecutionState.core i (fun n c => n = next ∧ state.core = c) w.toWorklist
      w'.toWorklist := by
  obtain ⟨states, hadd, hnoted⟩ := add_noted h
  obtain ⟨hsub, ⟨t, ht, hcore⟩, hnew⟩ := addUnique_spec hadd
  have hthis : w'.noted next = states := by rw [hnoted, Function.update_self]
  have hother : ∀ n, n ≠ next → w'.noted n = w.noted n := by
    intro n hn
    rw [hnoted, Function.update_of_ne hn]
  refine ⟨⟨fun n => ?_, fun j hj => hother (some j) fun heq => ?_⟩, fun n s hs => ?_, ?_⟩
  · by_cases hn : n = next
    · rw [hn, hthis]
      exact hsub
    · rw [hother n hn]
      exact List.Subset.refl _
  · have hlt := hnext j heq.symm
    omega
  · by_cases hn : n = next
    · rw [hn, hthis] at hs
      rw [hn]
      exact (hnew s hs).imp_right fun hs => ⟨rfl, hs.symm⟩
    · exact .inl (hother n hn ▸ hs)
  · rintro n c ⟨rfl, rfl⟩
    exact ⟨t, hthis ▸ ht, hcore⟩

theorem addAll_worked {i : Nat} (hnext : ∀ k, next = some k → i < k)
    (h : StackWorklist.addAll next states w = .ok w') :
    Worked ExecutionState.core i (fun n c => n = next ∧ ∃ s ∈ states, s.core = c)
      w.toWorklist w'.toWorklist := by
  induction states generalizing w with
  | nil =>
    cases h
    exact (Worked.idle _ i _).congr (by simp)
  | cons state states ih =>
    rw [StackWorklist.addAll] at h
    obtain ⟨w₁, hadd, hrest⟩ := except_bind_eq_ok.mp h
    refine ((StackWorklist.add_worked hnext hadd).trans (ih hrest)).congr fun n c => ?_
    simp only [List.mem_cons, exists_eq_or_imp, and_or_left]

/-! ## The outcomes of a call -/

theorem lt_of_dispatch {initial state state' : StackStatus} {i k : Nat} {action : ControlAction}
    (h : dispatch initial length i action result state = (state', some k)) : i < k := by
  unfold dispatch at h
  cases action with
  | Done =>
    obtain ⟨-, hnext⟩ := Prod.mk.inj h
    split_ifs at hnext
    all_goals
      have := Option.some.inj hnext
      omega
  | Die =>
    obtain ⟨-, hnext⟩ := Prod.mk.inj h
    contradiction
  | Jump count =>
    dsimp only at h
    split_ifs at h
    · cases h
    · obtain ⟨-, hnext⟩ := Prod.mk.inj h
      have := Option.some.inj hnext
      omega
  | _ =>
    obtain ⟨-, hnext⟩ := Prod.mk.inj h
    have := Option.some.inj hnext
    omega

section Loops

variable {ctx : PamFlowContext} {entries : List PamStackEntry} {initial : StackStatus} {i : Nat}

theorem executeModule_core {s : ExecutionState}
    (h : executeModule ctx initial length i rule control result incoming = some (s, next)) :
    refineIdentitySubject incoming.subject rule result = some s.core.2.1 ∧
      dispatch initial length i (control.actionFor result) result incoming.toStackStatus =
        (s.core.1, next) ∧
      recordStep ctx incoming.evidence
        (callStep initial length i rule control result incoming.toStackStatus) = s.core.2.2 := by
  unfold executeModule at h
  split at h
  · contradiction
  · rename_i subject hsubject
    obtain ⟨rfl, rfl⟩ := h
    rw [core_traced]
    exact ⟨hsubject, rfl, rfl⟩

theorem executeModule_of_refine (ctx : PamFlowContext) (initial : StackStatus) (i length : Nat)
    (control : ParsedControl) {subject : IdentitySubject}
    (h : refineIdentitySubject incoming.subject rule result = some subject) :
    ∃ s next, executeModule ctx initial length i rule control result incoming = some (s, next) := by
  unfold executeModule
  rw [h]
  exact ⟨_, _, rfl⟩

/-- The calls of a module are the outcomes the symbolic execution follows. -/
theorem coreCall_iff (hentry : entries[i]? = some entry) (hmodule : entry.isSubstack = false)
    (hcontrol : parseControl entry.rule = .ok control) (incoming : ExecutionState)
    (next : Option Nat) (c : StackCore) :
    CoreCall ctx entries initial i incoming.core next c ↔
      ∃ result ∈ moduleOutcomes ctx entry.rule, ∃ s,
        executeModule ctx initial entries.length i entry.rule control result incoming =
          some (s, next) ∧ s.core = c := by
  constructor
  · intro h
    obtain ⟨step, ⟨entry', control', result, hentry', -, hcontrol', hresult, rfl, hdispatch⟩,
      hsubject, hevidence⟩ := h
    obtain rfl : entry = entry' := Option.some.inj (hentry.symm.trans hentry')
    obtain rfl : control = control' := Except.ok.inj (hcontrol.symm.trans hcontrol')
    obtain ⟨s, next', hs⟩ :=
      executeModule_of_refine ctx initial i entries.length control hsubject
    obtain ⟨hsubject', hdispatch', hevidence'⟩ := executeModule_core hs
    have hstatus := hdispatch.symm.trans hdispatch'
    simp only [Prod.mk.injEq] at hstatus
    obtain ⟨hstatus, rfl⟩ := hstatus
    refine ⟨result, hresult, s, hs, ?_⟩
    refine Prod.ext hstatus.symm (Prod.ext ?_ (hevidence'.symm.trans hevidence))
    exact Option.some.inj (hsubject'.symm.trans hsubject)
  · rintro ⟨result, hresult, s, hs, rfl⟩
    obtain ⟨hsubject, hdispatch, hevidence⟩ := executeModule_core hs
    exact ⟨_, ⟨entry, control, result, hentry, hmodule, hcontrol, hresult, rfl, hdispatch⟩,
      hsubject, hevidence⟩

theorem executeOutcomes_worked {results : List PamReturnCode}
    (h : executeOutcomes ctx initial length i rule control incoming results w = .ok w') :
    Worked ExecutionState.core i
      (fun next c => ∃ result ∈ results, ∃ s,
        executeModule ctx initial length i rule control result incoming = some (s, next) ∧
          s.core = c)
      w.toWorklist w'.toWorklist := by
  induction results generalizing w with
  | nil =>
    cases h
    exact (Worked.idle _ i _).congr (by simp)
  | cons result results ih =>
    rw [executeOutcomes] at h
    split_ifs at h
    -- the transition counter is no part of the worklist proper
    cases hmodule : executeModule ctx initial length i rule control result incoming with
    | none =>
      rw [hmodule] at h
      refine (ih h).congr fun next c => ?_
      simp [hmodule]
    | some outcome =>
      obtain ⟨state, next⟩ := outcome
      rw [hmodule] at h
      obtain ⟨w₁, hadd, hrest⟩ := except_bind_eq_ok.mp h
      have hforward : ∀ k, next = some k → i < k := by
        rintro k rfl
        exact lt_of_dispatch (executeModule_core hmodule).2.1
      have hworked := StackWorklist.add_worked hforward hadd
      refine (hworked.trans (ih hrest)).congr fun n c => ?_
      simp only [List.mem_cons, exists_eq_or_imp, hmodule, Option.some.injEq, Prod.mk.injEq]
      refine or_congr_left ?_
      constructor
      · rintro ⟨rfl, rfl⟩
        exact ⟨state, ⟨rfl, rfl⟩, rfl⟩
      · rintro ⟨s, ⟨rfl, rfl⟩, rfl⟩
        exact ⟨rfl, rfl⟩

/-! ## The entries of a stack -/

/-- Executing a stack with `nested` completes the ends of its runs. -/
def ExactOnStacks (ctx : PamFlowContext)
    (nested : List PamStackEntry → ExecutionState → Nat →
      Except Bytes (List ExecutionState × Nat)) : Prop :=
  ∀ entries initial transitions states transitions',
    nested entries initial transitions = .ok (states, transitions') →
    ∀ c, (∃ s ∈ states, s.core = c) ↔
      CoreRun ctx entries initial.toStackStatus 0 initial.core c

variable {nested : List PamStackEntry → ExecutionState → Nat →
  Except Bytes (List ExecutionState × Nat)}

theorem executeEntry_worked (hnested : ExactOnStacks ctx nested)
    (hentry : entries[i]? = some entry)
    (h : executeEntry ctx nested initial entries.length i entry incoming w = .ok w') :
    Worked ExecutionState.core i (EntryStep ctx entries initial i incoming.core)
      w.toWorklist w'.toWorklist := by
  unfold executeEntry at h
  split_ifs at h with hsubstack
  · obtain ⟨⟨states, transitions⟩, hstates, hadd⟩ := except_bind_eq_ok.mp h
    have hexact := hnested _ _ _ _ _ hstates
    simp only [enterSubstack, toStackStatus_traced, core_traced] at hexact
    refine (addAll_worked (i := i) (by simp) hadd).congr fun next c => ?_
    constructor
    · rintro ⟨rfl, hc⟩
      exact .inr ⟨rfl, entry, hentry, hsubstack, (hexact c).mp hc⟩
    · intro hstep
      rcases hstep with ⟨step, hcall, -⟩ | ⟨hnext, entry', hentry', -, hrun⟩
      · obtain ⟨entry', control, result, hentry', hmodule, -⟩ := hcall
        obtain rfl : entry = entry' := Option.some.inj (hentry.symm.trans hentry')
        rw [hsubstack] at hmodule
        contradiction
      · obtain rfl : entry = entry' := Option.some.inj (hentry.symm.trans hentry')
        exact ⟨hnext, (hexact c).mpr hrun⟩
  · obtain ⟨control, hcontrol, houtcomes⟩ := except_bind_eq_ok.mp h
    have hmodule : entry.isSubstack = false := by simpa using hsubstack
    refine (executeOutcomes_worked houtcomes).congr fun next c => ?_
    rw [← coreCall_iff hentry hmodule hcontrol]
    constructor
    · exact .inl
    · intro hstep
      rcases hstep with hcall | ⟨-, entry', hentry', hsubstack', -⟩
      · exact hcall
      · obtain rfl : entry = entry' := Option.some.inj (hentry.symm.trans hentry')
        exact absurd hsubstack' hsubstack

theorem executePending_worked (hnested : ExactOnStacks ctx nested)
    (hentry : entries[i]? = some entry)
    (h : executePending ctx nested initial entries.length i entry states w = .ok w') :
    Worked ExecutionState.core i
      (fun next c => ∃ s ∈ states, EntryStep ctx entries initial i s.core next c)
      w.toWorklist w'.toWorklist := by
  induction states generalizing w with
  | nil =>
    cases h
    exact (Worked.idle _ i _).congr (by simp)
  | cons state states ih =>
    rw [executePending] at h
    obtain ⟨w₁, hentry₁, hrest⟩ := except_bind_eq_ok.mp h
    refine ((executeEntry_worked hnested hentry hentry₁).trans (ih hrest)).congr fun next c => ?_
    simp only [List.mem_cons, exists_eq_or_imp]

/-- The worklist invariant when the entries before `i` are done. -/
structure StackInvariant (ctx : PamFlowContext) (entries : List PamStackEntry)
    (initial : ExecutionState) (i : Nat) (w : StackWorklist) : Prop where
  sound : Sound ExecutionState.core (EntryStep ctx entries initial.toStackStatus)
    entries.length initial.core w.toWorklist
  closed : Closed ExecutionState.core (EntryStep ctx entries initial.toStackStatus) i
    w.toWorklist
  start : ∃ s ∈ w.pending 0, s.core = initial.core

theorem stackInvariant_start (ctx : PamFlowContext) (entries : List PamStackEntry)
    (initial : ExecutionState) (transitions : Nat) :
    StackInvariant ctx entries initial 0 (startWorklist initial transitions) where
  sound := by
    intro next s hs
    cases next with
    | none => simp [startWorklist, noted] at hs
    | some k =>
      by_cases hk : k = 0
      · subst hk
        simp only [startWorklist, noted, Function.update_self, List.mem_singleton] at hs
        subst hs
        exact fun _ hrun => hrun
      · simp [startWorklist, noted, hk] at hs
  closed := fun j hj => absurd hj (Nat.not_lt_zero j)
  start := ⟨initial, by simp [startWorklist]⟩

theorem StackInvariant.executePending (hinv : StackInvariant ctx entries state i w)
    (hnested : ExactOnStacks ctx nested) (hentry : entries[i]? = some entry)
    (h : executePending ctx nested state.toStackStatus entries.length i entry (w.pending i) w =
      .ok w') : StackInvariant ctx entries state (i + 1) w' := by
  have hworked := executePending_worked hnested hentry h
  refine ⟨hworked.sound hinv.sound ?_, hworked.closed hinv.closed, ?_⟩
  · intro next c hnew
    obtain ⟨s, hs, hstep⟩ := hnew
    exact (hinv.sound (some i) s hs).step hstep
  · obtain ⟨s, hs, hcore⟩ := hinv.start
    exact ⟨s, hworked.subset (some 0) hs, hcore⟩

theorem StackInvariant.executeEntries (hnested : ExactOnStacks ctx nested)
    {rest : List PamStackEntry} (hrest : entries.drop i = rest)
    (hinv : StackInvariant ctx entries state i w)
    (h : executeEntries ctx nested state.toStackStatus entries.length i rest w = .ok w') :
    StackInvariant ctx entries state (i + rest.length) w' := by
  induction rest generalizing i w with
  | nil =>
    cases h
    exact hinv
  | cons entry rest ih =>
    rw [Fic.Pam.executeEntries] at h
    obtain ⟨w₁, hpending, hentries⟩ := except_bind_eq_ok.mp h
    have hentry : entries[i]? = some entry := by
      rw [← List.head?_drop, hrest]
      rfl
    have htail : entries.drop (i + 1) = rest := by
      rw [← List.tail_drop, hrest]
      rfl
    have := ih htail (hinv.executePending hnested hentry hpending) hentries
    rwa [List.length_cons, Nat.add_comm rest.length 1, ← Nat.add_assoc]

end Loops

/-! ## Whole stacks -/

/-- By induction on the levels allowed: the substacks of a stack are executed
with one level less. -/
theorem executeStack_core (ctx : PamFlowContext) (levels : Nat) :
    ExactOnStacks ctx (executeStack ctx levels) := by
  induction levels with
  | zero =>
    intro entries initial transitions states transitions' h
    cases h
  | succ levels ih =>
    intro entries initial transitions states transitions' h c
    rw [executeStack] at h
    obtain ⟨w, hentries, h⟩ := except_bind_eq_ok.mp h
    obtain ⟨w', hlast, h⟩ := except_bind_eq_ok.mp h
    obtain ⟨rfl, rfl⟩ := Prod.mk.inj (Except.ok.inj h)
    have hinv := StackInvariant.executeEntries ih rfl
      (stackInvariant_start ctx entries initial transitions) hentries
    rw [List.drop_zero, Nat.zero_add] at hinv
    -- what waits behind the last entry is completed as it is
    have hworked := addAll_worked (i := entries.length) (by simp) hlast
    rw [← forwardRun_iff]
    refine completed_iff ?_ ?_ (fun _ _ _ _ => EntryStep.lt) ?_ ?_ c
    · refine hworked.sound hinv.sound ?_
      rintro next c ⟨rfl, s, hs, rfl⟩
      exact hinv.sound (some entries.length) s hs _ .finish
    · intro j hj s hs next c hstep
      rw [hworked.fixed j (by omega)] at hs
      obtain ⟨t, ht, hcore⟩ := hinv.closed j hj s hs next c hstep
      exact ⟨t, hworked.subset next ht, hcore⟩
    · obtain ⟨s, hs, hcore⟩ := hinv.start
      exact ⟨s, hworked.subset (some 0) hs, hcore⟩
    · intro s hs
      rw [hworked.fixed _ le_rfl] at hs
      exact hworked.all none s.core ⟨rfl, s, hs, rfl⟩

/-- What is completed are the ends of the concrete runs in which
`pam_localuser` does not contradict itself, each with its evidence. -/
theorem executeStack_exact (ctx : PamFlowContext) (levels transitions transitions' : Nat)
    (entries : List PamStackEntry) (completed : List ExecutionState)
    (h : executeStack ctx levels entries {} transitions = .ok (completed, transitions'))
    (status : StackStatus) (evidence : Evidence) :
    (∃ s ∈ completed, s.toStackStatus = status ∧ s.evidence = evidence) ↔
      ∃ steps, StackRun ctx entries {} 0 {} steps status ∧ SubjectConsistent steps ∧
        evidenceOf ctx steps = evidence := by
  have hexact := executeStack_core ctx levels entries {} transitions completed transitions' h
  constructor
  · rintro ⟨s, hs, rfl, rfl⟩
    obtain ⟨steps, hrun, hsubject, hevidence⟩ := (hexact s.core).mp ⟨s, hs, rfl⟩
    refine ⟨steps, hrun, ?_, hevidence⟩
    rw [← subjectAfter_isSome_iff]
    exact Option.isSome_of_eq_some hsubject
  · rintro ⟨steps, hrun, hconsistent, rfl⟩
    rw [← subjectAfter_isSome_iff, Option.isSome_iff_exists] at hconsistent
    obtain ⟨subject, hsubject⟩ := hconsistent
    obtain ⟨s, hs, hcore⟩ := (hexact (status, subject, evidenceOf ctx steps)).mpr
      ⟨steps, hrun, hsubject, rfl⟩
    simp only [ExecutionState.core, Prod.mk.injEq] at hcore
    exact ⟨s, hs, hcore.1, hcore.2.2⟩

/-- A call of a module with nothing but a control field. -/
def sampleEntry (control module : Bytes) : PamStackEntry :=
  .mk { control := control, module := module } []

/-- A jump over `pam_deny` into a substack. -/
def sampleStack : List PamStackEntry :=
  [sampleEntry (lit "[success=1 default=ignore]") (lit "pam_localuser.so"),
    sampleEntry (lit "requisite") (lit "pam_deny.so"),
    .mk { includeKind := .Substack } [sampleEntry (lit "required") (lit "pam_unix.so")]]

def sampleContext : PamFlowContext := { provider := .PamFaillock, service := lit "login" }

theorem executeStack_exact_sample :
    ∃ steps, StackRun sampleContext sampleStack {} 0 {} steps
        { impression := .Positive, status := .success } ∧ SubjectConsistent steps ∧
      evidenceOf sampleContext steps = { authenticationSuccessObserved := true } := by
  have hcompleted : ((executeStack sampleContext kMaximumStackLevels sampleStack {} 0).toOption.map
      fun r => decide (∃ s ∈ r.1,
        s.toStackStatus = { impression := .Positive, status := .success } ∧
          s.evidence = { authenticationSuccessObserved := true })) = some true := by
    decide +kernel
  cases hrun : executeStack sampleContext kMaximumStackLevels sampleStack {} 0 with
  | error e =>
    rw [hrun] at hcompleted
    contradiction
  | ok r =>
    rw [hrun] at hcompleted
    exact (executeStack_exact _ _ _ _ _ _ hrun _ _).mp
      (of_decide_eq_true (Option.some.inj hcompleted))

/-- Two calls of `pam_localuser` that can only end well if it gives both
answers about one user. -/
def contradictingStack : List PamStackEntry :=
  [sampleEntry (lit "[success=ok default=die]") (lit "pam_localuser.so"),
    sampleEntry (lit "[perm_denied=ok default=die]") (lit "pam_localuser.so")]

/-- The dispatcher itself knows nothing of users: it has a run through both
calls that ends positively, and no such state is completed. -/
theorem executeStack_contradicting_run :
    (∃ steps, StackRun sampleContext contradictingStack {} 0 {} steps
      { impression := .Positive, status := .perm_denied }) ∧
    ((executeStack sampleContext kMaximumStackLevels contradictingStack {} 0).toOption.map
      fun r => r.1.all fun s => decide (s.impression ≠ .Positive)) = some true := by
  let accepted : StackStatus := { impression := .Positive, status := .success }
  let refused : StackStatus := { impression := .Positive, status := .perm_denied }
  have hlocal : ∃ step,
      ModuleCall sampleContext contradictingStack {} 0 {} step accepted (some 1) := by
    refine ⟨_, _, { actions := [(.success, .Ok)], defaultAction := .Die }, .success, rfl, ?_,
      ?_, ?_, rfl, ?_⟩
    all_goals decide +kernel
  have hremote : ∃ step,
      ModuleCall sampleContext contradictingStack {} 1 accepted step refused (some 2) := by
    refine ⟨_, _, { actions := [(.perm_denied, .Ok)], defaultAction := .Die }, .perm_denied,
      rfl, ?_, ?_, ?_, rfl, ?_⟩
    all_goals decide +kernel
  obtain ⟨first, hfirst⟩ := hlocal
  obtain ⟨second, hsecond⟩ := hremote
  exact ⟨⟨[first, second], .move hfirst (.move hsecond .finish)⟩, by decide +kernel⟩

end Fic.Pam
