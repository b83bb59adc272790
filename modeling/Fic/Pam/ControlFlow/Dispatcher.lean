import Fic.Pam.ControlFlow.Execute

/-!
# The concrete dispatcher

`StackRun` is a run of the Linux-PAM dispatcher through a stack: every module
it comes to returns one of its outcomes, the control field decides how to go
on, and a substack is a run of its own that hands its status back.  A run keeps
the list of its calls; what the analyzer calls evidence is read off that list
(`evidenceOf`), and so is what the calls say about the user.

With the subject and the evidence a run becomes a relation between cores
(`CoreRun`), what the symbolic execution merges its states by; as a forward
program over the entries it is `forwardRun_iff`.
-/

namespace Fic.Pam

open Fic.Lib

variable {i : Nat}

/-! ## Runs -/

/-- The call of a module as a step of a run. -/
def callStep (initial : StackStatus) (length index : Nat) (rule : PamRule)
    (control : ParsedControl) (result : PamReturnCode) (state : StackStatus) : RunStep :=
  { rule := rule
    result := result
    action := control.actionFor result
    positiveEnd :=
      endsPositively (dispatch initial length index (control.actionFor result) result state) }

/-- The module at entry `i` returns `result`, and the dispatcher acts on it. -/
def ModuleCall (ctx : PamFlowContext) (entries : List PamStackEntry)
    (initial : StackStatus) (i : Nat) (state : StackStatus) (step : RunStep)
    (state' : StackStatus) (next : Option Nat) : Prop :=
  ∃ entry control result, entries[i]? = some entry ∧ entry.isSubstack = false ∧
    parseControl entry.rule = .ok control ∧ result ∈ moduleOutcomes ctx entry.rule ∧
    step = callStep initial entries.length i entry.rule control result state ∧
    dispatch initial entries.length i (control.actionFor result) result state = (state', next)

/-- A run from entry `i` with the given status to the end of the stack. -/
inductive StackRun (ctx : PamFlowContext) :
    List PamStackEntry → StackStatus → Nat → StackStatus → List RunStep → StackStatus → Prop
  | finish {entries : List PamStackEntry} {initial state : StackStatus} :
      StackRun ctx entries initial entries.length state [] state
  | stop {entries : List PamStackEntry} {initial state state' : StackStatus} {i : Nat}
      {step : RunStep} (hcall : ModuleCall ctx entries initial i state step state' none) :
      StackRun ctx entries initial i state [step] state'
  | move {entries : List PamStackEntry} {initial state state' final : StackStatus} {i k : Nat}
      {step : RunStep} {steps : List RunStep}
      (hcall : ModuleCall ctx entries initial i state step state' (some k))
      (hrest : StackRun ctx entries initial k state' steps final) :
      StackRun ctx entries initial i state (step :: steps) final
  | nested {entries : List PamStackEntry} {initial state state' final : StackStatus} {i : Nat}
      {entry : PamStackEntry} {inner steps : List RunStep} (hentry : entries[i]? = some entry)
      (hsubstack : entry.isSubstack = true)
      (hinner : StackRun ctx entry.substack state 0 state inner state')
      (hrest : StackRun ctx entries initial (i + 1) state' steps final) :
      StackRun ctx entries initial i state (inner ++ steps) final

/-- The evidence of a list of calls. -/
def evidenceOf (ctx : PamFlowContext) (steps : List RunStep) : Evidence :=
  steps.foldl (recordStep ctx) {}

/-! ## What the calls say about the user -/

/-- The subject after a list of calls; none if a call contradicts it. -/
def subjectAfter : IdentitySubject → List RunStep → Option IdentitySubject
  | subject, [] => some subject
  | subject, step :: steps =>
    match refineIdentitySubject subject step.rule step.result with
    | none => none
    | some subject => subjectAfter subject steps

theorem subjectAfter_append (subject : IdentitySubject) (a b : List RunStep) :
    subjectAfter subject (a ++ b) =
      (subjectAfter subject a).bind fun subject => subjectAfter subject b := by
  induction a generalizing subject with
  | nil => rfl
  | cons step a ih =>
    rw [List.cons_append, subjectAfter, subjectAfter]
    cases refineIdentitySubject subject step.rule step.result with
    | none => rfl
    | some subject' => exact ih subject'

/-- No call finds the user local and another one finds them not local. -/
def SubjectConsistent (steps : List RunStep) : Prop :=
  ¬ ((∃ step ∈ steps, observedSubject step.rule step.result = .Local) ∧
    ∃ step ∈ steps, observedSubject step.rule step.result = .NonLocal)

/-- A subject is kept exactly as long as no call observes another one. -/
private theorem subjectAfter_isSome_of_known {subject : IdentitySubject}
    (hknown : subject ≠ .Unknown) (steps : List RunStep) :
    (subjectAfter subject steps).isSome ↔ ∀ step ∈ steps,
      observedSubject step.rule step.result = .Unknown ∨
        observedSubject step.rule step.result = subject := by
  induction steps with
  | nil => simp [subjectAfter]
  | cons step steps ih =>
    rw [subjectAfter, List.forall_mem_cons, ← ih]
    unfold refineIdentitySubject
    by_cases hunknown : observedSubject step.rule step.result = .Unknown
    · simp [hunknown]
    · by_cases hsame : observedSubject step.rule step.result = subject
      · simp [hsame, hknown]
      · have hne : subject ≠ observedSubject step.rule step.result := fun h => hsame h.symm
        simp [hunknown, hsame, hknown, hne]

theorem subjectAfter_isSome_iff (steps : List RunStep) :
    (subjectAfter .Unknown steps).isSome ↔ SubjectConsistent steps := by
  induction steps with
  | nil => simp [subjectAfter, SubjectConsistent]
  | cons step steps ih =>
    rw [subjectAfter]
    unfold refineIdentitySubject
    cases hobserved : observedSubject step.rule step.result with
    | Unknown =>
      simp only [if_true]
      rw [ih]
      simp [SubjectConsistent, hobserved]
    | Local | NonLocal =>
      simp only [reduceCtorEq, if_false, ne_eq, not_true_eq_false, false_and]
      rw [subjectAfter_isSome_of_known (by simp)]
      simp only [SubjectConsistent, List.mem_cons, exists_eq_or_imp, hobserved, true_or,
        true_and, and_true, reduceCtorEq, false_or, not_exists, not_and]
      refine forall₂_congr fun other _ => ?_
      cases observedSubject other.rule other.result <;> simp

/-! ## What the symbolic execution merges by -/

/-- Everything of a state but its trace. -/
abbrev StackCore := StackStatus × IdentitySubject × Evidence

variable {c c' final : StackCore}

def ExecutionState.core (state : ExecutionState) : StackCore :=
  (state.toStackStatus, state.subject, state.evidence)

/-- The hand-written comparison leaves out the trace and nothing else. -/
theorem sameState_iff {left right : ExecutionState} :
    sameState left right = true ↔ left.core = right.core := by
  obtain ⟨⟨impression, status⟩, subject, evidence, trace, truncated⟩ := left
  obtain ⟨⟨impression', status'⟩, subject', evidence', trace', truncated'⟩ := right
  cases evidence
  cases evidence'
  simp only [sameState, ExecutionState.core, Bool.and_eq_true, decide_eq_true_eq,
    Prod.mk.injEq, StackStatus.mk.injEq, Evidence.mk.injEq, and_assoc]

@[simp] theorem core_traced (state : ExecutionState) (step : PamFlowStep) :
    (state.traced step).core = state.core := by
  unfold ExecutionState.traced
  split_ifs <;> rfl

@[simp] theorem toStackStatus_traced (state : ExecutionState) (step : PamFlowStep) :
    (state.traced step).toStackStatus = state.toStackStatus := by
  unfold ExecutionState.traced
  split_ifs <;> rfl

theorem addUnique_spec {states states' : List ExecutionState} {state : ExecutionState}
    (h : addUnique states state = .ok states') :
    states ⊆ states' ∧ (∃ t ∈ states', t.core = state.core) ∧
      ∀ t ∈ states', t ∈ states ∨ t.core = state.core := by
  unfold addUnique at h
  split_ifs at h with hknown
  · cases h
    obtain ⟨t, ht, hsame⟩ := List.any_eq_true.mp hknown
    exact ⟨List.Subset.refl _, ⟨t, ht, sameState_iff.mp hsame⟩, fun t ht => .inl ht⟩
  · cases h
    refine ⟨List.subset_append_left _ _, ⟨state, by simp⟩, fun t ht => ?_⟩
    exact (List.mem_append.mp ht).imp_right fun ht => congrArg _ (List.mem_singleton.mp ht)

/-! ## The runs of a stack as a forward program -/

/-- A concrete run from one core to another. -/
def CoreRun (ctx : PamFlowContext) (entries : List PamStackEntry) (initial : StackStatus)
    (i : Nat) (c c' : StackCore) : Prop :=
  ∃ steps, StackRun ctx entries initial i c.1 steps c'.1 ∧
    subjectAfter c.2.1 steps = some c'.2.1 ∧ steps.foldl (recordStep ctx) c.2.2 = c'.2.2

/-- One call, with the subject and the evidence it leads to. -/
def CoreCall (ctx : PamFlowContext) (entries : List PamStackEntry) (initial : StackStatus)
    (i : Nat) (c : StackCore) (next : Option Nat) (c' : StackCore) : Prop :=
  ∃ step, ModuleCall ctx entries initial i c.1 step c'.1 next ∧
    refineIdentitySubject c.2.1 step.rule step.result = some c'.2.1 ∧
    recordStep ctx c.2.2 step = c'.2.2

/-- One entry of a stack: the call of a module, or a whole substack. -/
def EntryStep (ctx : PamFlowContext) (entries : List PamStackEntry) (initial : StackStatus)
    (i : Nat) (c : StackCore) (next : Option Nat) (c' : StackCore) : Prop :=
  CoreCall ctx entries initial i c next c' ∨
    next = some (i + 1) ∧ ∃ entry, entries[i]? = some entry ∧ entry.isSubstack = true ∧
      CoreRun ctx entry.substack c.1 0 c c'

section Forward

variable {ctx : PamFlowContext} {entries : List PamStackEntry} {initial : StackStatus}

theorem CoreCall.lt {next : Option Nat} (h : CoreCall ctx entries initial i c next c') :
    i < entries.length := by
  obtain ⟨step, ⟨entry, control, result, hentry, -⟩, -⟩ := h
  exact (List.getElem?_eq_some_iff.mp hentry).1

theorem EntryStep.lt {next : Option Nat} (h : EntryStep ctx entries initial i c next c') :
    i < entries.length := by
  rcases h with hcall | ⟨-, entry, hentry, -⟩
  · exact hcall.lt
  · exact (List.getElem?_eq_some_iff.mp hentry).1

theorem CoreCall.run_stop (h : CoreCall ctx entries initial i c none c') :
    CoreRun ctx entries initial i c c' := by
  obtain ⟨step, hcall, hsubject, hevidence⟩ := h
  refine ⟨[step], .stop hcall, ?_, hevidence⟩
  rw [subjectAfter, hsubject]
  rfl

theorem CoreCall.run_move {k : Nat} (h : CoreCall ctx entries initial i c (some k) c')
    (hrest : CoreRun ctx entries initial k c' final) : CoreRun ctx entries initial i c final := by
  obtain ⟨step, hcall, hsubject, hevidence⟩ := h
  obtain ⟨steps, hrun, hsubjects, hevidences⟩ := hrest
  refine ⟨step :: steps, .move hcall hrun, ?_, ?_⟩
  · rw [subjectAfter, hsubject]
    exact hsubjects
  · rw [List.foldl_cons, hevidence]
    exact hevidences

theorem CoreRun.nested {entry : PamStackEntry} {mid : StackCore}
    (hentry : entries[i]? = some entry) (hsubstack : entry.isSubstack = true)
    (hinner : CoreRun ctx entry.substack c.1 0 c mid)
    (hrest : CoreRun ctx entries initial (i + 1) mid final) :
    CoreRun ctx entries initial i c final := by
  obtain ⟨inner, hrun, hsubject, hevidence⟩ := hinner
  obtain ⟨steps, hrun', hsubject', hevidence'⟩ := hrest
  refine ⟨inner ++ steps, .nested hentry hsubstack hrun hrun', ?_, ?_⟩
  · rw [subjectAfter_append, hsubject]
    exact hsubject'
  · rw [List.foldl_append, hevidence]
    exact hevidence'

/-- The forward runs over the entries are the concrete runs. -/
theorem forwardRun_iff :
    ForwardRun (EntryStep ctx entries initial) entries.length i c final ↔
      CoreRun ctx entries initial i c final := by
  constructor
  · intro h
    induction h with
    | finish => exact ⟨[], .finish, rfl, rfl⟩
    | stop hstep =>
      rcases hstep with hcall | ⟨hnext, -⟩
      · exact hcall.run_stop
      · contradiction
    | move hstep hrest ih =>
      rcases hstep with hcall | ⟨hnext, entry, hentry, hsubstack, hinner⟩
      · exact hcall.run_move ih
      · obtain rfl := Option.some.inj hnext
        exact .nested hentry hsubstack hinner ih
  · rintro ⟨steps, hrun, hsubject, hevidence⟩
    obtain ⟨status, subject, evidence⟩ := c
    obtain ⟨status', subject', evidence'⟩ := final
    dsimp only at hrun hsubject hevidence
    -- by induction on the concrete run; inner runs of substacks stay whole
    induction hrun generalizing subject evidence with
    | finish =>
      simp only [subjectAfter, Option.some.injEq, List.foldl_nil] at hsubject hevidence
      subst hsubject hevidence
      exact .finish
    | @stop entries initial state state' i step hcall =>
      rw [subjectAfter] at hsubject
      split at hsubject
      · contradiction
      · rename_i subject₁ hrefine
        simp only [subjectAfter, Option.some.injEq] at hsubject
        subst hsubject
        exact .stop (.inl ⟨step, hcall, hrefine, hevidence⟩)
    | @move entries initial state state' final i k step steps hcall hrest ih =>
      rw [subjectAfter] at hsubject
      split at hsubject
      · contradiction
      · rename_i subject₁ hrefine
        exact .move (.inl ⟨step, hcall, hrefine, rfl⟩) (ih subject₁ _ hsubject hevidence)
    | @nested entries initial state state' final i entry inner steps hentry hsubstack hinner
        hrest ihinner ih =>
      rw [subjectAfter_append, Option.bind_eq_some_iff] at hsubject
      obtain ⟨subject₁, hsubject₁, hsubject₂⟩ := hsubject
      rw [List.foldl_append] at hevidence
      refine .move (.inr ⟨rfl, entry, hentry, hsubstack, ?_⟩)
        (ih subject₁ (inner.foldl (recordStep ctx) evidence) hsubject₂ hevidence)
      exact ⟨inner, hinner, hsubject₁, rfl⟩

end Forward

end Fic.Pam
