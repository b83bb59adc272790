import Mathlib.Logic.Relation

/-!
# Programs that call operations

A program calls operations one after the other and goes on with their answers.  What an
operation does is left to a machine: its state, and for every operation and every fault
(whatever may go wrong in it) the answer and the next state.

* `Machine.exec` runs a program alone, with one fault for each call.
* `Machine.run` runs it for as many calls as there are faults: it may be stopped after any
  of its calls.
* `Machine.runPool` runs several programs at the same time; a schedule says whose call is
  next.

`Machine.Safe` is the specification of a program among others: every call is allowed, it
changes the state as the guarantee says as long as the others change it as the rely
condition says, and the result satisfies the postcondition.  A program that is safe stays
safe (`Safe.run`), in a pool of safe programs as well (`safe_runPool`), and
`Safe.bind` puts specifications together.  `Program.interpret` turns the operations of a
program into calls of another machine; `Safe.interpret` carries a specification over.
`Machine.observe` adds a record of the calls to the state, and `Machine.Calls` says which
calls the runs of a program make.
-/

namespace Fic.Lib

open Relation

/-! ## Programs -/

inductive Program (Op : Type) (Answer : Op → Type) (α : Type) : Type
  | done (value : α)
  | call (op : Op) (next : Answer op → Program Op Answer α)

namespace Program

variable {Op : Type} {Answer : Op → Type} {α β γ : Type}

def bind : Program Op Answer α → (α → Program Op Answer β) → Program Op Answer β
  | .done value, f => f value
  | .call op next, f => .call op fun answer => (next answer).bind f

instance : Monad (Program Op Answer) where
  pure := .done
  bind := bind

def ask (op : Op) : Program Op Answer (Answer op) := .call op .done

@[simp] theorem bind_eq (p : Program Op Answer α) (f : α → Program Op Answer β) :
    (p >>= f) = p.bind f := rfl

variable {Op' : Type} {Answer' : Op' → Type}

/-- The program with every operation carried out by a program of its own. -/
def interpret (handler : (op : Op) → Program Op' Answer' (Answer op)) :
    Program Op Answer α → Program Op' Answer' α
  | .done value => .done value
  | .call op next => (handler op).bind fun answer => (next answer).interpret handler

/-- The calls of a program one after the other, each with its answer. -/
abbrev Trace (Op : Type) (Answer : Op → Type) := List ((op : Op) × Answer op)

/-- Whatever is answered, the program makes only these calls, and its value and its trace are
related. -/
def Probe (can : Op → Prop) : (α → Trace Op Answer → Prop) → Program Op Answer α → Prop
  | Q, .done value => Q value []
  | Q, .call op next =>
    can op ∧ ∀ answer, Probe can (fun value trace => Q value (⟨op, answer⟩ :: trace)) (next answer)

variable {p : Program Op Answer α}

theorem Probe.bind {can : Op → Prop} {Q : α → Trace Op Answer → Prop}
    {R : β → Trace Op Answer → Prop} {f : α → Program Op Answer β}
    (h : Probe can Q p)
    (hf : ∀ value trace, Q value trace →
      Probe can (fun last later => R last (trace ++ later)) (f value)) :
    Probe can R (p.bind f) := by
  induction p generalizing Q R with
  | done value => exact hf value [] h
  | call op next ih =>
    exact ⟨h.1, fun answer => ih answer (h.2 answer) fun value trace hvalue => hf value _ hvalue⟩

theorem Probe.mono {can can' : Op → Prop} {Q R : α → Trace Op Answer → Prop} (h : Probe can Q p)
    (hcan : ∀ op, can op → can' op)
    (hQ : ∀ value trace, Q value trace → R value trace) : Probe can' R p := by
  induction p generalizing Q R with
  | done value => exact hQ value [] h
  | call op next ih =>
    exact ⟨hcan op h.1, fun answer => ih answer (h.2 answer) fun value trace => hQ value _⟩

end Program

/-! ## Machines -/

structure Machine (Op : Type) (Answer : Op → Type) (Fault State : Type) where
  perform : State → (op : Op) → Fault → Answer op × State

namespace Machine

variable {Op : Type} {Answer : Op → Type} {Fault State α β : Type}

/-- Runs a program alone; the `n`-th call meets the `n`-th fault. -/
def exec (m : Machine Op Answer Fault State) :
    Program Op Answer α → (Nat → Fault) → State → α × State
  | .done value, _, state => (value, state)
  | .call op next, faults, state =>
    m.exec (next (m.perform state op (faults 0)).1) (fun n => faults (n + 1))
      (m.perform state op (faults 0)).2

def step (m : Machine Op Answer Fault State) (config : Program Op Answer α × State)
    (fault : Fault) : Program Op Answer α × State :=
  match config.1 with
  | .done _ => config
  | .call op next =>
    (next (m.perform config.2 op fault).1, (m.perform config.2 op fault).2)

def run (m : Machine Op Answer Fault State) (config : Program Op Answer α × State)
    (faults : List Fault) : Program Op Answer α × State :=
  faults.foldl m.step config

/-- One call of one of several programs. -/
def poolStep (m : Machine Op Answer Fault State) (config : List (Program Op Answer α) × State)
    (choice : Nat × Fault) : List (Program Op Answer α) × State :=
  match config.1[choice.1]? with
  | none => config
  | some p =>
    (config.1.set choice.1 (m.step (p, config.2) choice.2).1, (m.step (p, config.2) choice.2).2)

/-- The calls of several programs in the order of a schedule. -/
def runPool (m : Machine Op Answer Fault State) (config : List (Program Op Answer α) × State)
    (schedule : List (Nat × Fault)) : List (Program Op Answer α) × State :=
  schedule.foldl m.poolStep config

/-! ## Specifications -/

/-- What a program does among others.  `allowed` says when an operation may be called, `rely`
what the others do, `guarantee` what a call of this program does and `post` what holds of
its result. -/
def Safe (m : Machine Op Answer Fault State) (allowed : State → Op → Prop)
    (rely guarantee : State → State → Prop) (post : α → State → Prop) :
    Program Op Answer α → State → Prop
  | .done value, state => ∀ state', rely state state' → post value state'
  | .call op next, state => ∀ state', rely state state' → allowed state' op ∧
      ∀ fault, guarantee state' (m.perform state' op fault).2 ∧
        m.Safe allowed rely guarantee post (next (m.perform state' op fault).1)
          (m.perform state' op fault).2

variable {m : Machine Op Answer Fault State} {allowed : State → Op → Prop}
  {rely guarantee : State → State → Prop} {post : α → State → Prop}

variable {p : Program Op Answer α} {state : State}

section

variable (h : m.Safe allowed rely guarantee post p state)

include h

/-- A specification outlives what the others do. -/
theorem Safe.stable [IsTrans State rely] {state' : State} (hrely : rely state state') :
    m.Safe allowed rely guarantee post p state' := by
  cases p with
  | done value => exact fun s hs => h s (IsTrans.trans _ _ _ hrely hs)
  | call op next => exact fun s hs => h s (IsTrans.trans _ _ _ hrely hs)

theorem Safe.bind [Std.Refl rely] {f : α → Program Op Answer β} {post' : β → State → Prop}
    (hf : ∀ value state, post value state → m.Safe allowed rely guarantee post' (f value) state) :
    m.Safe allowed rely guarantee post' (p.bind f) state := by
  induction p generalizing state with
  | done value => exact hf value state (h state (refl state))
  | call op next ih =>
    intro state' hrely
    obtain ⟨hallowed, hstep⟩ := h state' hrely
    exact ⟨hallowed, fun fault => ⟨(hstep fault).1, ih _ (hstep fault).2⟩⟩

theorem Safe.mono {guarantee' : State → State → Prop}
    {post' : α → State → Prop}
    (hguarantee : ∀ s s', guarantee s s' → guarantee' s s')
    (hpost : ∀ value s, post value s → post' value s) :
    m.Safe allowed rely guarantee' post' p state := by
  induction p generalizing state with
  | done value => exact fun s hs => hpost value s (h s hs)
  | call op next ih =>
    intro s hs
    obtain ⟨hallowed, hstep⟩ := h s hs
    exact ⟨hallowed, fun fault => ⟨hguarantee _ _ (hstep fault).1, ih _ (hstep fault).2⟩⟩

theorem Safe.allow {allowed' : State → Op → Prop}
    (hallowed : ∀ s op, allowed s op → allowed' s op) :
    m.Safe allowed' rely guarantee post p state := by
  induction p generalizing state with
  | done value => exact h
  | call op next ih =>
    intro s hs
    obtain ⟨hop, hstep⟩ := h s hs
    exact ⟨hallowed s op hop, fun fault => ⟨(hstep fault).1, ih _ (hstep fault).2⟩⟩

/-- A program that is run alone ends as its specification says. -/
theorem Safe.exec [Std.Refl rely] (faults : Nat → Fault) :
    post (m.exec p faults state).1 (m.exec p faults state).2 := by
  induction p generalizing state faults with
  | done value => exact h state (refl state)
  | call op next ih =>
    obtain ⟨-, hstep⟩ := h state (refl state)
    exact ih _ (hstep (faults 0)).2 fun n => faults (n + 1)

theorem Safe.exec_guarantee [Std.Refl rely] (faults : Nat → Fault) :
    ReflTransGen guarantee state (m.exec p faults state).2 := by
  induction p generalizing state faults with
  | done value => exact .refl
  | call op next ih =>
    obtain ⟨-, hstep⟩ := h state (refl state)
    exact .head (hstep (faults 0)).1 (ih _ (hstep (faults 0)).2 fun n => faults (n + 1))

/-- One call keeps the specification and the guarantee, if anything is called at all. -/
theorem Safe.step [Std.Refl rely] (fault : Fault) :
    m.Safe allowed rely guarantee post (m.step (p, state) fault).1 (m.step (p, state) fault).2 ∧
      ReflGen guarantee state (m.step (p, state) fault).2 := by
  cases p with
  | done value => exact ⟨h, .refl⟩
  | call op next =>
    obtain ⟨-, hcall⟩ := h state (refl state)
    exact ⟨(hcall fault).2, .single (hcall fault).1⟩

end

/-- Wherever a program is stopped, it has kept its specification so far. -/
theorem Safe.run [Std.Refl rely] {config : Program Op Answer α × State}
    (h : m.Safe allowed rely guarantee post config.1 config.2) (faults : List Fault) :
    m.Safe allowed rely guarantee post (m.run config faults).1 (m.run config faults).2 ∧
      ReflTransGen guarantee config.2 (m.run config faults).2 := by
  induction faults generalizing config with
  | nil => exact ⟨h, .refl⟩
  | cons fault faults ih =>
    obtain ⟨hsafe, hmoved⟩ := h.step fault
    obtain ⟨hlast, hlater⟩ := ih hsafe
    exact ⟨hlast, hmoved.to_reflTransGen.trans hlater⟩

/-- The guarantee of a program that runs alone, from what its calls are allowed to be. -/
theorem Safe.alone [Std.Refl rely] {guarantee' : State → State → Prop}
    (h : m.Safe allowed rely guarantee post p state)
    (hguarantee : ∀ s op fault, allowed s op → guarantee' s (m.perform s op fault).2) :
    m.Safe allowed Eq guarantee' post p state := by
  induction p generalizing state with
  | done value =>
    rintro _ rfl
    exact h state (refl state)
  | call op next ih =>
    rintro _ rfl
    obtain ⟨hallowed, hcall⟩ := h state (refl state)
    exact ⟨hallowed, fun fault => ⟨hguarantee state op fault hallowed, ih _ (hcall fault).2⟩⟩

variable {config : List (Program Op Answer α) × State}

variable {posts : Nat → α → State → Prop}

/-- Programs that guarantee what the others rely on are safe together. -/
theorem safe_poolStep [Std.Refl rely] [IsTrans State rely]
    (hguarantee : ∀ s s', guarantee s s' → rely s s')
    (h : ∀ i p, config.1[i]? = some p → m.Safe allowed rely guarantee (posts i) p config.2)
    (choice : Nat × Fault) :
    (∀ i p, (m.poolStep config choice).1[i]? = some p →
      m.Safe allowed rely guarantee (posts i) p (m.poolStep config choice).2) ∧
      rely config.2 (m.poolStep config choice).2 := by
  unfold poolStep
  cases hfound : config.1[choice.1]? with
  | none => exact ⟨h, refl config.2⟩
  | some p =>
    obtain ⟨hsafe, hcall⟩ := (h _ p hfound).step choice.2
    have hmoved : rely config.2 (m.step (p, config.2) choice.2).2 := by
      rcases (reflGen_iff _ _ _).mp hcall with hsame | hcall
      · rw [hsame]
        exact refl config.2
      · exact hguarantee _ _ hcall
    refine ⟨fun i q hi => ?_, hmoved⟩
    by_cases hchoice : choice.1 = i
    · subst hchoice
      have hlength : choice.1 < config.1.length := (List.getElem?_eq_some_iff.mp hfound).1
      rw [List.getElem?_set_self hlength] at hi
      rw [← Option.some.inj hi]
      exact hsafe
    · rw [List.getElem?_set_ne hchoice] at hi
      exact (h i q hi).stable hmoved

theorem safe_runPool [Std.Refl rely] [IsTrans State rely]
    (hguarantee : ∀ s s', guarantee s s' → rely s s')
    (h : ∀ i p, config.1[i]? = some p → m.Safe allowed rely guarantee (posts i) p config.2)
    (schedule : List (Nat × Fault)) :
    (∀ i p, (m.runPool config schedule).1[i]? = some p →
      m.Safe allowed rely guarantee (posts i) p (m.runPool config schedule).2) ∧
      rely config.2 (m.runPool config schedule).2 := by
  induction schedule generalizing config with
  | nil => exact ⟨h, refl config.2⟩
  | cons choice schedule ih =>
    obtain ⟨hsafe, hmoved⟩ := safe_poolStep hguarantee h choice
    obtain ⟨hlast, hlater⟩ := ih hsafe
    exact ⟨hlast, IsTrans.trans _ _ _ hmoved hlater⟩

/-! ## Calls -/

/-- The calls that the runs of a program make, each with the state in which it is made. -/
inductive Calls (m : Machine Op Answer Fault State) :
    Program Op Answer α → State → State → Op → Prop
  | here {op : Op} {next : Answer op → Program Op Answer α} {state : State} :
      Calls m (.call op next) state state op
  | later {op op' : Op} {next : Answer op → Program Op Answer α} {state state' : State}
      (fault : Fault)
      (h : Calls m (next (m.perform state op fault).1) (m.perform state op fault).2 state' op') :
      Calls m (.call op next) state state' op'

/-- Every call of a safe program is allowed. -/
theorem Safe.calls [Std.Refl rely] {state' : State} {op : Op}
    (h : m.Safe allowed rely guarantee post p state) (hcalls : m.Calls p state state' op) :
    allowed state' op := by
  induction hcalls with
  | here => exact (h _ (refl _)).1
  | later fault _ ih => exact ih ((h _ (refl _)).2 fault).2

/-- Where a run is about to make a call, the program makes it. -/
theorem Calls.of_run {config : Program Op Answer α × State} {faults : List Fault} {op : Op}
    {next : Answer op → Program Op Answer α} (h : (m.run config faults).1 = .call op next) :
    m.Calls config.1 config.2 (m.run config faults).2 op := by
  obtain ⟨p, state⟩ := config
  induction faults generalizing p state with
  | nil =>
    change p = .call op next at h
    rw [h]
    exact .here
  | cons fault faults ih =>
    cases p with
    | done value => exact ih _ _ h
    | call op' next' => exact .later fault (ih _ _ h)

/-- What holds before each call and at the end holds now. -/
theorem Safe.now [Std.Refl rely] {inv : State → Prop}
    (h : m.Safe allowed rely guarantee post p state) (hallowed : ∀ s op, allowed s op → inv s)
    (hpost : ∀ value s, post value s → inv s) : inv state := by
  cases p with
  | done value => exact hpost value state (h state (refl state))
  | call op next => exact hallowed state op (h state (refl state)).1

/-- A specification with an invariant that the guarantee keeps. -/
theorem Safe.invariant (inv : State → Prop)
    (h : m.Safe allowed Eq guarantee post p state) (hinv : inv state)
    (hkeeps : ∀ s s', inv s → guarantee s s' → inv s') :
    m.Safe (fun s op => allowed s op ∧ inv s) Eq guarantee (fun value s => post value s ∧ inv s)
      p state := by
  induction p generalizing state with
  | done value =>
    rintro _ rfl
    exact ⟨h _ rfl, hinv⟩
  | call op next ih =>
    rintro _ rfl
    obtain ⟨hallowed, hstep⟩ := h _ rfl
    refine ⟨⟨hallowed, hinv⟩, fun fault => ⟨(hstep fault).1, ?_⟩⟩
    exact ih _ (hstep fault).2 (hkeeps _ _ hinv (hstep fault).1)

/-! ## Probes -/

/-- A program that only probes: `grown` says how its calls change the state. -/
theorem Safe.probe {can : Op → Prop} {Q : α → Program.Trace Op Answer → Prop}
    (grown : State → Program.Trace Op Answer → State → Prop)
    (hstep : ∀ s trace s' op fault, can op → grown s trace s' →
      grown s (trace ++ [⟨op, (m.perform s' op fault).1⟩]) (m.perform s' op fault).2)
    (hnil : grown state [] state)
    (hallowed : ∀ trace s' op, grown state trace s' → can op → allowed s' op)
    (hguarantee : ∀ s' op fault, can op → guarantee s' (m.perform s' op fault).2)
    (h : Program.Probe can Q p) :
    m.Safe allowed Eq guarantee
      (fun value s' => ∃ trace, grown state trace s' ∧ Q value trace) p state := by
  -- the program may be run from any state that some trace leads to
  suffices hrun : ∀ (p : Program Op Answer α) (Q : α → Program.Trace Op Answer → Prop)
      (trace : Program.Trace Op Answer) (s : State), grown state trace s →
      Program.Probe can (fun value later => Q value (trace ++ later)) p →
      m.Safe allowed Eq guarantee
        (fun value s' => ∃ trace, grown state trace s' ∧ Q value trace) p s from
    hrun p Q [] state hnil h
  intro p
  induction p with
  | done value =>
    rintro Q trace s hgrown hprobe _ rfl
    exact ⟨trace, hgrown, by simpa [Program.Probe] using hprobe⟩
  | call op next ih =>
    rintro Q trace s hgrown hprobe _ rfl
    refine ⟨hallowed trace s op hgrown hprobe.1, fun fault => ⟨hguarantee s op fault hprobe.1, ?_⟩⟩
    refine ih _ Q _ _ (hstep _ _ _ op fault hprobe.1 hgrown) ?_
    refine (hprobe.2 _).mono (fun _ hcan => hcan) fun value later hvalue => ?_
    simpa using hvalue

/-! ## Observers -/

/-- The machine together with a record of what happens in it. -/
def observe {Record : Type} (m : Machine Op Answer Fault State)
    (record : Record → State → (op : Op) → Answer op → State → Record) :
    Machine Op Answer Fault (State × Record) where
  perform state op fault :=
    ((m.perform state.1 op fault).1, (m.perform state.1 op fault).2,
      record state.2 state.1 op (m.perform state.1 op fault).1 (m.perform state.1 op fault).2)

/-! ## Programs that can throw -/

/-- A postcondition for the two ways a program ends: with a value, or with an exception. -/
def Ends (post : α → State → Prop) (thrown : State → Prop) : Option α → State → Prop
  | some value, state => post value state
  | none, state => thrown state

variable {thrown : State → Prop}

theorem Safe.bind_throw [Std.Refl rely] {x : OptionT (Program Op Answer) α}
    {f : α → OptionT (Program Op Answer) β} {post' : β → State → Prop}
    (h : m.Safe allowed rely guarantee (Ends post thrown) x.run state)
    (hf : ∀ value state, post value state →
      m.Safe allowed rely guarantee (Ends post' thrown) (f value).run state)
    (hthrown : ∀ state state', thrown state → rely state state' → thrown state') :
    m.Safe allowed rely guarantee (Ends post' thrown) (x >>= f).run state := by
  refine Safe.bind h fun result state' hends => ?_
  cases result with
  | none => exact fun state'' hrely => hthrown _ _ hends hrely
  | some value => exact hf value state' hends

theorem Safe.lift [Std.Refl rely] (h : m.Safe allowed rely guarantee post p state)
    (hpost : ∀ value state state', post value state → rely state state' → post value state') :
    m.Safe allowed rely guarantee (Ends post thrown) (OptionT.lift p).run state :=
  h.bind fun value state' hvalue state'' hrely => hpost value state' state'' hvalue hrely

/-! ## Interpretation -/

section Interpret

variable {Op' : Type} {Answer' : Op' → Type} {Fault' State' : Type}
  {m' : Machine Op' Answer' Fault' State'} {allowed' : State' → Op' → Prop}
  {guarantee' : State' → State' → Prop} {inv : State' → Prop} {get : State' → State}
  {handler : (op : Op) → Program Op' Answer' (Answer op)}

/-- Handlers that do what the operations do to a part of the state and keep an invariant of
the whole. -/
def Handles (m : Machine Op Answer Fault State) (m' : Machine Op' Answer' Fault' State')
    (allowed : State → Op → Prop) (guarantee : State → State → Prop)
    (allowed' : State' → Op' → Prop) (guarantee' : State' → State' → Prop) (inv : State' → Prop)
    (get : State' → State) (handler : (op : Op) → Program Op' Answer' (Answer op)) : Prop :=
  ∀ (op : Op) (state : State'), inv state → allowed (get state) op →
    (∀ fault, guarantee (get state) (m.perform (get state) op fault).2) →
    m'.Safe allowed' Eq guarantee'
      (fun answer state' => inv state' ∧ ∃ fault,
        answer = (m.perform (get state) op fault).1 ∧
          get state' = (m.perform (get state) op fault).2)
      (handler op) state

/-- A specification of a program is one of its interpretation. -/
theorem Safe.interpret
    (hhandles : Handles m m' allowed guarantee allowed' guarantee' inv get handler)
    {p : Program Op Answer α} {state : State'} (hinv : inv state)
    (h : m.Safe allowed Eq guarantee post p (get state)) :
    m'.Safe allowed' Eq guarantee' (fun value state' => inv state' ∧ post value (get state'))
      (p.interpret handler) state := by
  induction p generalizing state with
  | done value =>
    rintro _ rfl
    exact ⟨hinv, h _ rfl⟩
  | call op next ih =>
    obtain ⟨hallowed, hstep⟩ := h _ rfl
    refine (hhandles op state hinv hallowed fun fault => (hstep fault).1).bind ?_
    rintro answer state' ⟨hinv', fault, rfl, hget⟩
    have hnext := (hstep fault).2
    rw [← hget] at hnext
    exact ih _ hinv' hnext

end Interpret

end Machine

end Fic.Lib
