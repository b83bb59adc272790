import Fic.Lib.Worklist
import Fic.Pam.ControlFlow.Rules

/-!
# Symbolic execution of a stack

`executeStack` of `PamControlFlowAnalyzer.cpp`: a worklist over the entries of
a stack that follows every outcome of every module, merges states by
`sameState` and executes substacks recursively.

Two parts of the one-step rule are definitions of their own, because the
concrete dispatcher shares them: `dispatch` is what a control action makes of
the impression and status of a stack, and `recordStep` what the step leaves in
the evidence.
-/

namespace Fic.Pam

open Fic.Lib

/-! ## The state of a stack -/

inductive Impression
  | Undefined
  | Positive
  | Negative
  deriving DecidableEq, Repr

/-- What the dispatcher keeps while it runs a stack. -/
structure StackStatus where
  impression : Impression := .Undefined
  status : PamReturnCode := .perm_denied
  deriving DecidableEq, Repr

/-- One control action, taken at entry `index` of a stack of `length` entries:
the new status, and the entry to go on with unless the stack is left.
`initial` is the status the stack was entered with. -/
def dispatch (initial : StackStatus) (length index : Nat) (action : ControlAction)
    (result : PamReturnCode) (state : StackStatus) : StackStatus × Option Nat :=
  let positive : StackStatus :=
    if state.impression = .Undefined ∨
        (state.impression = .Positive ∧ state.status = .success) then
      if result ≠ .ignore then { impression := .Positive, status := result } else state
    else state
  let negative : StackStatus :=
    if state.impression ≠ .Negative then
      { impression := .Negative, status := if result = .ignore then .perm_denied else result }
    else state
  match action with
  | .Reset => (initial, some (index + 1))
  | .Ok => (positive, some (index + 1))
  | .Done => (positive, if positive.impression = .Positive then none else some (index + 1))
  | .Bad => (negative, some (index + 1))
  | .Die => (negative, none)
  | .Ignore => (state, some (index + 1))
  | .Jump count =>
    if index + 1 + count > length then
      ({ impression := .Negative, status := .perm_denied }, none)
    else (state, some (index + 1 + count))

/-- The stack is left with a success. -/
def endsPositively (outcome : StackStatus × Option Nat) : Bool :=
  outcome.2.isNone && outcome.1.impression = .Positive &&
    (outcome.1.status = .success || outcome.1.status = .new_authtok_reqd)

/-! ## Evidence -/

structure TrustedAuthenticationBypassEvidence where
  service : Bytes
  module : Bytes
  reason : PamTrustedAuthenticationBypassReason
  source : Bytes
  line : Nat
  deriving DecidableEq, Repr

structure TrustedAuthenticationExclusionEvidence where
  service : Bytes
  module : Bytes
  reason : PamTrustedAuthenticationExclusionReason
  excludedUser : Bytes
  source : Bytes
  line : Nat
  deriving DecidableEq, Repr

structure Evidence where
  providerReached : Bool := false
  providerSucceeded : Bool := false
  preauthSucceeded : Bool := false
  preauthDenied : Bool := false
  preauthFailedClosed : Bool := false
  authfailReached : Bool := false
  authsuccSucceeded : Bool := false
  authsuccDenied : Bool := false
  accountSucceeded : Bool := false
  authenticationSuccessObserved : Bool := false
  authenticationFailureObserved : Bool := false
  passwordQualitySucceeded : Bool := false
  passwordHistoryReached : Bool := false
  passwordHistorySucceeded : Bool := false
  passwordTokenProduced : Bool := false
  passwordHistoryTokenAvailable : Bool := false
  trustedAuthenticationBypass : Option TrustedAuthenticationBypassEvidence := none
  trustedAuthenticationExclusion : Option TrustedAuthenticationExclusionEvidence := none
  deriving DecidableEq, Repr

def recordProvider (ctx : PamFlowContext) (rule : PamRule) (result : PamReturnCode)
    (evidence : Evidence) : Evidence :=
  if moduleBaseName rule = pamProviderModuleName ctx.provider then
    { evidence with
      providerReached := true
      providerSucceeded := evidence.providerSucceeded || decide (result = .success) }
  else evidence

/-- The token state of a password stack: its producer and the history rule
that consumes it. -/
def recordPassword (rule : PamRule) (result : PamReturnCode) (evidence : Evidence) :
    Evidence :=
  if rule.group ≠ .Password then evidence
  else
    let succeeded := decide (result = .success)
    let evidence :=
      if moduleBaseName rule = lit "pam_pwquality.so" then
        { evidence with
          passwordQualitySucceeded := evidence.passwordQualitySucceeded || succeeded
          passwordTokenProduced := evidence.passwordTokenProduced || succeeded }
      else evidence
    if moduleBaseName rule = lit "pam_pwhistory.so" && hasArgument rule (lit "use_authtok") then
      { evidence with
        passwordHistoryTokenAvailable :=
          if evidence.passwordHistoryReached then evidence.passwordHistoryTokenAvailable
          else evidence.passwordTokenProduced
        passwordHistoryReached := true
        passwordHistorySucceeded := evidence.passwordHistorySucceeded || succeeded }
    else evidence

/-- A call of `pam_faillock` in the role its argument gives it. -/
def recordFaillock (rule : PamRule) (result : PamReturnCode) (evidence : Evidence) :
    Evidence :=
  if rule.group = .Account ∧ result = .success then { evidence with accountSucceeded := true }
  else if hasArgument rule (lit "preauth") then
    { evidence with
      preauthSucceeded := evidence.preauthSucceeded || decide (result = .success)
      preauthDenied := evidence.preauthDenied || decide (result = .auth_err) }
  else if hasArgument rule (lit "authfail") then { evidence with authfailReached := true }
  else if hasArgument rule (lit "authsucc") then
    if result = .success then { evidence with authsuccSucceeded := true }
    else if result ≠ .ignore then { evidence with authsuccDenied := true }
    else evidence
  else evidence

/-- What other modules of an authentication stack say about the credentials. -/
def recordAuthentication (ctx : PamFlowContext) (rule : PamRule) (result : PamReturnCode)
    (evidence : Evidence) : Evidence :=
  let role := moduleRole (moduleBaseName rule)
  let expectedProvider := decide (moduleBaseName rule = pamProviderModuleName ctx.provider)
  let succeeded := evidence.authenticationSuccessObserved || decide (result = .success)
  if rule.group = .Auth ∧ expectedProvider = false ∧
      (role = .CredentialAuthenticator ∨ role = .Unknown) then
    { evidence with
      authenticationSuccessObserved := succeeded
      authenticationFailureObserved :=
        evidence.authenticationFailureObserved || authenticationFailureResult result }
  else if rule.group = .Auth ∧ role = .TrustedAuthenticator then
    { evidence with authenticationSuccessObserved := succeeded }
  else evidence

def recordEvidence (ctx : PamFlowContext) (rule : PamRule) (result : PamReturnCode)
    (evidence : Evidence) : Evidence :=
  let evidence := recordPassword rule result (recordProvider ctx rule result evidence)
  if ctx.provider = .PamFaillock ∧
      moduleBaseName rule = pamProviderModuleName ctx.provider then
    recordFaillock rule result evidence
  else recordAuthentication ctx rule result evidence

def recordProviderFailClosedEvidence (ctx : PamFlowContext) (rule : PamRule)
    (result : PamReturnCode) (action : ControlAction) (evidence : Evidence) : Evidence :=
  if ctx.provider ≠ .PamFaillock ∨ moduleBaseName rule ≠ lit "pam_faillock.so" ∨
      hasArgument rule (lit "preauth") = false ∨ result = .success ∨
      result = .new_authtok_reqd ∨ result = .auth_err then
    evidence
  else
    { evidence with
      preauthFailedClosed :=
        evidence.preauthFailedClosed || decide (action = .Bad ∨ action = .Die) }

def recordTrustedAuthenticationBypass (ctx : PamFlowContext) (rule : PamRule)
    (result : PamReturnCode) (action : ControlAction) (evidence : Evidence) : Evidence :=
  if rule.group ≠ .Auth ∨ result ≠ .success ∨ action ≠ .Done then evidence
  else
    let matched := ctx.platformConfig.trustedAuthenticationBypasses.find? fun candidate =>
      candidate.service = ctx.service && candidate.module = moduleBaseName rule &&
        (candidate.control.isEmpty || candidate.control = rule.control) &&
        (candidate.arguments.isEmpty || candidate.arguments = rule.arguments) &&
        candidate.source.all fun source =>
          ctx.lexicallyNormal source = ctx.lexicallyNormal rule.source
    match matched with
    | none => evidence
    | some matched =>
      { evidence with
        trustedAuthenticationBypass := some
          { service := ctx.service
            module := moduleBaseName rule
            reason := matched.reason
            source := rule.source
            line := rule.line } }

def recordTrustedAuthenticationExclusion (ctx : PamFlowContext) (rule : PamRule)
    (result : PamReturnCode) (action : ControlAction) (evidence : Evidence) : Evidence :=
  if rule.group ≠ .Auth ∨ result ≠ .auth_err ∨ (action ≠ .Bad ∧ action ≠ .Die) then evidence
  else
    match matchingTrustedAuthenticationExclusion ctx rule with
    | none => evidence
    | some matched =>
      if matched.excludedUser.isEmpty then evidence
      else
        { evidence with
          trustedAuthenticationExclusion := some
            { service := ctx.service
              module := moduleBaseName rule
              reason := matched.reason
              excludedUser := matched.excludedUser
              source := rule.source
              line := rule.line } }

/-- One call of a module: its rule, what it returned, the action its control
takes, and whether the stack was left with a success. -/
structure RunStep where
  rule : PamRule
  result : PamReturnCode
  action : ControlAction
  positiveEnd : Bool
  deriving DecidableEq, Repr

/-- Everything a call leaves in the evidence. -/
def recordStep (ctx : PamFlowContext) (evidence : Evidence) (step : RunStep) : Evidence :=
  let evidence := recordEvidence ctx step.rule step.result evidence
  let evidence :=
    recordProviderFailClosedEvidence ctx step.rule step.result step.action evidence
  let evidence :=
    recordTrustedAuthenticationExclusion ctx step.rule step.result step.action evidence
  if step.positiveEnd then
    recordTrustedAuthenticationBypass ctx step.rule step.result step.action evidence
  else evidence

/-! ## Symbolic states -/

inductive IdentitySubject
  | Unknown
  | Local
  | NonLocal
  deriving DecidableEq, Repr

/-- What a call says about the user: `pam_localuser` knows local users. -/
def observedSubject (rule : PamRule) (result : PamReturnCode) : IdentitySubject :=
  if moduleBaseName rule ≠ lit "pam_localuser.so" then .Unknown
  else if result = .success then .Local
  else if result = .perm_denied ∨ result = .user_unknown then .NonLocal
  else .Unknown

/-- The subject after a call; none if the call contradicts what is known. -/
def refineIdentitySubject (subject : IdentitySubject) (rule : PamRule)
    (result : PamReturnCode) : Option IdentitySubject :=
  let observed := observedSubject rule result
  if observed = .Unknown then some subject
  else if subject ≠ .Unknown ∧ subject ≠ observed then none
  else some observed

structure PamFlowStep where
  source : Bytes
  line : Nat
  module : Bytes
  result : Bytes := []
  control : Bytes
  action : Bytes
  deriving DecidableEq, Repr

def kMaximumSymbolicTransitions : Nat := 250000
def kMaximumTraceSteps : Nat := 256

structure ExecutionState extends StackStatus where
  subject : IdentitySubject := .Unknown
  evidence : Evidence := {}
  trace : List PamFlowStep := []
  traceTruncated : Bool := false
  deriving DecidableEq, Repr

/-- Notes a step while there is room. -/
def ExecutionState.traced (state : ExecutionState) (step : PamFlowStep) : ExecutionState :=
  if state.trace.length < kMaximumTraceSteps then
    { state with trace := state.trace ++ [step] }
  else { state with traceTruncated := true }

def actionName : ControlAction → Bytes
  | .Ignore => lit "ignore"
  | .Bad => lit "bad"
  | .Die => lit "die"
  | .Ok => lit "ok"
  | .Done => lit "done"
  | .Reset => lit "reset"
  | .Jump count => lit "jump " ++ toDecimal count

/-- Two states with the same future and the same evidence. -/
def sameState (left right : ExecutionState) : Bool :=
  let a := left.evidence
  let b := right.evidence
  left.impression = right.impression && left.status = right.status &&
    left.subject = right.subject &&
    a.providerReached = b.providerReached &&
    a.providerSucceeded = b.providerSucceeded &&
    a.preauthSucceeded = b.preauthSucceeded &&
    a.preauthDenied = b.preauthDenied &&
    a.preauthFailedClosed = b.preauthFailedClosed &&
    a.authfailReached = b.authfailReached &&
    a.authsuccSucceeded = b.authsuccSucceeded &&
    a.authsuccDenied = b.authsuccDenied &&
    a.accountSucceeded = b.accountSucceeded &&
    a.authenticationSuccessObserved = b.authenticationSuccessObserved &&
    a.authenticationFailureObserved = b.authenticationFailureObserved &&
    a.passwordQualitySucceeded = b.passwordQualitySucceeded &&
    a.passwordHistoryReached = b.passwordHistoryReached &&
    a.passwordHistorySucceeded = b.passwordHistorySucceeded &&
    a.passwordTokenProduced = b.passwordTokenProduced &&
    a.passwordHistoryTokenAvailable = b.passwordHistoryTokenAvailable &&
    a.trustedAuthenticationBypass = b.trustedAuthenticationBypass &&
    a.trustedAuthenticationExclusion = b.trustedAuthenticationExclusion

def addUnique (states : List ExecutionState) (state : ExecutionState) :
    Except Bytes (List ExecutionState) :=
  if states.any (sameState · state) then .ok states
  else if states.length ≥ kMaximumSymbolicStates then
    .error (lit "PAM symbolic state limit exceeded")
  else .ok (states ++ [state])

/-! ## The worklist -/

/-- The pending states of every entry, the completed ones, and the transitions
counted so far. -/
structure StackWorklist extends Worklist ExecutionState where
  transitions : Nat

def StackWorklist.add (w : StackWorklist) (next : Option Nat) (state : ExecutionState) :
    Except Bytes StackWorklist :=
  match next with
  | none => (addUnique w.completed state).map fun states => { w with completed := states }
  | some k =>
    (addUnique (w.pending k) state).map fun states =>
      { w with pending := Function.update w.pending k states }

def StackWorklist.addAll (next : Option Nat) :
    List ExecutionState → StackWorklist → Except Bytes StackWorklist
  | [], w => .ok w
  | state :: states, w => do
    let w ← w.add next state
    StackWorklist.addAll next states w

/-- One outcome of a module call; none if it contradicts the subject. -/
def executeModule (ctx : PamFlowContext) (initial : StackStatus) (length index : Nat)
    (rule : PamRule) (control : ParsedControl) (result : PamReturnCode)
    (incoming : ExecutionState) : Option (ExecutionState × Option Nat) :=
  match refineIdentitySubject incoming.subject rule result with
  | none => none
  | some subject =>
    let action := control.actionFor result
    let outcome := dispatch initial length index action result incoming.toStackStatus
    let state : ExecutionState :=
      { incoming with
        toStackStatus := outcome.1
        subject := subject
        evidence := recordStep ctx incoming.evidence
          { rule := rule
            result := result
            action := action
            positiveEnd := endsPositively outcome } }
    some (state.traced
      { source := rule.source
        line := rule.line
        module := rule.module
        result := result.name
        control := rule.control
        action := actionName action }, outcome.2)

/-- The loop over the outcomes of a module. -/
def executeOutcomes (ctx : PamFlowContext) (initial : StackStatus) (length index : Nat)
    (rule : PamRule) (control : ParsedControl) (incoming : ExecutionState) :
    List PamReturnCode → StackWorklist → Except Bytes StackWorklist
  | [], w => .ok w
  | result :: results, w =>
    if w.transitions + 1 > kMaximumSymbolicTransitions then
      .error (lit "PAM symbolic transition limit exceeded")
    else
      let w := { w with transitions := w.transitions + 1 }
      match executeModule ctx initial length index rule control result incoming with
      | none => executeOutcomes ctx initial length index rule control incoming results w
      | some (state, next) => do
        let w ← w.add next state
        executeOutcomes ctx initial length index rule control incoming results w

def enterSubstack (rule : PamRule) (incoming : ExecutionState) : ExecutionState :=
  incoming.traced
    { source := rule.source
      line := rule.line
      module := lit "substack " ++ rule.includeTarget
      control := lit "substack"
      action := lit "enter" }

/-- One pending state of an entry; `nested` executes a substack. -/
def executeEntry (ctx : PamFlowContext)
    (nested : List PamStackEntry → ExecutionState → Nat →
      Except Bytes (List ExecutionState × Nat))
    (initial : StackStatus) (length index : Nat) (entry : PamStackEntry)
    (incoming : ExecutionState) (w : StackWorklist) : Except Bytes StackWorklist :=
  if entry.isSubstack then do
    let (states, transitions) ←
      nested entry.substack (enterSubstack entry.rule incoming) w.transitions
    StackWorklist.addAll (some (index + 1)) states { w with transitions := transitions }
  else do
    let control ← parseControl entry.rule
    executeOutcomes ctx initial length index entry.rule control incoming
      (moduleOutcomes ctx entry.rule) w

/-- The loop over the pending states of an entry. -/
def executePending (ctx : PamFlowContext)
    (nested : List PamStackEntry → ExecutionState → Nat →
      Except Bytes (List ExecutionState × Nat))
    (initial : StackStatus) (length index : Nat) (entry : PamStackEntry) :
    List ExecutionState → StackWorklist → Except Bytes StackWorklist
  | [], w => .ok w
  | incoming :: states, w => do
    let w ← executeEntry ctx nested initial length index entry incoming w
    executePending ctx nested initial length index entry states w

/-- The loop over the entries, from `index` on. -/
def executeEntries (ctx : PamFlowContext)
    (nested : List PamStackEntry → ExecutionState → Nat →
      Except Bytes (List ExecutionState × Nat))
    (initial : StackStatus) (length : Nat) :
    Nat → List PamStackEntry → StackWorklist → Except Bytes StackWorklist
  | _, [], w => .ok w
  | index, entry :: entries, w => do
    let w ← executePending ctx nested initial length index entry (w.pending index) w
    executeEntries ctx nested initial length (index + 1) entries w

def startWorklist (initial : ExecutionState) (transitions : Nat) : StackWorklist :=
  { pending := Function.update (fun _ => []) 0 [initial]
    completed := []
    transitions := transitions }

/-- Executes a stack; the first argument is the number of stack levels still
allowed. -/
def executeStack (ctx : PamFlowContext) :
    Nat → List PamStackEntry → ExecutionState → Nat →
      Except Bytes (List ExecutionState × Nat)
  | 0, _, _, _ => .error (lit "PAM substack depth limit exceeded")
  | levels + 1, entries, initial, transitions => do
    let w ← executeEntries ctx (executeStack ctx levels) initial.toStackStatus entries.length
      0 entries (startWorklist initial transitions)
    let w ← StackWorklist.addAll none (w.pending entries.length) w
    .ok (w.completed, w.transitions)

/-- Substacks may be nested 32 deep. -/
def kMaximumStackLevels : Nat := 33

end Fic.Pam
