import Fic.Execution.Registry

/-!
# The execution planner

`PolicyExecutionPlanner::execute` runs the requested policies and, before each,
the dependencies whose condition matches.  The members of the planner are the
fields of `PlannerState`; the results table makes sure that a policy is
executed once per plan.

What a policy's own `apply()` does is arbitrary: `OwnBehaviour` gives, for an
unknown state `ω` of the rest of the system, the outcome of the call and the
state behind it.  `attempts` is a ghost field that notes each own execution
together with the results that were in the summary at that moment.
-/

namespace Fic.Execution

open Fic.Lib

/-! ## Results -/

inductive PolicyApplyStatus
  | Applied
  | Failed
  | Disabled
  | NotFound
  deriving DecidableEq, Repr

def policyApplyStatusToString : PolicyApplyStatus → Bytes
  | .Applied => lit "applied"
  | .Failed => lit "failed"
  | .Disabled => lit "disabled"
  | .NotFound => lit "not_found"

inductive PolicyFailureOrigin
  | None
  | OwnApplyFailure
  | RequiredDependencyBlocked
  | DependencyCycle
  | ExecutionInfrastructureFailure
  deriving DecidableEq, Repr

inductive LogLevel
  | TRACE
  | DEBUG
  | INFO
  | WARN
  | ERROR
  | FATAL
  deriving DecidableEq, Repr

def levelToString : LogLevel → Bytes
  | .TRACE => lit "TRACE"
  | .DEBUG => lit "DEBUG"
  | .INFO => lit "INFO"
  | .WARN => lit "WARN"
  | .ERROR => lit "ERROR"
  | .FATAL => lit "FATAL"

structure PolicyDiagnostic where
  timestamp : Bytes
  level : Bytes
  category : Bytes
  message : Bytes
  deriving DecidableEq, Repr

structure PolicyApplyResult where
  moduleName : Bytes
  submoduleName : Bytes
  policyName : Bytes
  status : PolicyApplyStatus
  message : Bytes
  diagnostics : List PolicyDiagnostic := []
  diagnosticsTruncated : Bool := false
  failureOrigin : PolicyFailureOrigin := .None
  ownApplyAttempted : Bool := false
  deriving DecidableEq, Repr

def PolicyApplyResult.ref (result : PolicyApplyResult) : PolicyRef :=
  { moduleName := result.moduleName
    submoduleName := result.submoduleName
    policyName := result.policyName }

def resultFor (ref : PolicyRef) (status : PolicyApplyStatus) (message : Bytes) :
    PolicyApplyResult :=
  { moduleName := ref.moduleName
    submoduleName := ref.submoduleName
    policyName := ref.policyName
    status := status
    message := message }

structure PolicyApplySummary where
  results : List PolicyApplyResult := []
  requestedRoots : List PolicyRef := []
  deriving DecidableEq, Repr

/-! ## Own execution -/

/-- What the planner catches from an own execution. -/
inductive OwnException
  | exception (what : Bytes)
  | unknown
  deriving DecidableEq, Repr

structure LogRecord where
  timestamp : Bytes
  level : LogLevel
  type : Bytes
  message : Bytes
  deriving DecidableEq, Repr

structure LogCaptureResult where
  records : List LogRecord := []
  truncated : Bool := false
  deriving DecidableEq, Repr

/-- The behaviour of the world the planner runs in: the optional own executor,
each policy's `apply()`, the log records captured between two states, and the
clock. -/
structure OwnBehaviour (ω : Type) where
  executor : Option (PolicyRef → ω → Except OwnException (Option PolicyApplyResult) × ω) := none
  apply : PolicyRef → ω → Except OwnException Bool × ω
  captured : ω → ω → LogCaptureResult := fun _ _ => {}
  currentTime : ω → Bytes := fun _ => []

def exceptionMessage : OwnException → Bytes
  | .exception what => lit "Исключение при применении политики: " ++ what
  | .unknown => lit "Неизвестное исключение при применении политики"

section

variable {ω : Type}

/-- The guarded part of an own execution: the executor's result if it gives
one, else the answer of `apply()`. -/
def ownAnswer (own : OwnBehaviour ω) (ref : PolicyRef) (world : ω) :
    Except OwnException (Option PolicyApplyResult × Bool) × ω :=
  let apply (world : ω) : Except OwnException (Option PolicyApplyResult × Bool) × ω :=
    ((own.apply ref world).1.map fun applied => (none, applied), (own.apply ref world).2)
  match own.executor with
  | none => apply world
  | some executor =>
    match executor ref world with
    | (.error thrown, world) => (.error thrown, world)
    | (.ok none, world) => apply world
    | (.ok (some adapted), world) =>
      if adapted.ref ≠ ref then
        (.error (.exception (lit "own executor returned a different policy identity")), world)
      else if adapted.status ≠ .Applied ∧ adapted.status ≠ .Failed then
        (.error (.exception (lit "own executor returned an invalid execution status")), world)
      else (.ok (some adapted, decide (adapted.status = .Applied)), world)

def capturedDiagnostics (captured : LogCaptureResult) : List PolicyDiagnostic :=
  captured.records.map fun record =>
    { timestamp := record.timestamp
      level := levelToString record.level
      category := record.type
      message := record.message }

def executeOwnPolicy (own : OwnBehaviour ω) (ref : PolicyRef) (world : ω) :
    PolicyApplyResult × ω :=
  let (answer, world') := ownAnswer own ref world
  let captured := own.captured world world'
  let diagnostics := capturedDiagnostics captured
  match answer with
  | .ok (some adapted, _) =>
    ({ adapted with
        diagnostics := adapted.diagnostics ++ diagnostics
        diagnosticsTruncated := adapted.diagnosticsTruncated || captured.truncated }, world')
  | .ok (none, applied) =>
    ({ resultFor ref (if applied then .Applied else .Failed)
          (if applied then lit "Политика успешно применена"
            else lit "Не удалось применить политику") with
        diagnostics := diagnostics
        diagnosticsTruncated := captured.truncated
        ownApplyAttempted := true
        failureOrigin := if applied then .None else .OwnApplyFailure }, world')
  | .error thrown =>
    ({ resultFor ref .Failed (exceptionMessage thrown) with
        diagnostics := diagnostics ++
          [{ timestamp := own.currentTime world'
             level := levelToString .ERROR
             category := lit "daemon"
             message := exceptionMessage thrown }]
        diagnosticsTruncated := captured.truncated
        ownApplyAttempted := true
        failureOrigin := .OwnApplyFailure }, world')

/-! ## The planner -/

/-- An own execution and the results in the summary before it. -/
structure OwnAttempt where
  ref : PolicyRef
  before : List PolicyApplyResult

structure PlannerState (ω : Type) where
  world : ω
  results : List (PolicyRef × PolicyApplyResult) := []
  visiting : List PolicyRef := []
  summary : PolicyApplySummary := {}
  attempts : List OwnAttempt := []

/-- `results_.emplace` keeps an existing result, and the summary gets the
stored one. -/
def PlannerState.record (st : PlannerState ω) (ref : PolicyRef) (result : PolicyApplyResult) :
    PolicyApplyResult × PlannerState ω :=
  let stored := (st.results.lookup ref).getD result
  (stored,
    { st with
      results :=
        if (st.results.lookup ref).isSome then st.results else st.results ++ [(ref, result)]
      summary := { st.summary with results := st.summary.results ++ [stored] } })

def dependencyDiagnostic (own : OwnBehaviour ω) (world : ω) (dependency : PolicyRef)
    (strength : PolicyDependencyStrength) (detail : Bytes) : PolicyDiagnostic :=
  let required := decide (strength = .Required)
  { timestamp := own.currentTime world
    level := levelToString (if required then .ERROR else .WARN)
    category := lit "daemon"
    message :=
      (if required then lit "Required" else lit "Recommended") ++
        lit " dependency was not applied: " ++ formatPolicyRef dependency ++ lit "; " ++
        detail }

/-- The locals of the loop over the dependencies. -/
structure DependencyScan (ω : Type) where
  st : PlannerState ω
  requiredBlocked : Bool := false
  diagnostics : List PolicyDiagnostic := []

/-- A dependency that was not applied: noted, and blocking if required. -/
def DependencyScan.block (scan : DependencyScan ω) (own : OwnBehaviour ω)
    (dependency : PolicyDependency) (detail : Bytes) : DependencyScan ω :=
  { scan with
    requiredBlocked := scan.requiredBlocked || decide (dependency.strength = .Required)
    diagnostics := scan.diagnostics ++
      [dependencyDiagnostic own scan.st.world dependency.policy dependency.strength detail] }

/-- The loop over the sorted dependencies; `execute` is the recursive call. -/
def executeDependencies (own : OwnBehaviour ω) (excludedModules : List Bytes)
    (execute : PolicyRef → PlannerState ω → Option (PolicyApplyResult × PlannerState ω))
    (policy : Policy) : List PolicyDependency → DependencyScan ω → Option (DependencyScan ω)
  | [], scan => some scan
  | dependency :: dependencies, scan =>
    if !dependencyConditionMatches policy dependency.condition then
      executeDependencies own excludedModules execute policy dependencies scan
    else if excludedModules.contains dependency.policy.moduleName then
      executeDependencies own excludedModules execute policy dependencies
        (scan.block own dependency
          (lit "dependency belongs to explicitly excluded module " ++
            dependency.policy.moduleName))
    else
      match execute dependency.policy scan.st with
      | none => none
      | some (result, st) =>
        let scan := { scan with st := st }
        executeDependencies own excludedModules execute policy dependencies
          (if result.status ≠ .Applied then
            scan.block own dependency
              (lit "dependency status=" ++ policyApplyStatusToString result.status)
          else scan)

def sortedDependencies (policy : Policy) : List PolicyDependency :=
  policy.dependencies.insertionSort fun left right => left.policy ≤ right.policy

/-- The policy after its dependencies: blocked, or executed itself. -/
def finishPolicy (own : OwnBehaviour ω) (ref : PolicyRef) (scan : DependencyScan ω) :
    PolicyApplyResult × PlannerState ω :=
  let st := { scan.st with visiting := scan.st.visiting.erase ref }
  if scan.requiredBlocked then
    st.record ref
      { resultFor ref .Failed (lit "Required dependency was not applied") with
        diagnostics := scan.diagnostics
        ownApplyAttempted := false
        failureOrigin := .RequiredDependencyBlocked }
  else
    let (result, world) := executeOwnPolicy own ref st.world
    let attempt : OwnAttempt := { ref := ref, before := st.summary.results }
    let st := { st with world := world, attempts := st.attempts ++ [attempt] }
    st.record ref { result with diagnostics := scan.diagnostics ++ result.diagnostics }

def executePolicy (registry : PolicyRegistry) (own : OwnBehaviour ω)
    (excludedModules : List Bytes) :
    Nat → PolicyRef → PlannerState ω → Option (PolicyApplyResult × PlannerState ω)
  | 0, _, _ => none
  | fuel + 1, ref, st =>
    match st.results.lookup ref with
    | some cached => some (cached, st)
    | none =>
      match registry.findPolicy ref with
      | none =>
        some (st.record ref (resultFor ref .NotFound (lit "Политика не существует")))
      | some policy =>
        if !policy.enabled then
          some (st.record ref (resultFor ref .Disabled
            (lit "Политика отключена. Применение не будет выполнено.")))
        else if st.visiting.contains ref then
          some (st.record ref
            { resultFor ref .Failed (lit "Policy dependency cycle reached during execution") with
              diagnostics :=
                [{ timestamp := own.currentTime st.world
                   level := levelToString .ERROR
                   category := lit "daemon"
                   message := lit "Policy dependency cycle reached during execution at " ++
                     formatPolicyRef ref }]
              ownApplyAttempted := false
              failureOrigin := .DependencyCycle })
        else
          match executeDependencies own excludedModules
              (executePolicy registry own excludedModules fuel) policy
              (sortedDependencies policy)
              { st := { st with visiting := ref :: st.visiting } } with
          | none => none
          | some scan => some (finishPolicy own ref scan)

structure PolicyExecutionRequest where
  requestedRoots : List PolicyRef
  excludedModules : List Bytes := []
  deriving DecidableEq, Repr

/-- The set of requested roots, in its order. -/
def PolicyExecutionRequest.roots (request : PolicyExecutionRequest) : List PolicyRef :=
  request.requestedRoots.dedup.insertionSort (· ≤ ·)

def executeRoots (registry : PolicyRegistry) (own : OwnBehaviour ω)
    (excludedModules : List Bytes) (fuel : Nat) :
    List PolicyRef → PlannerState ω → Option (PlannerState ω)
  | [], st => some st
  | root :: roots, st =>
    match executePolicy registry own excludedModules fuel root st with
    | none => none
    | some (_, st) => executeRoots registry own excludedModules fuel roots st

/-- `execute` with the state the planner ends in; its summary is the value
returned.  The recursion is at most as deep as the registry is large. -/
def execute (registry : PolicyRegistry) (own : OwnBehaviour ω)
    (request : PolicyExecutionRequest) (world : ω) : Option (PlannerState ω) :=
  executeRoots registry own request.excludedModules (registry.policies.length + 1)
    request.roots
    { world := world, summary := { requestedRoots := request.roots } }

end

end Fic.Execution
