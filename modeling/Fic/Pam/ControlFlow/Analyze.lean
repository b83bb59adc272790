import Fic.Pam.ControlFlow.Execute

/-!
# The verdict on a service

`PamControlFlowAnalyzer::analyze`: the symbolic states of the effective stacks
of a service are judged one by one; a state on a path that the provider does
not protect adds a violation, and the service is effective if there is none.

The stacks and the option files are read from the file system by other
components; they are the fields of `PamServiceFiles`.  A failed analysis keeps
what it has found so far, so an error carries the analysis with it.
-/

namespace Fic.Pam

open Fic.Lib

/-! ## Violations -/

mutual

/-- The entry, or an entry of its substack, is a `pam_faillock` rule in this
role; an account rule has no role argument. -/
def entryHasFaillockRole (role : Bytes) (group : PamManagementGroup) : PamStackEntry → Bool
  | .mk rule substack =>
    if rule.includeKind = .Substack then stackHasFaillockRole role group substack
    else if rule.group ≠ group ∨ moduleBaseName rule ≠ lit "pam_faillock.so" then false
    else decide (group = .Account) || hasArgument rule role

def stackHasFaillockRole (role : Bytes) (group : PamManagementGroup) :
    List PamStackEntry → Bool
  | [] => false
  | entry :: entries =>
    entryHasFaillockRole role group entry || stackHasFaillockRole role group entries

end

section Judge

variable (files : PamServiceFiles) (ctx : PamFlowContext) (stack : PamEffectiveStack)
  (authsuccTopology : Bool)

end Judge

end Fic.Pam
