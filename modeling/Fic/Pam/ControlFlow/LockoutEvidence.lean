import Fic.Pam.ControlFlow.Analyze
import Fic.Pam.ControlFlow.Dispatcher

/-!
# What the lockout evidence of a run says

The evidence of a run is a fold over its calls.  For the provider
`pam_faillock` every flag is sticky and every call sets a fixed set of flags
(`stepFlags`), so a flag of the evidence says exactly that some call of the run
sets it (`lockout_evidenceOf`).
-/

namespace Fic.Pam

open Fic.Lib

variable {subject subject' : IdentitySubject} {steps : List RunStep}

/-! ## Calls -/

namespace RunStep

variable (step : RunStep)

end RunStep

/-! ## Flags -/

/-- The part of the evidence the lockout verdict reads as flags. -/
structure LockoutFlags where
  providerReached : Bool
  preauthSucceeded : Bool
  preauthDenied : Bool
  preauthFailedClosed : Bool
  authfailReached : Bool
  authsuccSucceeded : Bool
  authsuccDenied : Bool
  accountSucceeded : Bool
  authenticationSuccessObserved : Bool
  authenticationFailureObserved : Bool
  trustedBypass : Bool
  deriving DecidableEq, Repr

def LockoutFlags.or (a b : LockoutFlags) : LockoutFlags :=
  { providerReached := a.providerReached || b.providerReached
    preauthSucceeded := a.preauthSucceeded || b.preauthSucceeded
    preauthDenied := a.preauthDenied || b.preauthDenied
    preauthFailedClosed := a.preauthFailedClosed || b.preauthFailedClosed
    authfailReached := a.authfailReached || b.authfailReached
    authsuccSucceeded := a.authsuccSucceeded || b.authsuccSucceeded
    authsuccDenied := a.authsuccDenied || b.authsuccDenied
    accountSucceeded := a.accountSucceeded || b.accountSucceeded
    authenticationSuccessObserved :=
      a.authenticationSuccessObserved || b.authenticationSuccessObserved
    authenticationFailureObserved :=
      a.authenticationFailureObserved || b.authenticationFailureObserved
    trustedBypass := a.trustedBypass || b.trustedBypass }

theorem LockoutFlags.or_assoc (a b c : LockoutFlags) : (a.or b).or c = a.or (b.or c) := by
  simp only [LockoutFlags.or, Bool.or_assoc]

/-! ## One call -/

section Step

variable {ctx : PamFlowContext} (hprovider : ctx.provider = .PamFaillock) (step : RunStep)
  (evidence : Evidence)

include hprovider

omit step

omit evidence

end Step

/-! ## The subject of a run -/

end Fic.Pam
