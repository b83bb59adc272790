import Fic.Lib.Decimal

/-!
# PAM rules, controls and module outcomes

The static side of `PamControlFlowAnalyzer.cpp`: the rules of an effective
stack, the parser of their control field, and the tables of what a module can
return and what role it plays.

Return codes are an enumeration; `PamReturnCode.name` gives the words the
control syntax uses for them.
-/

namespace Fic.Pam

open Fic.Lib

/-! ## Rules and stacks -/

inductive PamManagementGroup
  | Auth
  | Account
  | Password
  | Session
  deriving DecidableEq, Repr

inductive PamIncludeKind
  | None
  | Include
  | Substack
  | IncludeAll
  deriving DecidableEq, Repr

structure PamRule where
  source : Bytes := []
  line : Nat := 0
  group : PamManagementGroup := .Auth
  control : Bytes := []
  module : Bytes := []
  arguments : List Bytes := []
  includeKind : PamIncludeKind := .None
  includeTarget : Bytes := []
  deriving DecidableEq, Repr

/-- An entry of an effective stack; a substack owns its expanded entries. -/
inductive PamStackEntry
  | mk (rule : PamRule) (substack : List PamStackEntry)

def PamStackEntry.rule : PamStackEntry → PamRule
  | .mk rule _ => rule

def PamStackEntry.substack : PamStackEntry → List PamStackEntry
  | .mk _ substack => substack

def PamStackEntry.isSubstack (entry : PamStackEntry) : Bool :=
  entry.rule.includeKind = .Substack

structure PamEffectiveStack where
  service : Bytes
  group : PamManagementGroup := .Auth
  entries : List PamStackEntry
  sourceFiles : Finset Bytes := ∅

/-- The file name of the module's path. -/
def moduleBaseName (rule : PamRule) : Bytes :=
  rule.module.rtakeWhile (· ≠ '/'.toUInt8)

def hasArgument (rule : PamRule) (argument : Bytes) : Bool :=
  rule.arguments.contains argument

/-! ## Providers and the platform configuration -/

/-- The providers that have a PAM module descriptor. -/
inductive PamProviderKind
  | PamFaillock
  | PamTally2
  | PamTally
  | PamPwquality
  | PamPasswdqc
  | PamCracklib
  | PamPwhistory
  | PamUnixHistory
  deriving DecidableEq, Repr

def pamProviderModuleName : PamProviderKind → Bytes
  | .PamFaillock => lit "pam_faillock.so"
  | .PamTally2 => lit "pam_tally2.so"
  | .PamTally => lit "pam_tally.so"
  | .PamPwquality => lit "pam_pwquality.so"
  | .PamPasswdqc => lit "pam_passwdqc.so"
  | .PamCracklib => lit "pam_cracklib.so"
  | .PamPwhistory => lit "pam_pwhistory.so"
  | .PamUnixHistory => lit "pam_unix.so"

inductive PamCapability
  | AuthenticationLockout
  | PasswordQuality
  | PasswordHistory
  | IncidentAccessGate
  deriving DecidableEq, Repr

inductive PamIdentitySubjectScope
  | AllPamSubjects
  | LocalUsersOnly
  deriving DecidableEq, Repr

structure PamCapabilityConfig where
  capability : PamCapability := .AuthenticationLockout
  provider : PamProviderKind := .PamFaillock
  configPath : Bytes := []
  subjectScope : PamIdentitySubjectScope := .AllPamSubjects
  deriving DecidableEq, Repr

inductive PamTrustedAuthenticationBypassReason
  | AlreadyPrivilegedCaller
  | ExplicitPasswordlessLogin
  deriving DecidableEq, Repr

structure PamTrustedAuthenticationBypassRule where
  service : Bytes
  module : Bytes
  reason : PamTrustedAuthenticationBypassReason := .AlreadyPrivilegedCaller
  control : Bytes := []
  arguments : List Bytes := []
  source : Option Bytes := none
  deriving DecidableEq, Repr

inductive PamTrustedAuthenticationExclusionReason
  | ExplicitSubjectExclusion
  deriving DecidableEq, Repr

structure PamTrustedAuthenticationExclusionRule where
  service : Bytes
  module : Bytes
  reason : PamTrustedAuthenticationExclusionReason := .ExplicitSubjectExclusion
  excludedUser : Bytes := []
  control : Bytes := []
  arguments : List Bytes := []
  source : Option Bytes := none
  enforcedControl : Bytes := []
  deriving DecidableEq, Repr

structure PamPlatformConfig where
  capabilities : List PamCapabilityConfig := []
  trustedAuthenticationBypasses : List PamTrustedAuthenticationBypassRule := []
  trustedAuthenticationExclusions : List PamTrustedAuthenticationExclusionRule := []
  deriving DecidableEq, Repr

/-- What every function of the analysis is called with.  Path normalisation is
the file system library's. -/
structure PamFlowContext where
  provider : PamProviderKind
  service : Bytes
  platformConfig : PamPlatformConfig := {}
  lexicallyNormal : Bytes → Bytes := id

def matchingTrustedAuthenticationExclusion (ctx : PamFlowContext) (rule : PamRule) :
    Option PamTrustedAuthenticationExclusionRule :=
  ctx.platformConfig.trustedAuthenticationExclusions.find? fun candidate =>
    let controlMatches :=
      candidate.control = rule.control ||
        (!candidate.enforcedControl.isEmpty && candidate.enforcedControl = rule.control)
    candidate.service = ctx.service && candidate.module = moduleBaseName rule &&
      controlMatches && candidate.arguments = rule.arguments &&
      candidate.source.all fun source =>
        ctx.lexicallyNormal source = ctx.lexicallyNormal rule.source

/-! ## Return codes -/

inductive PamReturnCode
  | success | open_err | symbol_err | service_err | system_err | buf_err | perm_denied
  | auth_err | cred_insufficient | authinfo_unavail | user_unknown | maxtries
  | new_authtok_reqd | acct_expired | session_err | cred_unavail | cred_expired | cred_err
  | no_module_data | conv_err | authtok_err | authtok_recover_err | authtok_lock_busy
  | authtok_disable_aging | try_again | ignore | abort | authtok_expired | module_unknown
  | bad_item | conv_again | incomplete
  deriving DecidableEq, Repr

def PamReturnCode.name : PamReturnCode → Bytes
  | .success => lit "success"
  | .open_err => lit "open_err"
  | .symbol_err => lit "symbol_err"
  | .service_err => lit "service_err"
  | .system_err => lit "system_err"
  | .buf_err => lit "buf_err"
  | .perm_denied => lit "perm_denied"
  | .auth_err => lit "auth_err"
  | .cred_insufficient => lit "cred_insufficient"
  | .authinfo_unavail => lit "authinfo_unavail"
  | .user_unknown => lit "user_unknown"
  | .maxtries => lit "maxtries"
  | .new_authtok_reqd => lit "new_authtok_reqd"
  | .acct_expired => lit "acct_expired"
  | .session_err => lit "session_err"
  | .cred_unavail => lit "cred_unavail"
  | .cred_expired => lit "cred_expired"
  | .cred_err => lit "cred_err"
  | .no_module_data => lit "no_module_data"
  | .conv_err => lit "conv_err"
  | .authtok_err => lit "authtok_err"
  | .authtok_recover_err => lit "authtok_recover_err"
  | .authtok_lock_busy => lit "authtok_lock_busy"
  | .authtok_disable_aging => lit "authtok_disable_aging"
  | .try_again => lit "try_again"
  | .ignore => lit "ignore"
  | .abort => lit "abort"
  | .authtok_expired => lit "authtok_expired"
  | .module_unknown => lit "module_unknown"
  | .bad_item => lit "bad_item"
  | .conv_again => lit "conv_again"
  | .incomplete => lit "incomplete"

def allReturnCodes : List PamReturnCode :=
  [.success, .open_err, .symbol_err, .service_err, .system_err, .buf_err, .perm_denied,
    .auth_err, .cred_insufficient, .authinfo_unavail, .user_unknown, .maxtries,
    .new_authtok_reqd, .acct_expired, .session_err, .cred_unavail, .cred_expired, .cred_err,
    .no_module_data, .conv_err, .authtok_err, .authtok_recover_err, .authtok_lock_busy,
    .authtok_disable_aging, .try_again, .ignore, .abort, .authtok_expired, .module_unknown,
    .bad_item, .conv_again, .incomplete]

/-! ## Control fields -/

def kMaximumSymbolicStates : Nat := 8192

inductive ControlAction
  | Ignore
  | Bad
  | Die
  | Ok
  | Done
  | Reset
  | Jump (count : Nat)
  deriving DecidableEq, Repr

structure ParsedControl where
  actions : List (PamReturnCode × ControlAction)
  defaultAction : ControlAction
  deriving DecidableEq, Repr

def ParsedControl.actionFor (control : ParsedControl) (result : PamReturnCode) :
    ControlAction :=
  (control.actions.lookup result).getD control.defaultAction

def lowerCopy (value : Bytes) : Bytes := value.map lowerAscii

def parseAction (token : Bytes) : Option ControlAction :=
  let action := lowerCopy token
  if action = lit "ignore" then some .Ignore
  else if action = lit "bad" then some .Bad
  else if action = lit "die" then some .Die
  else if action = lit "ok" then some .Ok
  else if action = lit "done" then some .Done
  else if action = lit "reset" then some .Reset
  else if action.isEmpty || !action.all isDigit then none
  else
    let parsed := ofDecimal action
    if parsed = 0 then some .Ignore
    else if parsed > kMaximumSymbolicStates then none -- also where `std::stoul` would throw
    else some (.Jump parsed)

/-- The control of the historical one-word syntax. -/
def simpleControl (success failure : ControlAction) : ParsedControl :=
  { actions := [(.success, success), (.new_authtok_reqd, success)]
    defaultAction := failure }

/-- Where an error is reported: file and line of the rule. -/
def ruleLocation (rule : PamRule) : Bytes :=
  rule.source ++ lit ":" ++ toDecimal rule.line

/-- The words a stream extracts. -/
def words (text : Bytes) : List Bytes :=
  (text.splitOnP isSpace).filter (· ≠ [])

/-- One assignment of the bracket syntax; `assigned` are the results set so
far. -/
def parseAssignment (rule : PamRule) (assigned : List Bytes) (parsed : ParsedControl)
    (assignment : Bytes) : Except Bytes (List Bytes × ParsedControl) :=
  let result := assignment.takeWhile (· ≠ '='.toUInt8)
  let actionText := assignment.drop (result.length + 1)
  if !assignment.contains '='.toUInt8 || result.isEmpty || actionText.isEmpty then
    .error (ruleLocation rule ++ lit ": malformed extended PAM control: " ++ rule.control)
  else
    let code := allReturnCodes.find? fun code => code.name = result
    if (result ≠ lit "default" ∧ code.isNone) ∨ assigned.contains result then
      .error (ruleLocation rule ++
        lit ": unsupported or duplicate PAM result in control: " ++ result)
    else
      match parseAction actionText with
      | none =>
        .error (ruleLocation rule ++ lit ": unsupported PAM action in control: " ++ actionText)
      | some action =>
        match code with
        | none => .ok (result :: assigned, { parsed with defaultAction := action })
        | some code =>
          .ok (result :: assigned, { parsed with actions := parsed.actions ++ [(code, action)] })

def parseAssignments (rule : PamRule) :
    List Bytes → List Bytes → ParsedControl → Except Bytes (List Bytes × ParsedControl)
  | [], assigned, parsed => .ok (assigned, parsed)
  | assignment :: assignments, assigned, parsed => do
    let (assigned, parsed) ← parseAssignment rule assigned parsed assignment
    parseAssignments rule assignments assigned parsed

def parseControl (rule : PamRule) : Except Bytes ParsedControl :=
  let control := lowerCopy rule.control
  if control = lit "required" then .ok (simpleControl .Ok .Bad)
  else if control = lit "requisite" then .ok (simpleControl .Ok .Die)
  else if control = lit "sufficient" then .ok (simpleControl .Done .Ignore)
  else if control = lit "optional" then .ok (simpleControl .Ok .Ignore)
  else if control.length < 2 ∨ control.head? ≠ some '['.toUInt8 ∨
      control.getLast? ≠ some ']'.toUInt8 then
    .error (ruleLocation rule ++ lit ": unsupported PAM control: " ++ rule.control)
  else do
    let (assigned, parsed) ← parseAssignments rule (words control.tail.dropLast) []
      { actions := [], defaultAction := .Bad }
    if assigned.isEmpty then .error (ruleLocation rule ++ lit ": empty extended PAM control")
    else .ok parsed

/-! ## What modules return -/

def moduleOutcomes (ctx : PamFlowContext) (rule : PamRule) : List PamReturnCode :=
  let module := moduleBaseName rule
  if module = lit "pam_permit.so" then [.success]
  else if module = lit "pam_deny.so" then
    if rule.group = .Password then [.authtok_err] else [.auth_err]
  else if module = lit "pam_rootok.so" then [.success, .auth_err]
  else if module = lit "pam_succeed_if.so" then
    if (matchingTrustedAuthenticationExclusion ctx rule).isSome then [.success, .auth_err]
    else [.success, .auth_err, .service_err]
  else if module = lit "pam_localuser.so" then
    [.success, .perm_denied, .user_unknown, .service_err, .system_err]
  else if module = lit "pam_faillock.so" then
    [.success, .auth_err, .buf_err, .conv_err, .incomplete, .ignore]
  else if module = lit "pam_pwquality.so" then
    [.success, .authtok_err, .authtok_recover_err, .authtok_lock_busy, .user_unknown,
      .maxtries, .try_again, .incomplete]
  else if module = lit "pam_passwdqc.so" then
    [.success, .authtok_err, .authtok_recover_err, .authtok_lock_busy, .user_unknown,
      .maxtries]
  else if module = lit "pam_pwhistory.so" then
    [.success, .system_err, .authtok_err, .authtok_recover_err, .authtok_lock_busy,
      .user_unknown, .maxtries, .try_again, .incomplete, .ignore]
  else if module = lit "pam_tcb.so" ∧ rule.group = .Auth then
    [.success, .abort, .system_err, .buf_err, .conv_err, .incomplete, .user_unknown,
      .auth_err, .authtok_err, .authinfo_unavail]
  else if module = lit "pam_tcb.so" ∧ rule.group = .Account then
    [.success, .abort, .user_unknown, .authinfo_unavail, .cred_insufficient, .acct_expired,
      .new_authtok_reqd]
  else if module = lit "pam_gnome_keyring.so" ∧ rule.group = .Auth then
    [.success, .service_err, .authtok_recover_err, .system_err, .buf_err, .bad_item]
  else if module = lit "pam_unix.so" then
    if rule.group = .Password then
      [.success, .authtok_err, .authtok_recover_err, .authtok_lock_busy,
        .authtok_disable_aging, .user_unknown, .maxtries, .try_again, .incomplete]
    else
      [.success, .auth_err, .user_unknown, .maxtries, .authinfo_unavail, .cred_insufficient,
        .incomplete]
  else allReturnCodes -- unknown modules may return anything

def authenticationFailureResult (result : PamReturnCode) : Bool :=
  [.auth_err, .cred_insufficient, .authinfo_unavail, .user_unknown, .maxtries].contains result

inductive PamModuleRole
  | CredentialAuthenticator
  | CredentialCollector
  | Auxiliary
  | Gate
  | Enforcement
  | TrustedAuthenticator
  | Unknown
  deriving DecidableEq, Repr

def credentialAuthenticators : List Bytes :=
  [lit "pam_ccreds.so", lit "pam_krb5.so", lit "pam_ldap.so", lit "pam_pkcs11.so",
    lit "pam_sss.so", lit "pam_tcb.so", lit "pam_unix.so", lit "pam_winbind.so"]

def gates : List Bytes :=
  [lit "pam_access.so", lit "pam_deny.so", lit "pam_env.so", lit "pam_faildelay.so",
    lit "pam_localuser.so", lit "pam_nologin.so", lit "pam_securetty.so",
    lit "pam_sepermit.so", lit "pam_shells.so", lit "pam_succeed_if.so", lit "pam_time.so",
    lit "pam_wheel.so"]

def moduleRole (module : Bytes) : PamModuleRole :=
  if credentialAuthenticators.contains module then .CredentialAuthenticator
  else if module = lit "pam_userpass.so" then .CredentialCollector
  else if gates.contains module then .Gate
  else if module = lit "pam_gnome_keyring.so" then .Auxiliary
  else if module = lit "pam_faillock.so" then .Enforcement
  else if module = lit "pam_rootok.so" then .TrustedAuthenticator
  else .Unknown

end Fic.Pam
