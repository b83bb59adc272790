import Fic.Journal.Validate.Payload

/-!
# Validators of graphical records

The record validators for scope checkpoints, display-manager blocks and
desktop settings.
-/

namespace Fic.Journal

open Fic.Lib

/-! ## Scope checkpoints -/

/-- Strictly sorted, so sorted and without neighbours that are equal. -/
def isStrictlySorted {α : Type} [LT α] [DecidableLT α] : List α → Bool
  | a :: b :: rest => decide (a < b) && isStrictlySorted (b :: rest)
  | _ => true

def desktopScopes : List Bytes :=
  [lit "FLY", lit "GNOME", lit "KDE", lit "XFCE", lit "LXQT"]

def displayManagerScopes : List Bytes := [lit "SDDM", lit "GDM", lit "LIGHTDM"]

def validScope (scope : List Bytes) : Bool :=
  isStrictlySorted scope && scope.all (desktopScopes ++ displayManagerScopes).contains

def scopePhases : List Bytes :=
  [lit "pending", lit "failed", lit "partial", lit "committed"]

def validScopeCheckpoint (checkpoint : ScopeTransitionCheckpoint) : Except Bytes Unit :=
  rejectIf
    (!validScope checkpoint.committedScope || !validScope checkpoint.targetScope ||
      !scopePhases.contains checkpoint.phase ||
      (checkpoint.phase = lit "committed" && checkpoint.targetScope.isEmpty))
    (lit "invalid canonical graphical scope checkpoint")

def scopePolicy (dm : Bool) : PolicyRef :=
  { moduleName := lit "OSS"
    submoduleName := if dm then lit "DisplayManager" else lit "DesktopEnvironment"
    policyName :=
      if dm then lit "controlled_display_managers" else lit "controlled_desktop_environments" }

def validScopeRecord (record : MutationRecord) : Except Bytes Unit :=
  let dm := decide (record.resource = lit "scope/dm")
  let known := if dm then displayManagerScopes else desktopScopes
  let invalid (error : Bytes) : Except Bytes Unit :=
    .error (lit "invalid graphical scope checkpoint identity or payload: " ++ error)
  match record.undo.payload with
  | .ScopeCheckpoint checkpoint =>
    if record.undo.backend ≠ .Scope ∨ record.policy ≠ scopePolicy dm ∨
        record.resource ≠ (if dm then lit "scope/dm" else lit "scope/de") then
      invalid []
    else
      match validScopeCheckpoint checkpoint with
      | .error error => invalid error
      | .ok () =>
        if checkpoint.committedScope.all known.contains &&
            checkpoint.targetScope.all known.contains &&
            !(record.status = .Applied && checkpoint.phase ≠ lit "committed") then
          .ok ()
        else invalid []
  | _ => invalid []

/-! ## Display managers -/

def isPrintable (c : UInt8) : Bool := 32 ≤ c && c < 127

def validSeat (seat : Bytes) : Bool :=
  (seat = lit "SeatDefaults" || lit "Seat:" <+: seat) && seat.length ≤ 128 &&
    !hasAny (crLf ++ lit "[]" ++ [0]) seat && seat.all isPrintable

def validSeats (manager : Bytes) (seats : List Bytes) : Bool :=
  if manager = lit "LIGHTDM" then
    !seats.isEmpty && seats.length ≤ 128 && seats.contains (lit "Seat:*") &&
      isStrictlySorted seats
  else seats.isEmpty

def autologinPolicy : PolicyRef :=
  { moduleName := lit "OSS"
    submoduleName := lit "DisplayManager"
    policyName := lit "disable_autologin" }

def validDmRecord (record : MutationRecord) : Except Bytes Unit :=
  let invalid : Except Bytes Unit :=
    .error (lit "invalid DM block ownership identity/lifecycle")
  match record.undo.payload with
  | .RemoveDisplayManagerBlock p => do
    rejectIf
      (record.undo.backend ≠ .DisplayManager || record.policy ≠ autologinPolicy ||
        !displayManagerScopes.contains p.manager ||
        record.resource ≠ lit "DM/" ++ p.manager ++ lit "/autologin" || p.route ≠ 0 ||
        (p.phase ≠ lit "ensure" && p.phase ≠ lit "release") ||
        (p.separator ≠ [] && p.separator ≠ [lf]) ||
        (p.createdFile && !p.separator.isEmpty) ||
        (!p.createdFile && (p.creationDevice ≠ 0 || p.creationInode ≠ 0)) ||
        (record.status = .Applied && p.createdFile && p.creationInode = 0) ||
        !validSeats p.manager p.seats ||
        (record.status = .Applied && (!p.hadApplied || p.phase ≠ lit "ensure")))
      (lit "invalid DM block ownership identity/lifecycle")
    rejectIf (!p.seats.all validSeat) (lit "invalid DM seat route")
  | _ => invalid

/-! ## Desktops -/

def screenlockPolicy : PolicyRef :=
  { moduleName := lit "OSS"
    submoduleName := lit "DesktopEnvironment"
    policyName := lit "screenlock_timeout" }

def desktopArtifactKinds : List Bytes :=
  [lit "dconf-directory", lit "database-directory", lit "profile-directory",
    lit "source-directory", lit "locks-directory", lit "keyfile", lit "lockfile",
    lit "profile", lit "profile-entry", lit "session-group", lit "screensaver-group",
    lit "lockdown-group", lit "cache"]

def validDesktopArtifact (record : MutationRecord) (artifact : UndoOwnDesktopArtifact) :
    Except Bytes Unit :=
  let directory := (Bytes.find (lit "-directory") artifact.kind).isSome
  rejectIf
    (record.undo.backend ≠ .Desktop || record.policy ≠ screenlockPolicy ||
      !desktopArtifactKinds.contains artifact.kind ||
      record.resource ≠ lit "GNOME/artifact/" ++ artifact.kind ||
      (artifact.phase ≠ lit "ensure" && artifact.phase ≠ lit "release") ||
      (!directory && (artifact.device ≠ 0 || artifact.inode ≠ 0)) ||
      (directory && artifact.hadApplied && artifact.inode = 0) ||
      (record.status = .Applied && (!artifact.hadApplied || artifact.phase ≠ lit "ensure")))
    (lit "invalid GNOME artifact creation identity/lifecycle")

def gnomeBooleans : List Bytes :=
  [lit "/org/gnome/desktop/screensaver/lock-enabled",
    lit "/org/gnome/desktop/lockdown/disable-lock-screen"]

def gnomeIntegers : List Bytes :=
  [lit "/org/gnome/desktop/session/idle-delay",
    lit "/org/gnome/desktop/screensaver/lock-delay"]

/-- The setting belongs to FLY, or to GNOME. -/
def isFlyScalar (scalar : UndoRestoreDesktopScalar) : Bool :=
  scalar.desktop = lit "FLY" && scalar.setting = lit "themerc/Variables/ScreenSaverDelay"

def isGnomeScalar (scalar : UndoRestoreDesktopScalar) : Bool :=
  scalar.desktop = lit "GNOME" &&
    (gnomeBooleans.contains scalar.setting || gnomeIntegers.contains scalar.setting)

/-- Drops one byte from the end of a line. -/
def popBack (b : UInt8) (line : Bytes) : Bytes :=
  if line.getLast? = some b then line.dropLast else line

/-- The text of one line of bounded length, without its terminator. -/
def rawLine (line : Bytes) : Option Bytes :=
  if line.length > 4096 ∨ line.contains 0 then none
  else
    let raw := popBack cr (popBack lf line)
    if hasAny crLf raw then none else some raw

def isBlank (b : UInt8) : Bool := b = ' '.toUInt8 || b = '\t'.toUInt8

/-- A foreign line that assigns the key, with blanks around it. -/
def assignsDesktopKey (key line : Bytes) : Bool :=
  match rawLine line with
  | none => false
  | some raw =>
    raw.contains '='.toUInt8 &&
      let left := raw.takeWhile (· ≠ '='.toUInt8)
      let trimmed := (left.dropWhile isBlank).rdropWhile isBlank
      !trimmed.isEmpty && trimmed = key

/-- The line FIC itself wrote for the setting. -/
def validAppliedLine (scalar : UndoRestoreDesktopScalar) (key line : Bytes) : Bool :=
  match rawLine line with
  | none => false
  | some raw =>
    let assigned := key ++ lit "="
    let value := raw.drop assigned.length
    if line ≠ raw ++ [lf] ∨ !(assigned <+: raw) then false
    else if gnomeBooleans.contains scalar.setting then
      value = lit "true" || value = lit "false"
    else if isGnomeScalar scalar && !(lit "uint32 " <+: value) then false
    else
      let number := if isGnomeScalar scalar then value.drop 7 else value
      number.length ≤ (if isFlyScalar scalar then 4 else 10) && isCanonicalDecimal number &&
        if isFlyScalar scalar then
          60 ≤ ofDecimal number && ofDecimal number ≤ 1200 && ofDecimal number % 60 = 0
        else ofDecimal number ≤ 2 ^ 32 - 1

def validLockLine (scalar : UndoRestoreDesktopScalar) : Bool :=
  if isFlyScalar scalar then scalar.originalLockLine.isNone
  else scalar.originalLockLine.all fun line => rawLine line = some scalar.setting

def validDesktopOwner (owner : PolicyRef) : Bool :=
  owner.moduleName = lit "OSS" && owner.submoduleName = lit "DesktopEnvironment" &&
    (owner.policyName = lit "screenlock_timeout" ||
      owner.policyName = lit "disable_kde_lock_screen_media_controls")

def validDesktopScalar (record : MutationRecord) (scalar : UndoRestoreDesktopScalar) :
    Except Bytes Unit :=
  let fly := isFlyScalar scalar
  let gnome := isGnomeScalar scalar
  let key := if fly then lit "ScreenSaverDelay" else scalar.setting.rtakeWhile (· ≠ '/'.toUInt8)
  rejectIf
    (record.undo.backend ≠ .Desktop || record.policy ≠ screenlockPolicy || (!fly && !gnome) ||
      record.resource ≠
        (if fly then lit "FLY/" ++ scalar.setting else lit "GNOME" ++ scalar.setting) ||
      !validLockLine scalar ||
      (fly && (!scalar.compiledBeforeDigest.isEmpty || !scalar.compiledTargetDigest.isEmpty)) ||
      (gnome && (!isCanonicalSha256Hex scalar.compiledBeforeDigest ||
        !isCanonicalSha256Hex scalar.compiledTargetDigest)) ||
      (scalar.phase ≠ lit "ensure" && scalar.phase ≠ lit "release") ||
      (scalar.phase = lit "ensure" && scalar.owners.isEmpty) ||
      (scalar.phase = lit "release" && !scalar.owners.isEmpty) ||
      !isStrictlySorted scalar.owners || !scalar.owners.all validDesktopOwner ||
      !validAppliedLine scalar key scalar.appliedLine ||
      !scalar.originalLine.all (assignsDesktopKey key) ||
      !scalar.previousAppliedLine.all (validAppliedLine scalar key) ||
      (record.status = .Applied && (!scalar.hadApplied || scalar.phase ≠ lit "ensure")))
    (lit "invalid desktop scalar identity, owners, phase or inverse delta")

def validDesktopRecord (record : MutationRecord) : Except Bytes Unit :=
  match record.undo.payload with
  | .OwnDesktopArtifact artifact => validDesktopArtifact record artifact
  | .RestoreDesktopScalar scalar => validDesktopScalar record scalar
  | _ => .error (lit "missing desktop scalar payload")

end Fic.Journal
