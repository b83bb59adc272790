import Fic.Journal.Record
import Fic.Lib.Except
import Fic.Lib.FileSystem

/-!
# The atomic file writer

`writeWithResult` writes a temporary file beside the target and then moves it
into place.  Its input is everything the system calls answer: the calls that
read answer anything, the calls that change names succeed or fail freely, within
what the kernel allows (an exclusive rename or link never replaces a name).

The theorem is about a write that fails without having installed anything.
Where `renameat2` is missing, an exclusive creation links the file to its
target and then removes the temporary name; if only the removal fails, the
target stays behind although the result says that nothing was installed.
Everywhere else the target is what it was.
-/

namespace Fic.Core

open Fic.Lib
open Fic.Journal (AtomicTargetState)

variable {name : Bytes}

/-! ## Options and results -/

inductive Errno
  | ENOENT
  | EEXIST
  | ENOSYS
  | EINVAL
  | EINTR
  | EioFault
  | Other (code : Nat)
  deriving DecidableEq, Repr

inductive FileKind
  | Regular
  | Symlink
  | Other
  deriving DecidableEq, Repr

structure AtomicTargetIdentity where
  device : UInt64 := 0
  inode : UInt64 := 0
  deriving DecidableEq, Repr

/-- What `stat` tells; the mode without the type bits. -/
structure Stat where
  kind : FileKind := .Regular
  identity : AtomicTargetIdentity := {}
  mode : UInt32 := 0
  owner : UInt32 := 0
  group : UInt32 := 0
  deriving DecidableEq, Repr

inductive FileMetadataPolicy
  | PreserveExisting
  | EnforceProvided
  deriving DecidableEq, Repr

structure AtomicWriteOptions where
  createIfMissing : Bool := false
  rejectSymlink : Bool := false
  exclusiveCreate : Bool := false
  metadataPolicy : FileMetadataPolicy := .PreserveExisting
  fileMode : Option UInt32 := none
  fileOwner : Option UInt32 := none
  fileGroup : Option UInt32 := none
  expectedTargetIdentity : Option AtomicTargetIdentity := none
  expectedTargetState : Option AtomicTargetState := none
  /-- The admission callback; `some` is the text it refuses or throws with. -/
  beforePublish : Option (AtomicTargetState → Option Bytes) := none

structure AtomicWriteResult where
  installed : Bool := false
  durabilityConfirmed : Bool := false
  preconditionFailed : Bool := false
  installedTargetState : Option AtomicTargetState := none
  deriving DecidableEq, Repr

/-! ## The kernel -/

structure FileNode where
  content : Bytes := []
  mode : UInt32 := 0
  owner : UInt32 := 0
  group : UInt32 := 0
  deriving DecidableEq, Repr

abbrev Files := FileSystem Bytes AtomicTargetIdentity FileNode

inductive ReadAnswer
  | read (chunk : Bytes)
  | failed (errno : Errno)
  deriving DecidableEq, Repr

inductive WriteAnswer
  | wrote (count : Nat)
  | failed (errno : Errno)
  deriving DecidableEq, Repr

/-- The answers to one comparison of the target with what is expected. -/
structure TargetAnswers where
  lstat : Except Errno Stat := .error .ENOENT
  opens : Bool := true
  fstat : Except Errno Stat := .error .EioFault
  reads : List ReadAnswer := []
  closes : Bool := true

/-- A resolved path with its directory. -/
structure ResolvedPath where
  directory : Bytes
  filename : Bytes
  deriving DecidableEq, Repr

/-- The answers of the system calls.  `none` is a call that succeeds. -/
structure Kernel where
  strerror : Errno → Bytes := fun _ => []
  lstat : Except Errno Stat := .error .ENOENT
  firstCheck : TargetAnswers := {}
  canonical : Except Bytes ResolvedPath := .error []
  absolute : Except Bytes ResolvedPath := .error []
  stat : Except Errno Stat := .error .ENOENT
  /-- The six bytes `mkstemp` fills in and the new file, if it is one. -/
  mkstemp : Except Errno (Bytes × AtomicTargetIdentity)
  euid : UInt32 := 0
  egid : UInt32 := 0
  /-- Of the new temporary file, whose group may be that of its directory. -/
  fstatTemp : Except Errno Stat := .ok { mode := 0o600 }
  fchown : Option Errno := none
  fchmod : Option Errno := none
  writes : List WriteAnswer := []
  fsync : Option Errno := none
  fstatPrepared : Except Errno Stat := .ok {}
  close : Option Errno := none
  secondCheck : TargetAnswers := {}
  finalCheck : TargetAnswers := {}
  rename : Option Errno := none
  renameat2 : Option Errno := none
  link : Option Errno := none
  unlink : Option Errno := none
  /-- The clean-up removes the temporary name. -/
  removes : Bool := true
  openDirectory : Option Errno := none
  fsyncDirectory : Option Errno := none

def joinPath (directory filename : Bytes) : Bytes :=
  if directory.getLast? = some '/'.toUInt8 then directory ++ filename
  else directory ++ lit "/" ++ filename

def ResolvedPath.path (p : ResolvedPath) : Bytes := joinPath p.directory p.filename

def ResolvedPath.tempPath (p : ResolvedPath) (suffix : Bytes) : Bytes :=
  joinPath p.directory (lit "." ++ p.filename ++ lit ".tmp." ++ suffix)

/-! ## The steps -/

/-- A write that is refused, with the error and the flag of the result. -/
structure Refusal where
  message : Bytes
  preconditionFailed : Bool := false
  deriving DecidableEq, Repr

def refuseIf (bad : Bool) (refusal : Refusal) : Except Refusal Unit :=
  if bad then .error refusal else .ok ()

@[simp] theorem refuseIf_eq_ok {bad : Bool} {refusal : Refusal} {done : Unit} :
    refuseIf bad refusal = .ok done ↔ bad = false := by
  cases bad <;> simp [refuseIf]

/-- The reads spell exactly the rest of the expected content. -/
def readsSpell : List ReadAnswer → Bytes → Bool
  | [], _ => false
  | .failed errno :: reads, rest => errno = .EINTR && readsSpell reads rest
  | .read [] :: _, rest => rest.isEmpty
  | .read chunk :: reads, rest => chunk.isPrefixOf rest && readsSpell reads (rest.drop chunk.length)

def matchesExpectedIdentity (answers : TargetAnswers) (options : AtomicWriteOptions) : Bool :=
  match options.expectedTargetIdentity with
  | none => true
  | some identity =>
    match answers.lstat with
    | .error _ => false
    | .ok stat => stat.kind = .Regular && stat.identity = identity

def matchesExpectedState (answers : TargetAnswers) (options : AtomicWriteOptions) : Bool :=
  match options.expectedTargetState with
  | none => true
  | some expected =>
    answers.opens &&
      match answers.fstat with
      | .error _ => false
      | .ok stat =>
        stat.kind = .Regular &&
          stat.identity = { device := expected.device, inode := expected.inode } &&
          stat.mode = expected.mode && stat.owner = expected.owner && stat.group = expected.group &&
          readsSpell answers.reads expected.content && answers.closes

def matchesExpectedTarget (answers : TargetAnswers) (options : AtomicWriteOptions) : Bool :=
  matchesExpectedIdentity answers options && matchesExpectedState answers options

/-- A missing object is an answer, any other failure is an error. -/
def presentOrMissing (answer : Except Errno Stat) (message : Errno → Bytes) :
    Except Refusal (Option Stat) :=
  match answer with
  | .ok stat => .ok (some stat)
  | .error errno => if errno = .ENOENT then .ok none else .error { message := message errno }

/-- The path the write is about: a link is followed unless links are refused. -/
def resolve (kernel : Kernel) (options : AtomicWriteOptions) : Except Bytes ResolvedPath :=
  if kernel.lstat.isOk && !options.rejectSymlink then kernel.canonical else kernel.absolute

/-- The checks in front of the temporary file. -/
def admitWrite (kernel : Kernel) (path : Bytes) (options : AtomicWriteOptions) :
    Except Refusal (ResolvedPath × Option Stat) := do
  let found ← presentOrMissing kernel.lstat fun errno =>
    lit "could not stat file " ++ path ++ lit ": " ++ kernel.strerror errno
  refuseIf (found.isNone && !options.createIfMissing)
    { message := lit "refusing to create missing file: " ++ path }
  refuseIf (found.isSome && options.exclusiveCreate)
    { message := lit "refusing to replace existing file: " ++ path }
  refuseIf (options.rejectSymlink && found.any fun stat => stat.kind = .Symlink)
    { message := lit "refusing to replace symbolic link: " ++ path }
  refuseIf (!matchesExpectedTarget kernel.firstCheck options)
    { message := lit "target state changed before atomic write: " ++ path
      preconditionFailed := true }
  let target ← (resolve kernel options).mapError fun message =>
    { message := lit "could not resolve file path " ++ path ++ lit ": " ++ message }
  refuseIf target.directory.isEmpty
    { message := lit "could not determine parent directory: " ++ path }
  let existing ← presentOrMissing kernel.stat fun errno =>
    lit "could not stat target " ++ target.path ++ lit ": " ++ kernel.strerror errno
  refuseIf (existing.isNone && !options.createIfMissing)
    { message := lit "target disappeared before write: " ++ target.path }
  refuseIf (existing.any fun stat => stat.kind ≠ .Regular)
    { message := lit "refusing to replace non-regular file: " ++ target.path }
  .ok (target, existing)

/-- Writes until everything is written; what has been written and the error. -/
def writeAll : List WriteAnswer → Bytes → Bytes × Option Errno
  | _, [] => ([], none)
  | [], _ :: _ => ([], some .EioFault)
  | .failed errno :: answers, data =>
    if errno = .EINTR then writeAll answers data else ([], some errno)
  | .wrote count :: answers, data =>
    if count = 0 then ([], some .EioFault)
    else
      let (written, error) := writeAll answers (data.drop count)
      (data.take count ++ written, error)

structure Metadata where
  owner : UInt32
  group : UInt32
  mode : UInt32
  deriving DecidableEq, Repr

variable {metadata : Metadata} {call : Option Errno}

/-- The metadata the file gets. -/
def targetMetadata (kernel : Kernel) (options : AtomicWriteOptions) (existing : Option Stat) :
    Metadata :=
  match existing with
  | none =>
    { owner := options.fileOwner.getD kernel.euid
      group := options.fileGroup.getD kernel.egid
      mode := options.fileMode.getD 0o600 }
  | some stat =>
    if options.metadataPolicy = .PreserveExisting then
      { owner := stat.owner, group := stat.group, mode := stat.mode }
    else
      { owner := options.fileOwner.getD stat.owner
        group := options.fileGroup.getD stat.group
        mode := options.fileMode.getD stat.mode }

/-- The receipt of the prepared file. -/
def preparedState (stat : Stat) (content : Bytes) : AtomicTargetState :=
  { device := stat.identity.device, inode := stat.identity.inode, content, mode := stat.mode
    owner := stat.owner, group := stat.group }

/-- A call that fails. -/
def Kernel.failure (kernel : Kernel) (what : Bytes) (errno : Errno) : Refusal :=
  { message := what ++ lit ": " ++ kernel.strerror errno }

def checkCall (kernel : Kernel) (call : Option Errno) (what : Bytes) : Except Refusal Unit :=
  match call with
  | none => .ok ()
  | some errno => .error (kernel.failure what errno)

@[simp] theorem checkCall_eq_ok {kernel : Kernel} {what : Bytes} {done : Unit} :
    checkCall kernel call what = .ok done ↔ call = none := by
  cases call <;> simp [checkCall]

/-- The temporary file before anything is done to it. -/
def createdTemp (kernel : Kernel) : FileNode :=
  match kernel.fstatTemp with
  | .ok stat => { mode := stat.mode, owner := stat.owner, group := stat.group }
  | .error _ => { mode := 0o600, owner := kernel.euid, group := kernel.egid }

/-- The call of `fchown`, which is made only where it changes something. -/
def chownTemp (kernel : Kernel) (metadata : Metadata) (stat : Stat) : Option Errno :=
  if stat.owner ≠ metadata.owner ∨ stat.group ≠ metadata.group then kernel.fchown else none

/-- The temporary file as far as it got, with what is told of it or the first failure. -/
def fillTemp (kernel : Kernel) (metadata : Metadata) (tempPath content : Bytes) :
    FileNode × Except Refusal Stat :=
  let node := createdTemp kernel
  let owned := { node with owner := metadata.owner, group := metadata.group }
  match kernel.fstatTemp with
  | .error errno =>
    (node, .error (kernel.failure (lit "could not stat temporary file " ++ tempPath) errno))
  | .ok stat =>
    match chownTemp kernel metadata stat, kernel.fchmod with
    | some errno, _ =>
      (node, .error (kernel.failure (lit "could not set owner on " ++ tempPath) errno))
    | none, some errno =>
      (owned, .error (kernel.failure (lit "could not set metadata on " ++ tempPath) errno))
    | none, none =>
      let written := writeAll kernel.writes content
      ({ owned with mode := metadata.mode, content := written.1 }, do
        checkCall kernel written.2 (lit "could not write " ++ tempPath)
        checkCall kernel kernel.fsync (lit "could not fsync " ++ tempPath)
        kernel.fstatPrepared.mapError
          (kernel.failure (lit "could not stat prepared temporary file " ++ tempPath)))

/-- The admission of the prepared file, the close and the last two looks at the
target. -/
def admitPublication (kernel : Kernel) (options : AtomicWriteOptions) (target : ResolvedPath)
    (tempPath : Bytes) (prepared : AtomicTargetState) : Except Refusal AtomicTargetState := do
  match options.beforePublish.bind fun callback => callback prepared with
  | some message => .error { message := lit "prepared publication refused: " ++ message }
  | none => .ok ()
  checkCall kernel kernel.close (lit "could not close " ++ tempPath)
  let changed : Refusal :=
    { message := lit "target state changed before atomic replacement: " ++ target.path
      preconditionFailed := true }
  refuseIf (!matchesExpectedTarget kernel.secondCheck options) changed
  refuseIf (!matchesExpectedTarget kernel.finalCheck options) changed
  .ok prepared

/-- Makes a name exclusively: it fails where something has the name. -/
def exclusively (fs : Files) (target : Bytes) (call : Option Errno) : Option Errno :=
  call.or (if (fs.entry target).isSome then some .EEXIST else none)

def installTempFile (kernel : Kernel) (fs : Files) (tempPath targetPath : Bytes)
    (exclusiveCreate : Bool) : Files × Option Errno :=
  if !exclusiveCreate then
    match kernel.rename with
    | none => (fs.rename tempPath targetPath, none)
    | some errno => (fs, some errno)
  else
    match exclusively fs targetPath kernel.renameat2 with
    | none => (fs.rename tempPath targetPath, none)
    | some errno =>
      if errno ≠ .ENOSYS ∧ errno ≠ .EINVAL then (fs, some errno)
      else
        match exclusively fs targetPath kernel.link with
        | some errno => (fs, some errno)
        | none =>
          match kernel.unlink with
          | some errno => (fs.link tempPath targetPath, some errno)
          | none => ((fs.link tempPath targetPath).unlink tempPath, none)

def fsyncParentDirectory (kernel : Kernel) (directory : Bytes) : Except Refusal Unit := do
  checkCall kernel kernel.openDirectory (lit "could not open directory " ++ directory)
  checkCall kernel kernel.fsyncDirectory (lit "could not fsync directory " ++ directory)

/-! ## The write -/

structure WriteRun where
  ok : Bool
  error : Bytes := []
  result : AtomicWriteResult := {}
  files : Files

def WriteRun.refused (files : Files) (refusal : Refusal) : WriteRun :=
  { ok := false, error := refusal.message
    result := { preconditionFailed := refusal.preconditionFailed }, files }

def cleanup (kernel : Kernel) (fs : Files) (tempPath : Bytes) : Files :=
  if kernel.removes then fs.unlink tempPath else fs

/-- From the prepared temporary file on. -/
def publish (kernel : Kernel) (options : AtomicWriteOptions) (target : ResolvedPath)
    (tempPath : Bytes) (prepared : AtomicTargetState) (fs : Files) : WriteRun :=
  match installTempFile kernel fs tempPath target.path options.exclusiveCreate with
  | (fs, some errno) =>
    .refused (cleanup kernel fs tempPath)
      { kernel.failure (lit "could not replace " ++ target.path) errno with
        preconditionFailed := options.exclusiveCreate && errno = .EEXIST }
  | (fs, none) =>
    let result : AtomicWriteResult := { installed := true, installedTargetState := some prepared }
    match fsyncParentDirectory kernel target.directory with
    | .error refusal => { ok := false, error := refusal.message, result, files := fs }
    | .ok () => { ok := true, result := { result with durabilityConfirmed := true }, files := fs }

/-- The new temporary file; a name or a file that exists is none. -/
def makeTemp (kernel : Kernel) (fs : Files) (target : ResolvedPath) :
    Except Errno (Bytes × AtomicTargetIdentity) :=
  match kernel.mkstemp with
  | .error errno => .error errno
  | .ok (suffix, identity) =>
    let tempPath := target.tempPath suffix
    if (fs.entry tempPath).isSome ∨ (fs.node identity).isSome then .error .EEXIST
    else .ok (tempPath, identity)

def writeWithResult (kernel : Kernel) (fs : Files) (path content : Bytes)
    (options : AtomicWriteOptions) : WriteRun :=
  match admitWrite kernel path options with
  | .error refusal => .refused fs refusal
  | .ok (target, existing) =>
    match makeTemp kernel fs target with
    | .error errno =>
      .refused fs (kernel.failure (lit "could not create temporary file for " ++ target.path) errno)
    | .ok (tempPath, identity) =>
      let (node, filled) :=
        fillTemp kernel (targetMetadata kernel options existing) tempPath content
      let fs := (fs.create tempPath identity (createdTemp kernel)).write identity node
      match filled >>= fun stat =>
        admitPublication kernel options target tempPath (preparedState stat content) with
      | .error refusal => .refused (cleanup kernel fs tempPath) refusal
      | .ok prepared => publish kernel options target tempPath prepared fs

/-! ## What a failed write leaves -/

/-- The path the write is about, or the requested one where it is unknown. -/
def targetPath (kernel : Kernel) (path : Bytes) (options : AtomicWriteOptions) : Bytes :=
  match resolve kernel options with
  | .ok target => target.path
  | .error _ => path

/-- A write that fails and says that nothing is installed has left the target as
it was. -/
def WriteRun.Untouched (run : WriteRun) (before : Files) (target : Bytes) : Prop :=
  run.ok = false → run.result.installed = false → FileSystem.SameAt before run.files target

/-- What the write has made sure of before it makes a temporary file. -/
structure Admitted (kernel : Kernel) (options : AtomicWriteOptions) (target : ResolvedPath) :
    Prop where
  found : kernel.lstat = .error .ENOENT ∧ options.createIfMissing = true ∨
    ∃ stat, kernel.lstat = .ok stat ∧ options.exclusiveCreate = false ∧
      (options.rejectSymlink = false ∨ stat.kind ≠ .Symlink)
  firstCheck : matchesExpectedTarget kernel.firstCheck options = true
  resolved : resolve kernel options = .ok target ∧ target.directory ≠ []
  stat : kernel.stat = .error .ENOENT ∧ options.createIfMissing = true ∨
    ∃ stat, kernel.stat = .ok stat ∧ stat.kind = .Regular

/-- What has gone well before the temporary file is moved into place. -/
structure Prepared (kernel : Kernel) (content : Bytes) (options : AtomicWriteOptions)
    (metadata : Metadata) (stat : Stat) : Prop where
  owned : ∃ stat, kernel.fstatTemp = .ok stat ∧
    (stat.owner = metadata.owner ∧ stat.group = metadata.group ∨ kernel.fchown = none)
  moded : kernel.fchmod = none
  written : (writeAll kernel.writes content).2 = none
  synced : kernel.fsync = none
  told : kernel.fstatPrepared = .ok stat
  admitted : ∀ callback ∈ options.beforePublish, callback (preparedState stat content) = none
  closed : kernel.close = none
  secondCheck : matchesExpectedTarget kernel.secondCheck options = true
  finalCheck : matchesExpectedTarget kernel.finalCheck options = true

/-- The last step leaves the link: `renameat2` is missing, and the temporary name can
not be removed. -/
structure LinkKept (kernel : Kernel) (fs : Files) (target : Bytes) (exclusiveCreate : Bool) :
    Prop where
  exclusive : exclusiveCreate = true
  unsupported : kernel.renameat2 = some .ENOSYS ∨ kernel.renameat2 = some .EINVAL
  linked : kernel.link = none ∧ fs.entry target = none
  kept : kernel.unlink ≠ none

/-- Everything goes well up to the last step, which leaves the link. -/
structure LeavesLink (kernel : Kernel) (fs : Files) (content : Bytes)
    (options : AtomicWriteOptions) (target : ResolvedPath) (suffix : Bytes)
    (identity : AtomicTargetIdentity) : Prop
    extends LinkKept kernel fs target.path options.exclusiveCreate where
  admitted : Admitted kernel options target
  temp : kernel.mkstemp = .ok (suffix, identity) ∧ fs.entry (target.tempPath suffix) = none ∧
    fs.node identity = none
  prepared : ∃ stat, Prepared kernel content options
    (targetMetadata kernel options kernel.stat.toOption) stat

section Steps

variable {kernel : Kernel} {options : AtomicWriteOptions} {target : ResolvedPath}
  {existing : Option Stat} {path content tempPath suffix : Bytes}
  {identity : AtomicTargetIdentity}

theorem presentOrMissing_eq_ok {answer : Except Errno Stat} {message : Errno → Bytes}
    {found : Option Stat} :
    presentOrMissing answer message = .ok found ↔
      found = answer.toOption ∧ ∀ errno, answer = .error errno → errno = .ENOENT := by
  cases answer with
  | ok stat => simp [presentOrMissing, Except.toOption, eq_comm]
  | error errno =>
    by_cases herrno : errno = .ENOENT <;>
      simp [presentOrMissing, Except.toOption, herrno, eq_comm]

theorem mapError_eq_ok {ε α : Type} {x : Except ε α} {f : ε → Refusal} {a : α} :
    x.mapError f = .ok a ↔ x = .ok a := by
  cases x <;> simp [Except.mapError]

theorem admitWrite_eq_ok :
    admitWrite kernel path options = .ok (target, existing) ↔
      Admitted kernel options target ∧ existing = kernel.stat.toOption := by
  unfold admitWrite
  simp only [except_bind_eq_ok, refuseIf_eq_ok, presentOrMissing_eq_ok, mapError_eq_ok,
    exists_const]
  constructor
  · rintro ⟨_, ⟨rfl, hlstat⟩, hmissing, hfree, hfollowed, hfirst, resolved, hresolved, hdirectory,
      _, ⟨rfl, hstat⟩, hcreates, hregular, h⟩
    injection h with h
    obtain ⟨rfl, rfl⟩ := Prod.mk.inj h
    refine ⟨⟨?_, by simpa using hfirst, ⟨hresolved, by simpa using hdirectory⟩, ?_⟩, rfl⟩
    · cases h : kernel.lstat with
      | error errno =>
        exact .inl ⟨congrArg _ (hlstat errno h), by simpa [h, Except.toOption] using hmissing⟩
      | ok found =>
        refine .inr ⟨found, rfl, by simpa [h, Except.toOption] using hfree, ?_⟩
        simpa [h, Except.toOption, imp_iff_not_or] using hfollowed
    · cases h : kernel.stat with
      | error errno =>
        exact .inl ⟨congrArg _ (hstat errno h), by simpa [h, Except.toOption] using hcreates⟩
      | ok found => exact .inr ⟨found, rfl, by simpa [h, Except.toOption] using hregular⟩
  · rintro ⟨⟨hfound, hfirst, ⟨hresolved, hdirectory⟩, hstat⟩, rfl⟩
    refine ⟨_, ⟨rfl, ?_⟩, ?_, ?_, ?_, by simpa using hfirst, target, hresolved,
      by simpa using hdirectory, _, ⟨rfl, ?_⟩, ?_, ?_, rfl⟩
    iterate 4
      · rcases hfound with ⟨h, _⟩ | ⟨found, h, _, hkind⟩ <;>
          simp_all [Except.toOption, imp_iff_not_or]
    iterate 3
      · rcases hstat with ⟨h, _⟩ | ⟨found, h, _⟩ <;> simp_all [Except.toOption]

theorem tempPath_ne (target : ResolvedPath) (suffix : Bytes) :
    target.path ≠ target.tempPath suffix := by
  intro heq
  have hlength := congrArg List.length heq
  unfold ResolvedPath.path ResolvedPath.tempPath joinPath at hlength
  split_ifs at hlength <;>
    simp only [List.length_append, show (lit ".").length = 1 from rfl] at hlength <;> omega

theorem chownTemp_eq_none {stat : Stat} : chownTemp kernel metadata stat = none ↔
    stat.owner = metadata.owner ∧ stat.group = metadata.group ∨ kernel.fchown = none := by
  unfold chownTemp
  split_ifs with h
  · rw [or_iff_right]
    rintro ⟨howner, hgroup⟩
    exact h.elim (fun hne => hne howner) fun hne => hne hgroup
  · rw [not_or, not_not, not_not] at h
    simp [h]

theorem filled_eq_ok {stat : Stat} :
    (fillTemp kernel metadata tempPath content).2 = .ok stat ↔
      (∃ stat, kernel.fstatTemp = .ok stat ∧
        (stat.owner = metadata.owner ∧ stat.group = metadata.group ∨ kernel.fchown = none)) ∧
      kernel.fchmod = none ∧ (writeAll kernel.writes content).2 = none ∧
      kernel.fsync = none ∧ kernel.fstatPrepared = .ok stat := by
  unfold fillTemp
  cases hstat : kernel.fstatTemp with
  | error errno => simp
  | ok created =>
    simp only [← chownTemp_eq_none, Except.ok.injEq, exists_eq_left']
    cases chownTemp kernel metadata created with
    | some errno => simp
    | none =>
      cases kernel.fchmod with
      | some errno => simp
      | none => simp [except_check_eq_ok, mapError_eq_ok]

theorem admitPublication_eq_ok {prepared state : AtomicTargetState} :
    admitPublication kernel options target tempPath prepared = .ok state ↔
      (∀ callback ∈ options.beforePublish, callback prepared = none) ∧ kernel.close = none ∧
        matchesExpectedTarget kernel.secondCheck options = true ∧
        matchesExpectedTarget kernel.finalCheck options = true ∧ prepared = state := by
  unfold admitPublication
  cases hcallback : options.beforePublish with
  | none => simp [except_check_eq_ok]
  | some callback =>
    cases hanswer : callback prepared with
    | none => simp [except_check_eq_ok, hanswer]
    | some message => simp [hanswer]

/-- The temporary file is ready to be moved exactly when everything has gone
well. -/
theorem prepared_iff {state : AtomicTargetState} :
    ((fillTemp kernel metadata tempPath content).2 >>= fun stat =>
      admitPublication kernel options target tempPath (preparedState stat content)) = .ok state ↔
      ∃ stat, Prepared kernel content options metadata stat ∧
        preparedState stat content = state := by
  simp only [except_bind_eq_ok, filled_eq_ok, admitPublication_eq_ok]
  constructor
  · rintro ⟨stat, ⟨howned, hmoded, hwritten, hsynced, htold⟩, hcallback, hclosed, hsecond, hfinal,
      hstate⟩
    exact ⟨stat, ⟨howned, hmoded, hwritten, hsynced, htold, hcallback, hclosed, hsecond, hfinal⟩,
      hstate⟩
  · rintro ⟨stat, h, hstate⟩
    exact ⟨stat, ⟨h.owned, h.moded, h.written, h.synced, h.told⟩, h.admitted, h.closed,
      h.secondCheck, h.finalCheck, hstate⟩

end Steps

section Frame

variable {kernel : Kernel} {fs before : Files} {options : AtomicWriteOptions}
  {target : ResolvedPath} {path content tempPath suffix : Bytes} {prepared : AtomicTargetState}
  {identity : AtomicTargetIdentity}

theorem cleanup_sameAt (hname : target.path ≠ tempPath)
    (h : FileSystem.SameAt before fs target.path) :
    FileSystem.SameAt before (cleanup kernel fs tempPath) target.path := by
  unfold cleanup
  split_ifs
  · exact h.unlink hname
  · exact h

theorem exclusively_eq_none :
    exclusively fs name call = none ↔ call = none ∧ fs.entry name = none := by
  cases call with
  | some errno => simp [exclusively]
  | none => cases hentry : fs.entry name <;> simp [exclusively, hentry]

/-- A link is only tried where the exclusive rename is not supported. -/
theorem exclusively_unsupported {errno : Errno} (h : exclusively fs name call = some errno)
    (hsupport : ¬(errno ≠ .ENOSYS ∧ errno ≠ .EINVAL)) :
    call = some .ENOSYS ∨ call = some .EINVAL := by
  rw [not_and_or, not_not, not_not] at hsupport
  cases call with
  | some code =>
    simp only [exclusively, Option.some_or, Option.some.injEq] at h
    rw [h]
    exact hsupport.imp (congrArg some) (congrArg some)
  | none =>
    simp only [exclusively, Option.none_or] at h
    split_ifs at h
    cases h
    rcases hsupport with h | h <;> cases h

variable {exclusiveCreate : Bool}

theorem installTempFile_failed {after : Files} {errno : Errno}
    (h : installTempFile kernel fs tempPath name exclusiveCreate = (after, some errno)) :
    after = fs ∨ LinkKept kernel fs name exclusiveCreate := by
  unfold installTempFile at h
  split_ifs at h with hexclusive
  · split at h <;> cases h
    exact .inl rfl
  · split at h
    · cases h
    · rename_i code hrename
      split_ifs at h with hsupport
      · cases h
        exact .inl rfl
      · split at h
        · cases h
          exact .inl rfl
        · rename_i hlink
          split at h
          · rename_i kept hunlink
            refine .inr ⟨by simpa using hexclusive, exclusively_unsupported hrename hsupport,
              exclusively_eq_none.mp hlink, by simp [hunlink]⟩
          · cases h

theorem installTempFile_linkKept (tempPath : Bytes)
    (h : LinkKept kernel fs name exclusiveCreate) :
    ∃ errno, installTempFile kernel fs tempPath name exclusiveCreate =
      (fs.link tempPath name, some errno) := by
  obtain ⟨errno, hunlink⟩ := Option.ne_none_iff_exists'.mp h.kept
  refine ⟨errno, ?_⟩
  rcases h.unsupported with hrename | hrename <;>
    simp [installTempFile, h.exclusive, exclusively, hrename, h.linked.1, h.linked.2, hunlink]

theorem makeTemp_eq_ok :
    makeTemp kernel fs target = .ok (tempPath, identity) ↔
      ∃ suffix, kernel.mkstemp = .ok (suffix, identity) ∧ tempPath = target.tempPath suffix ∧
        fs.entry tempPath = none ∧ fs.node identity = none := by
  unfold makeTemp
  constructor
  · intro h
    split at h
    · cases h
    · rename_i suffix made hmkstemp
      dsimp only at h
      split_ifs at h with hnew
      injection h with h
      obtain ⟨rfl, rfl⟩ := Prod.mk.inj h
      rw [not_or, Option.not_isSome_iff_eq_none, Option.not_isSome_iff_eq_none] at hnew
      exact ⟨suffix, hmkstemp, rfl, hnew⟩
  · rintro ⟨suffix, hmkstemp, rfl, hentry, hnode⟩
    simp [hmkstemp, hentry, hnode]

/-- The link that stays is a target that was not there. -/
theorem publish_linkKept (hname : target.path ≠ tempPath)
    (hbefore : before.entry target.path = none)
    (htemp : fs.entry tempPath = some identity)
    (hlink : LinkKept kernel fs target.path options.exclusiveCreate) :
    ¬(publish kernel options target tempPath prepared fs).Untouched before target.path := by
  intro huntouched
  obtain ⟨errno, hinstall⟩ := installTempFile_linkKept tempPath hlink
  have hentry := (huntouched (by simp [publish, hinstall, WriteRun.refused])
    (by simp [publish, hinstall, WriteRun.refused])).entry
  have hstays : (cleanup kernel (fs.link tempPath target.path) tempPath).entry target.path =
      some identity := by
    unfold cleanup
    split_ifs <;> simp [FileSystem.unlink, FileSystem.link, hname, htemp]
  rw [hbefore] at hentry
  simp only [publish, hinstall, WriteRun.refused] at hentry
  rw [hstays] at hentry
  cases hentry

end Frame

/-- A write is refused, with the target as it was or with a link that stays, or it
installs what it has prepared. -/
inductive WriteRun.Ends (kernel : Kernel) (before : Files) (content target : Bytes)
    (options : AtomicWriteOptions) : WriteRun → Prop
  | refused {files : Files} {refusal : Refusal} (h : FileSystem.SameAt before files target) :
      Ends kernel before content target options (.refused files refusal)
  | left {files : Files} {refusal : Refusal} {resolved : ResolvedPath} {suffix : Bytes}
      {identity : AtomicTargetIdentity}
      (h : LeavesLink kernel before content options resolved suffix identity) :
      Ends kernel before content target options (.refused files refusal)
  | installed {run : WriteRun} {stat : Stat} (htold : kernel.fstatPrepared = .ok stat)
      (hresult : run.result = { installed := true, durabilityConfirmed := run.ok
                                installedTargetState := some (preparedState stat content) })
      (herror : run.ok = true → run.error = []) :
      Ends kernel before content target options run

section Write

variable (kernel : Kernel) (fs : Files) (path content : Bytes) (options : AtomicWriteOptions)

theorem writeWithResult_ends : (writeWithResult kernel fs path content options).Ends kernel fs
    content (targetPath kernel path options) options := by
  unfold writeWithResult
  split
  · exact .refused (.refl _ _)
  rename_i target existing hwrite
  obtain ⟨hadmitted, rfl⟩ := admitWrite_eq_ok.mp hwrite
  have htarget : targetPath kernel path options = target.path := by
    simp [targetPath, hadmitted.resolved.1]
  rw [htarget]
  split
  · exact .refused (.refl _ _)
  rename_i tempPath identity htemp
  obtain ⟨suffix, hmkstemp, rfl, hnew⟩ := makeTemp_eq_ok.mp htemp
  have hname := tempPath_ne target suffix
  -- the temporary file is there, the target is still untouched
  have hsame : ∀ node, FileSystem.SameAt fs ((fs.create (target.tempPath suffix) identity
      (createdTemp kernel)).write identity node) target.path :=
    fun node => ((FileSystem.SameAt.refl fs _).create hname hnew.2).write hnew.2
  dsimp only
  split
  · exact .refused (cleanup_sameAt hname (hsame _))
  rename_i prepared hadmission
  obtain ⟨stat, hprepared, rfl⟩ := prepared_iff.mp hadmission
  unfold publish
  split
  · rename_i after errno hinstall
    rcases installTempFile_failed hinstall with rfl | hkept
    · exact .refused (cleanup_sameAt hname (hsame _))
    · exact .left
        { hkept with
          linked := ⟨hkept.linked.1, (hsame _).entry.symm.trans hkept.linked.2⟩
          admitted := hadmitted
          temp := ⟨hmkstemp, hnew⟩
          prepared := ⟨stat, hprepared⟩ }
  · dsimp only
    split
    · exact .installed hprepared.told rfl nofun
    · exact .installed hprepared.told rfl fun _ => rfl

variable {kernel fs content options}

theorem writeWithResult_leavesLink {target : ResolvedPath} {suffix : Bytes}
    {identity : AtomicTargetIdentity}
    (h : LeavesLink kernel fs content options target suffix identity) :
    ¬(writeWithResult kernel fs path content options).Untouched fs
      (targetPath kernel path options) := by
  obtain ⟨stat, hprepared⟩ := h.prepared
  have hname := tempPath_ne target suffix
  have htarget : targetPath kernel path options = target.path := by
    simp [targetPath, h.admitted.resolved.1]
  rw [htarget, writeWithResult, admitWrite_eq_ok.mpr ⟨h.admitted, rfl⟩]
  dsimp only
  rw [makeTemp_eq_ok.mpr ⟨suffix, h.temp.1, rfl, h.temp.2⟩]
  dsimp only
  rw [prepared_iff.mpr ⟨stat, hprepared, rfl⟩]
  refine publish_linkKept hname h.linked.2 (Function.update_self ..) ?_
  have hsame : FileSystem.SameAt fs (fs.create (target.tempPath suffix) identity
      (createdTemp kernel)) target.path := .create (.refl _ _) hname h.temp.2.2
  exact { h.toLinkKept with linked := ⟨h.linked.1, hsame.entry.trans h.linked.2⟩ }

end Write

/-- A write that fails without having installed anything leaves the target as it
was, exactly unless it leaves a link it could not undo. -/
theorem writeWithResult_untouched_iff (kernel : Kernel) (fs : Files) (path content : Bytes)
    (options : AtomicWriteOptions) :
    (writeWithResult kernel fs path content options).Untouched fs
        (targetPath kernel path options) ↔
      ¬∃ target suffix identity, LeavesLink kernel fs content options target suffix identity := by
  constructor
  · rintro huntouched ⟨target, suffix, identity, h⟩
    exact writeWithResult_leavesLink path h huntouched
  · intro hnone _ hinstalled
    have hends := writeWithResult_ends kernel fs path content options
    generalize writeWithResult kernel fs path content options = run at hends hinstalled
    cases hends with
    | refused hsame => exact hsame
    | left h => exact absurd ⟨_, _, _, h⟩ hnone
    | installed _ hresult _ => simp [hresult] at hinstalled

def noFiles : Files where
  entry := fun _ => none
  node := fun _ => none
  linked := by simp

/-- A kernel without `renameat2` on which the temporary name can not be removed. -/
def withoutRenameat2 : Kernel where
  absolute := .ok { directory := lit "/etc/fic", filename := lit "journal.json" }
  mkstemp := .ok (lit "a1B2c3", { device := 1, inode := 2 })
  renameat2 := some .ENOSYS
  unlink := some .EioFault
  removes := false

def exclusiveCreation : AtomicWriteOptions := { createIfMissing := true, exclusiveCreate := true }

/-- The write fails, says that nothing is installed, and the target is there. -/
theorem writeWithResult_leaves_target :
    (writeWithResult withoutRenameat2 noFiles
      (lit "/etc/fic/journal.json") [] exclusiveCreation).ok =
        false ∧
      (writeWithResult withoutRenameat2 noFiles (lit "/etc/fic/journal.json") []
        exclusiveCreation).result.installed = false ∧
      (writeWithResult withoutRenameat2 noFiles (lit "/etc/fic/journal.json") []
        exclusiveCreation).files.entry (lit "/etc/fic/journal.json") =
          some { device := 1, inode := 2 } ∧
      noFiles.entry (lit "/etc/fic/journal.json") = none := by
  refine ⟨?_, ?_, ?_, rfl⟩ <;> decide +kernel

end Fic.Core
