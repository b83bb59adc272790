import Fic.Core.AtomicFileWriter
import Fic.Lib.Program

/-!
# One stored file

A state file as the conditional operations of the atomic file writer see it: what stands
under the path now, and what would stand there after a crash.  A replacement or a removal
takes effect at once; it reaches the durable copy when the barrier on the directory
succeeds, in the same operation or in a later one.

Every operation is atomic and compares the exact state it expects.  It can be refused
before it changes anything, and its barrier can fail afterwards.  An exclusive creation can
also leave the new file behind and report that nothing was installed (see
`Core.AtomicFileWriter`).  If its temporary name stays as well, the target has two links
and no reader can prove it.
-/

namespace Fic.Core

open Fic.Lib
open Fic.Journal (AtomicTargetState)

/-- What stands under a path.  An object that cannot be proven comes with the reason. -/
inductive Stored
  | absent
  | file (state : AtomicTargetState)
  | unprovable (detail : Bytes)
  deriving DecidableEq, Repr

structure StoredFile where
  live : Stored
  durable : Stored
  deriving DecidableEq, Repr

/-- What goes wrong in an operation. -/
structure FileFault where
  /-- The operation fails before it changes anything. -/
  refused : Bool := false
  /-- A refusal reports a changed target as the reason. -/
  flagged : Bool := false
  /-- An exclusive creation fails behind the new link. -/
  leftBehind : Bool := false
  /-- The temporary name stays beside that link; what a reader then says of the target. -/
  doubled : Option Bytes := none
  /-- The barrier on the directory fails. -/
  unsynced : Bool := false
  /-- The absence is not proven again behind the barrier. -/
  reappeared : Bool := false
  /-- The identity of a new file. -/
  identity : AtomicTargetIdentity := {}
  error : Bytes := []
  deriving DecidableEq, Repr

structure AtomicRemoveResult where
  removed : Bool := false
  durabilityConfirmed : Bool := false
  preconditionFailed : Bool := false
  deriving DecidableEq, Repr

structure Report (ρ : Type) where
  succeeded : Bool
  error : Bytes := []
  result : ρ
  deriving DecidableEq, Repr

inductive FileOp
  | read
  | writeWithResult (content : Bytes) (options : AtomicWriteOptions)
  | ensureTargetDurableIfCurrentState (expected : AtomicTargetState)
  | removeIfCurrentState (expected : AtomicTargetState)
  | ensureTargetAbsentDurableIfCurrentState

def FileOp.Answer : FileOp → Type
  | .read => Stored
  | .writeWithResult _ _ => Report AtomicWriteResult
  | .ensureTargetDurableIfCurrentState _ => Report Unit
  | .removeIfCurrentState _ => Report AtomicRemoveResult
  | .ensureTargetAbsentDurableIfCurrentState => Report Unit

abbrev FileProgram := Program FileOp FileOp.Answer

def readSecureStateFile : FileProgram Stored := Program.ask FileOp.read

namespace AtomicFileWriter

def writeWithResult (content : Bytes) (options : AtomicWriteOptions) :
    FileProgram (Report AtomicWriteResult) := Program.ask (FileOp.writeWithResult content options)

def ensureTargetDurableIfCurrentState (expected : AtomicTargetState) : FileProgram (Report Unit) :=
  Program.ask (FileOp.ensureTargetDurableIfCurrentState expected)

def removeIfCurrentState (expected : AtomicTargetState) :
    FileProgram (Report AtomicRemoveResult) := Program.ask (FileOp.removeIfCurrentState expected)

def ensureTargetAbsentDurableIfCurrentState : FileProgram (Report Unit) :=
  Program.ask FileOp.ensureTargetAbsentDurableIfCurrentState

end AtomicFileWriter

namespace StoredFile

/-- What a crash leaves. -/
def restore (file : StoredFile) : StoredFile := { file with live := file.durable }

/-- The barrier: what stands under the path is there after a crash. -/
def sync (file : StoredFile) (fault : FileFault) : StoredFile :=
  if fault.unsynced then file else { file with durable := file.live }

/-- What a write publishes. -/
def published (content : Bytes) (options : AtomicWriteOptions) (fault : FileFault) :
    AtomicTargetState :=
  { device := fault.identity.device, inode := fault.identity.inode, content
    mode := options.fileMode.getD 0, owner := options.fileOwner.getD 0
    group := options.fileGroup.getD 0 }

/-- What a creation leaves that fails behind its link. -/
def leftover (new : AtomicTargetState) (fault : FileFault) : Stored :=
  match fault.doubled with
  | none => .file new
  | some detail => .unprovable detail

/-- The target is what the options ask for. -/
def admits (file : StoredFile) (options : AtomicWriteOptions) : Bool :=
  match file.live with
  | .absent => options.createIfMissing && options.expectedTargetState.isNone
  | .file state => !options.exclusiveCreate && options.expectedTargetState.all (· = state)
  | .unprovable _ => false

def writeWithResult (file : StoredFile) (content : Bytes) (options : AtomicWriteOptions)
    (fault : FileFault) : Report AtomicWriteResult × StoredFile :=
  let new := published content options fault
  if !file.admits options || fault.refused then
    ({ succeeded := false, error := fault.error
       result := { preconditionFailed := fault.flagged } }, file)
  else if options.exclusiveCreate && fault.leftBehind then
    ({ succeeded := false, error := fault.error
       result := { preconditionFailed := fault.flagged } },
      { file with live := leftover new fault })
  else
    ({ succeeded := !fault.unsynced, error := if fault.unsynced then fault.error else []
       result := { installed := true, durabilityConfirmed := !fault.unsynced
                   installedTargetState := some new } },
      { file with live := .file new }.sync fault)

def ensureTargetDurableIfCurrentState (file : StoredFile) (expected : AtomicTargetState)
    (fault : FileFault) : Report Unit × StoredFile :=
  if file.live = .file expected && !fault.refused && !fault.unsynced then
    ({ succeeded := true, result := () }, file.sync fault)
  else ({ succeeded := false, error := fault.error, result := () }, file)

/-- A target that is not the expected one is never removed; that is reported as an error or
as a failed precondition. -/
def removeIfCurrentState (file : StoredFile) (expected : AtomicTargetState) (fault : FileFault) :
    Report AtomicRemoveResult × StoredFile :=
  if file.live = .file expected && !fault.refused then
    ({ succeeded := !fault.unsynced, error := if fault.unsynced then fault.error else []
       result := { removed := true, durabilityConfirmed := !fault.unsynced } },
      { file with live := .absent }.sync fault)
  else
    ({ succeeded := fault.flagged, error := fault.error
       result := { preconditionFailed := fault.flagged } }, file)

def ensureTargetAbsentDurableIfCurrentState (file : StoredFile) (fault : FileFault) :
    Report Unit × StoredFile :=
  if file.live = .absent && !fault.refused && !fault.unsynced then
    ({ succeeded := !fault.reappeared, error := if fault.reappeared then fault.error else []
       result := () }, file.sync fault)
  else ({ succeeded := false, error := fault.error, result := () }, file)

inductive WriteEnds (file : StoredFile) (content : Bytes) (options : AtomicWriteOptions)
    (fault : FileFault) : Report AtomicWriteResult → StoredFile → Prop
  | refused {report : Report AtomicWriteResult} (hresult : report.result.installed = false) :
      WriteEnds file content options fault report file
  | left {report : Report AtomicWriteResult} {state : AtomicTargetState}
      (hcreate : options.exclusiveCreate = true) (hrefused : fault.refused = false)
      (hleft : fault.leftBehind = true) (hadmits : file.admits options = true)
      (hcontent : state.content = content) (hresult : report.result.installed = false) :
      WriteEnds file content options fault report { file with live := .file state }
  | doubled {report : Report AtomicWriteResult} {detail : Bytes}
      (hcreate : options.exclusiveCreate = true) (hrefused : fault.refused = false)
      (hleft : fault.leftBehind = true) (hresult : report.result.installed = false) :
      WriteEnds file content options fault report { file with live := .unprovable detail }
  | synced {report : Report AtomicWriteResult} {state : AtomicTargetState}
      (hadmits : file.admits options = true) (hcontent : state.content = content)
      (hsucceeded : report.succeeded = true)
      (hresult : report.result = { installed := true, durabilityConfirmed := true
                                   installedTargetState := some state }) :
      WriteEnds file content options fault report { live := .file state, durable := .file state }
  | unsynced {report : Report AtomicWriteResult} {state : AtomicTargetState}
      (hadmits : file.admits options = true) (hcontent : state.content = content)
      (hsucceeded : report.succeeded = false)
      (hresult : report.result = { installed := true, installedTargetState := some state }) :
      WriteEnds file content options fault report { file with live := .file state }

theorem writeEnds (file : StoredFile) (content : Bytes) (options : AtomicWriteOptions)
    (fault : FileFault) : WriteEnds file content options fault
      (file.writeWithResult content options fault).1
      (file.writeWithResult content options fault).2 := by
  unfold writeWithResult
  by_cases hrefused : (!file.admits options || fault.refused) = true
  · rw [if_pos hrefused]
    exact .refused rfl
  have hadmits : file.admits options = true := by
    by_contra hadmits
    exact hrefused (by simp [hadmits])
  rw [if_neg hrefused]
  by_cases hleft : (options.exclusiveCreate && fault.leftBehind) = true
  · rw [if_pos hleft]
    rw [Bool.and_eq_true] at hleft
    have hpassed : fault.refused = false := by
      by_contra hrefuses
      exact hrefused (by simp [hrefuses])
    unfold leftover
    cases fault.doubled with
    | none => exact .left hleft.1 hpassed hleft.2 hadmits rfl rfl
    | some detail => exact .doubled hleft.1 hpassed hleft.2 rfl
  rw [if_neg hleft]
  cases hsync : fault.unsynced with
  | false =>
    simp only [sync, hsync]
    exact .synced hadmits rfl rfl rfl
  | true =>
    simp only [sync, hsync]
    exact .unsynced hadmits rfl rfl rfl

theorem ensureDurable_ends (file : StoredFile) (expected : AtomicTargetState) (fault : FileFault) :
    ((file.ensureTargetDurableIfCurrentState expected fault).1.succeeded = false ∧
      (file.ensureTargetDurableIfCurrentState expected fault).2 = file) ∨
    (file.ensureTargetDurableIfCurrentState expected fault).1.succeeded = true ∧
      (file.ensureTargetDurableIfCurrentState expected fault).2 =
        { live := .file expected, durable := .file expected } := by
  unfold StoredFile.ensureTargetDurableIfCurrentState
  by_cases hcurrent :
      (decide (file.live = .file expected) && !fault.refused && !fault.unsynced) = true
  · rw [if_pos hcurrent]
    simp only [Bool.and_eq_true, decide_eq_true_eq, Bool.not_eq_true'] at hcurrent
    refine .inr ⟨rfl, ?_⟩
    simp only [StoredFile.sync, hcurrent.2, hcurrent.1.1]
    rfl
  · rw [if_neg hcurrent]
    exact .inl ⟨rfl, rfl⟩

/-- Every run of the writer is a write of the stored file under some fault: it reports the
same, and what it leaves without having installed it is the target as it was or a leftover.
The kernel tells the metadata that was asked for. -/
theorem writeWithResult_simulates (kernel : Kernel) (fs : Files) (path content : Bytes)
    (options : AtomicWriteOptions) (file : StoredFile) (hadmits : file.admits options = true)
    (htold : ∀ stat, kernel.fstatPrepared = .ok stat →
      preparedState stat content = published content options { identity := stat.identity }) :
    ∃ fault, (file.writeWithResult content options fault).1 =
        ⟨(Core.writeWithResult kernel fs path content options).ok,
          (Core.writeWithResult kernel fs path content options).error,
          (Core.writeWithResult kernel fs path content options).result⟩ ∧
      ((Core.writeWithResult kernel fs path content options).result.installed = false →
        (file.writeWithResult content options fault).2 = file ∧
          FileSystem.SameAt fs (Core.writeWithResult kernel fs path content options).files
            (targetPath kernel path options) ∨
        (file.writeWithResult content options fault).2.live =
            leftover (published content options fault) fault ∧
          ∃ target suffix identity,
            LeavesLink kernel fs content options target suffix identity) := by
  have hends := writeWithResult_ends kernel fs path content options
  generalize Core.writeWithResult kernel fs path content options = run at hends
  cases hends with
  | @refused files refusal hsame =>
    exact ⟨{ refused := true, flagged := refusal.preconditionFailed, error := refusal.message },
      by simp [writeWithResult, WriteRun.refused],
      fun _ => .inl ⟨by simp [writeWithResult], hsame⟩⟩
  | @left files refusal target suffix identity h =>
    exact ⟨{ leftBehind := true, flagged := refusal.preconditionFailed, error := refusal.message },
      by simp [writeWithResult, WriteRun.refused, hadmits, h.exclusive],
      fun _ => .inr ⟨by simp [writeWithResult, hadmits, h.exclusive], target, suffix, identity, h⟩⟩
  | @installed run stat hstat hresult herror =>
    refine ⟨{ unsynced := !run.ok, error := run.error, identity := stat.identity }, ?_,
      fun h => by simp [hresult] at h⟩
    have hpublished := htold stat hstat
    cases hok : run.ok <;>
      simp_all [writeWithResult, published]

end StoredFile

/-- The machine of one stored file. -/
def fileMachine : Machine FileOp FileOp.Answer FileFault StoredFile where
  perform file op fault :=
    match op with
    | .read => (file.live, file)
    | .writeWithResult content options => file.writeWithResult content options fault
    | .ensureTargetDurableIfCurrentState expected =>
      file.ensureTargetDurableIfCurrentState expected fault
    | .removeIfCurrentState expected => file.removeIfCurrentState expected fault
    | .ensureTargetAbsentDurableIfCurrentState =>
      file.ensureTargetAbsentDurableIfCurrentState fault

/-- Only what is live becomes durable. -/
theorem durable_perform (op : FileOp) (file : StoredFile) (fault : FileFault) :
    (fileMachine.perform file op fault).2.durable = file.durable ∨
      (fileMachine.perform file op fault).2.durable =
        (fileMachine.perform file op fault).2.live := by
  have hsync : ∀ file : StoredFile, (file.sync fault).durable = file.durable ∨
      (file.sync fault).durable = (file.sync fault).live := by
    intro file
    unfold StoredFile.sync
    split
    · exact .inl rfl
    · exact .inr rfl
  cases op with
  | read => exact .inl rfl
  | writeWithResult content options =>
    have hends := file.writeEnds content options fault
    change (file.writeWithResult content options fault).2.durable = _ ∨
      (file.writeWithResult content options fault).2.durable =
        (file.writeWithResult content options fault).2.live
    generalize file.writeWithResult content options fault = outcome at hends ⊢
    obtain ⟨report, file'⟩ := outcome
    cases hends with
    | refused _ => exact .inl rfl
    | left _ _ _ _ _ _ => exact .inl rfl
    | doubled _ _ _ _ => exact .inl rfl
    | synced _ _ _ _ => exact .inr rfl
    | unsynced _ _ _ _ => exact .inl rfl
  | ensureTargetDurableIfCurrentState expected =>
    change (file.ensureTargetDurableIfCurrentState expected fault).2.durable = _ ∨
      (file.ensureTargetDurableIfCurrentState expected fault).2.durable =
        (file.ensureTargetDurableIfCurrentState expected fault).2.live
    unfold StoredFile.ensureTargetDurableIfCurrentState
    split
    · exact hsync file
    · exact .inl rfl
  | removeIfCurrentState expected =>
    change (file.removeIfCurrentState expected fault).2.durable = _ ∨
      (file.removeIfCurrentState expected fault).2.durable =
        (file.removeIfCurrentState expected fault).2.live
    unfold StoredFile.removeIfCurrentState
    split
    · exact hsync { file with live := .absent }
    · exact .inl rfl
  | ensureTargetAbsentDurableIfCurrentState =>
    change (file.ensureTargetAbsentDurableIfCurrentState fault).2.durable = _ ∨
      (file.ensureTargetAbsentDurableIfCurrentState fault).2.durable =
        (file.ensureTargetAbsentDurableIfCurrentState fault).2.live
    unfold StoredFile.ensureTargetAbsentDurableIfCurrentState
    split
    · exact hsync file
    · exact .inl rfl

end Fic.Core
