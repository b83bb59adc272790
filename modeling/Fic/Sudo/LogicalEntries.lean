import Fic.Lib.Trim
import Fic.Sudo.PhysicalLines

/-!
# Logical entries

`assembleSudoLogicalEntries` reads physical lines into logical entries: a line
whose text ends in an odd number of backslashes goes on in the next line.  Each
byte of an entry remembers the place it comes from, and
`replaceSudoLogicalTokens` rewrites tokens of an entry in their physical lines.
-/

namespace Fic.Sudo

open Fic.Lib

variable {lines : List SudoPhysicalLine}

def backslash : UInt8 := '\\'.toUInt8

/-! ## Assembly -/

def trimLogicalCopy (value : Bytes) : Bytes := (value.dropWhile isSpace).rdropWhile isSpace

def trimStart (value : Bytes) : Nat := (value.takeWhile isSpace).length

/-- An odd number of backslashes at the end; an even number is escaped. -/
def hasContinuation (line : Bytes) : Bool :=
  ((trimLogicalCopy line).rtakeWhile (· = backslash)).length % 2 = 1

/-- A place in a physical line. -/
structure SourcePosition where
  physicalLine : Nat
  column : Nat
  deriving DecidableEq, Repr

structure SudoLogicalEntry where
  firstPhysicalLine : Nat
  lineCount : Nat
  text : Bytes
  /-- The place of each byte; a byte that was put in has none. -/
  sourcePositions : List (Option SourcePosition)
  deriving DecidableEq, Repr

/-- The places of `count` bytes from a column on. -/
def positionsFrom (line column count : Nat) : List (Option SourcePosition) :=
  (List.range count).map fun k => some { physicalLine := line, column := column + k }

def startEntry (index : Nat) (line : SudoPhysicalLine) : SudoLogicalEntry :=
  { firstPhysicalLine := index, lineCount := 1, text := line.text
    sourcePositions := positionsFrom index 0 line.text.length }

/-- The entry goes on in the line: the backslash is replaced by a blank. -/
def continueEntry (entry : SudoLogicalEntry) (index : Nat) (line : SudoPhysicalLine) :
    SudoLogicalEntry :=
  let trimmed := trimLogicalCopy entry.text
  let next := trimLogicalCopy line.text
  { entry with
    lineCount := entry.lineCount + 1
    text := trimmed.dropLast ++ lit " " ++ next
    sourcePositions :=
      ((entry.sourcePositions.drop (trimStart entry.text)).take (trimmed.length - 1)) ++ [none] ++
        positionsFrom index (trimStart line.text) next.length }

/-- The entries from a line on; `current` is the one that may still go on. -/
def assembleFrom (current : Option SudoLogicalEntry) (index : Nat) :
    List SudoPhysicalLine → List SudoLogicalEntry
  | [] => current.toList
  | line :: lines =>
    match current with
    | none => assembleFrom (some (startEntry index line)) (index + 1) lines
    | some entry =>
      if hasContinuation entry.text then
        assembleFrom (some (continueEntry entry index line)) (index + 1) lines
      else entry :: assembleFrom (some (startEntry index line)) (index + 1) lines

def assembleSudoLogicalEntries (lines : List SudoPhysicalLine) : List SudoLogicalEntry :=
  assembleFrom none 0 lines

def SudoLogicalEntry.linesOf (entry : SudoLogicalEntry) (lines : List SudoPhysicalLine) :
    List SudoPhysicalLine :=
  (lines.drop entry.firstPhysicalLine).take entry.lineCount

/-- An entry that ends in front of a line. -/
def EndsBefore (index : Nat) (entry : SudoLogicalEntry) : Prop :=
  0 < entry.lineCount ∧ entry.firstPhysicalLine + entry.lineCount ≤ index

theorem assembleFrom_range {current : Option SudoLogicalEntry} {index : Nat}
    (h : ∀ entry ∈ current, EndsBefore index entry) :
    ∀ entry ∈ assembleFrom current index lines, EndsBefore (index + lines.length) entry := by
  have hlater : ∀ {entry : SudoLogicalEntry} {a b : Nat}, a ≤ b → EndsBefore a entry →
      EndsBefore b entry := fun hab he => ⟨he.1, he.2.trans hab⟩
  have hstart : ∀ line, EndsBefore (index + 1) (startEntry index line) :=
    fun line => ⟨Nat.one_pos, le_rfl⟩
  induction lines generalizing current index with
  | nil => simpa [assembleFrom] using h
  | cons line lines ih =>
    have hrest : ∀ entry : SudoLogicalEntry, EndsBefore (index + 1) entry →
        ∀ e ∈ assembleFrom (some entry) (index + 1) lines,
          EndsBefore (index + (line :: lines).length) e := by
      intro entry hentry e he
      have hcurrent : ∀ e ∈ some entry, EndsBefore (index + 1) e := by simpa using hentry
      exact hlater (by simp; omega) (ih hcurrent (fun line => ⟨Nat.one_pos, le_rfl⟩) e he)
    cases current with
    | none => exact hrest _ (hstart line)
    | some entry =>
      have hentry := h entry rfl
      rw [assembleFrom]
      split_ifs
      · exact hrest _ ⟨Nat.succ_pos _, by simp only [continueEntry]; have := hentry.2; omega⟩
      · refine List.forall_mem_cons.mpr ⟨hlater (by simp) hentry, hrest _ (hstart line)⟩

/-- Every entry has lines, and they are lines of the file. -/
theorem assemble_range {entry : SudoLogicalEntry} (h : entry ∈ assembleSudoLogicalEntries lines) :
    0 < entry.lineCount ∧ entry.firstPhysicalLine + entry.lineCount ≤ lines.length := by
  have hrange := assembleFrom_range (by simp) entry h
  simpa [EndsBefore] using hrange

/-! ## Rewriting tokens -/

structure SudoTokenReplacement where
  logicalOffset : Nat
  expected : Bytes
  replacement : Bytes
  deriving DecidableEq, Repr

/-- The physical place of one edit that starts behind the end of the previous
one. -/
def checkEdit (entry : SudoLogicalEntry) (lines : List SudoPhysicalLine) (previousEnd : Nat)
    (edit : SudoTokenReplacement) : Except Bytes SourcePosition :=
  if edit.expected.isEmpty ∨ entry.text.length < edit.logicalOffset + edit.expected.length ∨
      edit.logicalOffset < previousEnd ∨
      ¬edit.expected <+: entry.text.drop edit.logicalOffset then
    .error (lit "Invalid or overlapping logical token replacement")
  else if lf ∈ edit.replacement ∨ cr ∈ edit.replacement then
    .error (lit "Token replacement contains a line terminator")
  else
    match entry.sourcePositions[edit.logicalOffset]? with
    | some (some first) =>
      match lines[first.physicalLine]? with
      | none => .error (lit "Token has no physical source")
      | some line =>
        if (entry.sourcePositions.drop edit.logicalOffset).take edit.expected.length ≠
            positionsFrom first.physicalLine first.column edit.expected.length then
          .error (lit "Token crosses a continuation boundary")
        else if edit.expected <+: line.text.drop first.column then .ok first
        else .error (lit "Physical token snapshot changed")
    | _ => .error (lit "Token has no physical source")

/-- Checks the edits in their order. -/
def checkEdits (entry : SudoLogicalEntry) (lines : List SudoPhysicalLine) (previousEnd : Nat) :
    List SudoTokenReplacement → Except Bytes (List (SourcePosition × SudoTokenReplacement))
  | [] => .ok []
  | edit :: edits => do
    let first ← checkEdit entry lines previousEnd edit
    let rest ← checkEdits entry lines (edit.logicalOffset + edit.expected.length) edits
    .ok ((first, edit) :: rest)

/-- `std::string::replace` in one line. -/
def replaceToken (lines : List SudoPhysicalLine) (source : SourcePosition)
    (edit : SudoTokenReplacement) : List SudoPhysicalLine :=
  lines.modify source.physicalLine fun line =>
    { line with
      text := line.text.take source.column ++ edit.replacement ++
        line.text.drop (source.column + edit.expected.length) }

/-- Checks all edits and then makes them, the last one first. -/
def replaceSudoLogicalTokens (entry : SudoLogicalEntry) (edits : List SudoTokenReplacement)
    (lines : List SudoPhysicalLine) : Except Bytes (List SudoPhysicalLine) := do
  if entry.sourcePositions.length ≠ entry.text.length then
    .error (lit "Missing physical source coordinates")
  else
    let checked ← checkEdits entry lines 0
      (edits.insertionSort fun a b => a.logicalOffset ≤ b.logicalOffset)
    .ok (checked.foldr (fun item lines => replaceToken lines item.1 item.2) lines)

end Fic.Sudo
