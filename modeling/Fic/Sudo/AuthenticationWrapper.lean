import Fic.Sudo.AuthenticationGrammar

/-!
# Authentication frames

A rule that lets a user in without a password is put into a frame: comment lines that
hold the original lines, and behind them the rewritten lines, which stay active.
`makeAuthenticationWrapper` writes a frame and `parseAuthenticationWrappers` reads the
frames of a file.  The reader derives the rewritten lines from the original ones again and
accepts the frame only if it is the one that would be written.  `rewriteFrames` puts the
original lines back.
-/

namespace Fic.Sudo

open Fic.Lib
open Fic.Journal (AuthenticationProof isCanonicalSudoWrapperId)

/-! ## Writing -/

def authBegin : Bytes := lit "#@FIC_AUTH_BEGIN id="

def authEnd : Bytes := lit "#@FIC_AUTH_END id="

def authOriginalPrefix : Bytes := lit "#@FIC_AUTH_ORIGINAL eol="

def authActive : Bytes := lit "#@FIC_AUTH_ACTIVE"

def authMarker : Bytes := lit "#@FIC_AUTH"

/-- Every terminator that is neither LF nor CRLF counts as none. -/
def encodeAuthEol (terminator : Bytes) : Bytes :=
  if terminator = [lf] then lit "LF" else if terminator = crLf then lit "CRLF" else lit "NONE"

def decodeAuthEol (eol : Bytes) : Option Bytes :=
  if eol = lit "LF" then some [lf]
  else if eol = lit "CRLF" then some crLf
  else if eol = lit "NONE" then some []
  else none

def originalLine (line : SudoPhysicalLine) : SudoPhysicalLine :=
  markerLine (authOriginalPrefix ++ encodeAuthEol line.terminator ++ lit "@" ++ line.text)

/-- The last line gets a line feed if it has no terminator. -/
def terminateLast : List SudoPhysicalLine → List SudoPhysicalLine
  | [] => []
  | [line] => [if line.terminator.isEmpty then markerLine line.text else line]
  | line :: lines => line :: terminateLast lines

def makeAuthenticationWrapper (id original replacement : Bytes) : List SudoPhysicalLine :=
  markerLine (authBegin ++ id) :: ((splitPhysicalLines original).map originalLine ++
    markerLine authActive :: (terminateLast (splitPhysicalLines replacement) ++
      [markerLine (authEnd ++ id)]))

/-! ## Reading -/

structure AuthenticationWrapper where
  id : Bytes
  original : Bytes
  replacement : Bytes
  first : Nat := 0
  last : Nat := 0
  scopedDefaults : Bool := false
  deriving DecidableEq, Repr

def AuthenticationWrapper.proof (prim : ProofPrimitives) (path : Bytes)
    (wrapper : AuthenticationWrapper) : AuthenticationProof :=
  { wrapperId := wrapper.id
    canonicalPath := prim.canonicalizeSudoProofPath path
    originalDigest := prim.sha256Hex wrapper.original
    replacementDigest := prim.sha256Hex wrapper.replacement }

/-- The blanks that may stand in front of a marker. -/
def isMarkerBlank (c : UInt8) : Bool := c = blank || c = 9 || c = cr

def startsAuthMarker (text : Bytes) : Bool := authMarker <+: text.dropWhile isMarkerBlank

def readOriginal (text : Bytes) : Except Bytes SudoPhysicalLine :=
  let body := text.drop authOriginalPrefix.length
  if atSign ∉ body then .error (lit "Missing original eol delimiter")
  else
    match decodeAuthEol (body.takeWhile (· ≠ atSign)) with
    | none => .error (lit "Invalid original eol")
    | some terminator => .ok { text := (body.dropWhile (· ≠ atSign)).drop 1, terminator }

/-- The original lines at the start of the lines. -/
def readOriginals : List SudoPhysicalLine → Except Bytes (List SudoPhysicalLine)
  | [] => .ok []
  | line :: lines =>
    if authOriginalPrefix <+: line.text then do
      let original ← readOriginal line.text
      let originals ← readOriginals lines
      .ok (original :: originals)
    else .ok []

/-- The frame that starts at a line. -/
def readFrame (ids : List Bytes) (index : Nat) (line : SudoPhysicalLine)
    (lines : List SudoPhysicalLine) : Except Bytes AuthenticationWrapper :=
  if line.text.dropWhile isMarkerBlank ≠ line.text then
    .error (lit "Non-canonical indented FIC_AUTH marker")
  else if ¬authBegin <+: line.text then .error (lit "Unknown FIC_AUTH marker")
  else
    let id := line.text.drop authBegin.length
    if !isCanonicalSudoWrapperId id || ids.contains id then
      .error (lit "Invalid or duplicate FIC_AUTH id")
    else do
      let originals ← readOriginals lines
      if originals.isEmpty ∨ (lines[originals.length]?).map (·.text) ≠ some authActive then
        .error (lit "Incomplete FIC_AUTH original/active frame")
      else if originals.dropLast.any (·.terminator.isEmpty) then
        .error (lit "Non-final original line has no terminator")
      else do
        let original := joinPhysicalLines originals
        let (replacement, scopedDefaults) ← authenticationReplacement original
        let canonical := makeAuthenticationWrapper id original replacement
        if lines.length + 1 < canonical.length then .error (lit "Truncated FIC_AUTH frame")
        else if canonical ≠ (line :: lines).take canonical.length then
          .error (lit "FIC_AUTH frame differs from proven typed transformation")
        else
          .ok { id, original, replacement, first := index, last := index + canonical.length - 1
                scopedDefaults }

/-- The frames from a line on; `skip` lines still belong to the last one. -/
def parseFrames (ids : List Bytes) (index skip : Nat) :
    List SudoPhysicalLine → Except Bytes (List AuthenticationWrapper)
  | [] => .ok []
  | line :: lines =>
    match skip with
    | skip + 1 => parseFrames ids (index + 1) skip lines
    | 0 =>
      if !startsAuthMarker line.text then parseFrames ids (index + 1) 0 lines
      else do
        let wrapper ← readFrame ids index line lines
        let wrappers ← parseFrames (wrapper.id :: ids) (index + 1) (wrapper.last - index) lines
        .ok (wrapper :: wrappers)

def parseAuthenticationWrappers (lines : List SudoPhysicalLine) :
    Except Bytes (List AuthenticationWrapper) :=
  parseFrames [] 0 0 lines

/-! ## Putting the original lines back -/

/-- The last frame is put back first, so that the places of the others stay right. -/
def restoreFrames (prim : ProofPrimitives) (path : Bytes) (allowed : List AuthenticationProof)
    (lines : List SudoPhysicalLine) :
    List AuthenticationWrapper → Except Bytes (List SudoPhysicalLine × Bool)
  | [] => .ok (lines, false)
  | frame :: frames => do
    let (lines, changed) ← restoreFrames prim path allowed lines frames
    if frame.proof prim path ∉ allowed then .ok (lines, changed)
    else
      let restored := splitPhysicalLines frame.original
      if (restored.getLast?).any (·.terminator.isEmpty) && frame.last + 1 ≠ lines.length then
        .error (lit "Conflict: foreign suffix after unterminated authentication original")
      else .ok (lines.take frame.first ++ restored ++ lines.drop (frame.last + 1), true)

/-- The lines with the frames of the allowed proofs put back, and whether there were any. -/
def rewriteFrames (prim : ProofPrimitives) (lines : List SudoPhysicalLine) (path : Bytes)
    (allowed : List AuthenticationProof) : Except Bytes (List SudoPhysicalLine × Bool) := do
  let frames ← parseAuthenticationWrappers lines
  restoreFrames prim path allowed lines frames

end Fic.Sudo
