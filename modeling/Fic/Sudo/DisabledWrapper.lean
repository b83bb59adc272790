import Fic.Journal.Validate.Payload
import Fic.Sudo.LogicalEntries

/-!
# Suppressed sudoers entries

An entry of a foreign file is suppressed by turning its lines into comment lines
between two markers.  `parseSudoDisabledWrappers` reads the markers of a file,
`disableSudoEntry` writes them, and the two restoring functions put the original
lines back after the ownership of every wrapper of the policy has been proven.
-/

namespace Fic.Sudo

open Fic.Lib
open Fic.Journal (SudoScopedDefaultsWrapperProof isCanonicalSudoWrapperId)

/-! ## Markers -/

def kSudoDisabledBeginPrefix : Bytes := lit "#@FIC_SUDO_DISABLED_BEGIN "

def kSudoDisabledEndPrefix : Bytes := lit "#@FIC_SUDO_DISABLED_END "

def kSudoDisabledLinePrefix : Bytes := lit "#@FIC_SUDO_DISABLED_LINE@"

def kSudoMarkerIntroducer : Bytes := lit "#@FIC_SUDO_"

def kSudoLineEolPrefix : Bytes := lit "eol="

def blank : UInt8 := ' '.toUInt8

def atSign : UInt8 := '@'.toUInt8

def equalsSign : UInt8 := '='.toUInt8

/-- An unknown terminator has no code. -/
def encodeSudoLineEol (terminator : Bytes) : Bytes :=
  if terminator = [lf] then lit "lf"
  else if terminator = crLf then lit "crlf"
  else if terminator = [] then lit "none"
  else []

def decodeSudoLineEol (value : Bytes) : Option Bytes :=
  if value = lit "lf" then some [lf]
  else if value = lit "crlf" then some crLf
  else if value = lit "none" then some []
  else none

/-- One `key=value`; both are needed. -/
def parseField (token : Bytes) : Option (Bytes × Bytes) :=
  let key := token.takeWhile (· ≠ equalsSign)
  let value := (token.dropWhile (· ≠ equalsSign)).drop 1
  if key.isEmpty || value.isEmpty then none else some (key, value)

def parseFields : List Bytes → Option (List (Bytes × Bytes))
  | [] => some []
  | token :: tokens => do
    let field ← parseField token
    let fields ← parseFields tokens
    if (fields.map (·.1)).contains field.1 then none else some (field :: fields)

/-- The fields in front of the closing `@`.  The loop of the source expects
another field behind a blank, so a trailing blank is refused. -/
def parseMarkerFields (body : Bytes) : Option (List (Bytes × Bytes)) :=
  if body.getLast? ≠ some atSign then none
  else
    let content := body.dropLast
    if content.isEmpty || content.getLast? = some blank then none
    else parseFields ((content.splitOn blank).filter fun token => !token.isEmpty)

/-- The policy and the mutation id of a marker. -/
def parseWrapperMarker (line markerPrefix : Bytes) : Except Bytes (Bytes × Bytes) :=
  match parseMarkerFields (line.drop markerPrefix.length) with
  | none => .error (lit "неразбираемые поля FIC-маркера: " ++ line)
  | some fields =>
    match fields.lookup (lit "policy"), fields.lookup (lit "mutation"), fields.length with
    | some policy, some mutation, 2 => .ok (policy, mutation)
    | _, _, _ =>
      .error (lit "в FIC-маркере должны быть ровно поля policy= и mutation=: " ++ line)

/-- The original line a comment line stands for. -/
def parseDisabledLine (lineText : Bytes) : Except Bytes SudoPhysicalLine :=
  if !(kSudoDisabledLinePrefix <+: lineText) then
    .error (lit "не FIC-строка внутри FIC_SUDO_DISABLED блока: " ++ lineText)
  else
    let body := lineText.drop kSudoDisabledLinePrefix.length
    if !(kSudoLineEolPrefix <+: body) then
      .error (lit "FIC_SUDO_DISABLED_LINE без явного eol=метаданных: " ++ lineText)
    else
      let coded := body.drop kSudoLineEolPrefix.length
      if atSign ∉ coded then
        .error (lit "FIC_SUDO_DISABLED_LINE без разделителя '@': " ++ lineText)
      else
        match decodeSudoLineEol (coded.takeWhile (· ≠ atSign)) with
        | none => .error (lit "неизвестный eol=код в FIC_SUDO_DISABLED_LINE: " ++ lineText)
        | some terminator =>
          .ok { text := (coded.dropWhile (· ≠ atSign)).drop 1, terminator }

/-! ## Reading a file -/

structure SudoDisabledWrapper where
  policy : Bytes
  mutationId : Bytes
  originalLines : List SudoPhysicalLine := []
  beginLine : Nat := 0
  endLine : Nat := 0
  deriving DecidableEq, Repr

/-- Where the reader stands: the wrappers it has read and the open one. -/
structure WrapperScan where
  wrappers : List SudoDisabledWrapper := []
  current : Option SudoDisabledWrapper := none
  deriving DecidableEq, Repr

def scanLine (index : Nat) (scan : WrapperScan) (lineText : Bytes) : Except Bytes WrapperScan :=
  let position := toDecimal (index + 1)
  if kSudoDisabledBeginPrefix <+: lineText then
    match scan.current with
    | some _ => .error (lit "вложенный FIC_SUDO_DISABLED_BEGIN в строке " ++ position)
    | none => do
      let (policy, mutationId) ← parseWrapperMarker lineText kSudoDisabledBeginPrefix
      .ok { scan with current := some { policy, mutationId, beginLine := index } }
  else if kSudoDisabledEndPrefix <+: lineText then
    match scan.current with
    | none => .error (lit "FIC_SUDO_DISABLED_END без BEGIN в строке " ++ position)
    | some current => do
      let (policy, mutationId) ← parseWrapperMarker lineText kSudoDisabledEndPrefix
      if policy ≠ current.policy ∨ mutationId ≠ current.mutationId then
        .error (lit "FIC_SUDO_DISABLED_END не соответствует своему BEGIN")
      else if current.originalLines.isEmpty then
        .error (lit "FIC_SUDO_DISABLED блок " ++ current.mutationId ++
          lit " не содержит исходных строк")
      else
        .ok { wrappers := scan.wrappers ++ [{ current with endLine := index }], current := none }
  else
    match scan.current with
    | some current => do
      let original ← parseDisabledLine lineText
      .ok { scan with
        current := some { current with originalLines := current.originalLines ++ [original] } }
    | none =>
      if kSudoMarkerIntroducer <+: lineText then
        .error (lit "неизвестный FIC-маркер sudoers в строке " ++ position ++ lit ": " ++ lineText)
      else .ok scan

def scanLines (index : Nat) (scan : WrapperScan) :
    List SudoPhysicalLine → Except Bytes WrapperScan
  | [] => .ok scan
  | line :: lines => do
    let scan ← scanLine index scan line.text
    scanLines (index + 1) scan lines

def parseSudoDisabledWrappers (lines : List SudoPhysicalLine) :
    Except Bytes (List SudoDisabledWrapper) := do
  let scan ← scanLines 0 {} lines
  match scan.current with
  | some current => .error (lit "незакрытый FIC_SUDO_DISABLED блок " ++ current.mutationId)
  | none => .ok scan.wrappers

/-! ## Suppressing an entry -/

def markerFields (policyName mutationId : Bytes) : Bytes :=
  lit "policy=" ++ policyName ++ lit " mutation=" ++ mutationId ++ lit "@"

/-- The lines of a wrapper always end in a line feed. -/
def markerLine (text : Bytes) : SudoPhysicalLine := { text, terminator := [lf] }

def disabledLine (original : SudoPhysicalLine) : SudoPhysicalLine :=
  markerLine (kSudoDisabledLinePrefix ++ kSudoLineEolPrefix ++
    encodeSudoLineEol original.terminator ++ lit "@" ++ original.text)

def wrapperLines (originals : List SudoPhysicalLine) (policyName mutationId : Bytes) :
    List SudoPhysicalLine :=
  markerLine (kSudoDisabledBeginPrefix ++ markerFields policyName mutationId) ::
    (originals.map disabledLine ++
      [markerLine (kSudoDisabledEndPrefix ++ markerFields policyName mutationId)])

def disableSudoEntry (lines : List SudoPhysicalLine) (firstLine lineCount : Nat)
    (policyName mutationId : Bytes) : List SudoPhysicalLine :=
  lines.take firstLine ++
    wrapperLines ((lines.drop firstLine).take lineCount) policyName mutationId ++
    lines.drop (firstLine + lineCount)

/-! ## Ownership -/

/-- What the model takes from elsewhere: the digest of bytes and the canonical
spelling of the path of the file. -/
structure ProofPrimitives where
  sha256Hex : Bytes → Bytes
  canonicalizeSudoProofPath : Bytes → Bytes

def SudoDisabledWrapper.payloadDigest (prim : ProofPrimitives) (wrapper : SudoDisabledWrapper) :
    Bytes :=
  prim.sha256Hex (suppressedEntryBytes wrapper.originalLines)

structure SudoWrapperProvenanceCheck where
  payloadMalformed : Bool := false
  fileDuplicate : Bool := false
  unknownIds : List Bytes := []
  releasedIds : List Bytes := []
  driftedIds : List Bytes := []
  deriving DecidableEq, Repr

def SudoWrapperProvenanceCheck.safeToRelease (check : SudoWrapperProvenanceCheck) : Bool :=
  !check.payloadMalformed && !check.fileDuplicate && check.unknownIds.isEmpty &&
    check.driftedIds.isEmpty

/-- The ids of the wrappers of a policy in the order of a map. -/
def fileIds (wrappers : List SudoDisabledWrapper) (policyName : Bytes) : List Bytes :=
  (((wrappers.filter fun w => w.policy = policyName).map (·.mutationId)).dedup).insertionSort
    (· ≤ ·)

/-- The proof that the map of the proofs has for an id. -/
def proofOf (proofs : List SudoScopedDefaultsWrapperProof) (id : Bytes) :
    Option SudoScopedDefaultsWrapperProof :=
  proofs.find? fun proof => proof.wrapperId = id

def isUnknownId (prim : ProofPrimitives) (filePath : Bytes)
    (proofs : List SudoScopedDefaultsWrapperProof) (id : Bytes) : Bool :=
  match proofOf proofs id with
  | none => true
  | some proof => proof.canonicalPath ≠ prim.canonicalizeSudoProofPath filePath

def isDriftedId (prim : ProofPrimitives) (wrappers : List SudoDisabledWrapper)
    (filePath policyName : Bytes) (proofs : List SudoScopedDefaultsWrapperProof) (id : Bytes) :
    Bool :=
  !isUnknownId prim filePath proofs id &&
    (proofOf proofs id).any fun proof =>
      wrappers.any fun w => w.policy = policyName && w.mutationId = id &&
        w.payloadDigest prim ≠ proof.payloadDigest

def checkSudoWrapperProvenance (prim : ProofPrimitives) (wrappers : List SudoDisabledWrapper)
    (filePath policyName : Bytes) (expectedProofs : List SudoScopedDefaultsWrapperProof) :
    SudoWrapperProvenanceCheck :=
  let ids := fileIds wrappers policyName
  { payloadMalformed := !decide (expectedProofs.map (·.wrapperId)).Nodup
    fileDuplicate :=
      !decide ((wrappers.filter fun w => w.policy = policyName).map (·.mutationId)).Nodup
    unknownIds := ids.filter (isUnknownId prim filePath expectedProofs)
    releasedIds := (expectedProofs.map (·.wrapperId)).filter fun id => !ids.contains id
    driftedIds := ids.filter (isDriftedId prim wrappers filePath policyName expectedProofs) }

def listIds (ids : List Bytes) : Bytes := (ids.map fun id => lit " " ++ id).flatten

def describeSudoWrapperProvenance (check : SudoWrapperProvenanceCheck) (policyName : Bytes) :
    Bytes :=
  if check.safeToRelease then []
  else
    lit "проверка владения FIC_SUDO_DISABLED политики '" ++ policyName ++ lit "' не пройдена" ++
      (if check.payloadMalformed then
        lit "; payload journal содержит повторяющиеся mutation id" else []) ++
      (if check.fileDuplicate then lit "; файл содержит повторяющиеся mutation id" else []) ++
      (if check.unknownIds.isEmpty then []
        else lit "; неизвестные mutation id:" ++ listIds check.unknownIds) ++
      (if check.driftedIds.isEmpty then []
        else lit ("; содержимое подавленных записей изменено после " ++
          "применения (drift), id:") ++ listIds check.driftedIds)

/-! ## Restoring -/

/-- Puts the original lines of a wrapper in its place. -/
def unwrap (lines : List SudoPhysicalLine) (wrapper : SudoDisabledWrapper) :
    List SudoPhysicalLine :=
  lines.take wrapper.beginLine ++ wrapper.originalLines ++ lines.drop (wrapper.endLine + 1)

/-- The restored lines and whether anything has changed.  The last wrapper is
restored first, so that the positions of the others stay right. -/
def restoreWrappers (prim : ProofPrimitives) (lines : List SudoPhysicalLine)
    (filePath policyName : Bytes) (proofs : List SudoScopedDefaultsWrapperProof)
    (selects : SudoDisabledWrapper → Bool) : Except Bytes (List SudoPhysicalLine × Bool) :=
  match parseSudoDisabledWrappers lines with
  | .error error => .error (lit "Не удалось разобрать FIC-маркеры sudoers: " ++ error)
  | .ok wrappers =>
    let check := checkSudoWrapperProvenance prim wrappers filePath policyName proofs
    if !check.safeToRelease then .error (describeSudoWrapperProvenance check policyName)
    else
      let restored := wrappers.filter fun w => w.policy = policyName && selects w
      .ok (restored.foldr (fun w lines => unwrap lines w) lines, !restored.isEmpty)

def restoreSudoDisabledEntries (prim : ProofPrimitives) (lines : List SudoPhysicalLine)
    (filePath policyName : Bytes) (allowedProofs : List SudoScopedDefaultsWrapperProof) :
    Except Bytes (List SudoPhysicalLine × Bool) :=
  restoreWrappers prim lines filePath policyName allowedProofs fun _ => true

def restoreSelectedSudoDisabledEntries (prim : ProofPrimitives) (lines : List SudoPhysicalLine)
    (filePath policyName : Bytes) (allExpectedProofs : List SudoScopedDefaultsWrapperProof)
    (selectedIdsToRestore : List Bytes) : Except Bytes (List SudoPhysicalLine × Bool) :=
  restoreWrappers prim lines filePath policyName allExpectedProofs fun w =>
    selectedIdsToRestore.contains w.mutationId

end Fic.Sudo
