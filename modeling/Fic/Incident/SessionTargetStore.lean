import Fic.Incident.StateStore
import Fic.Lib.Decimal
import Fic.Lib.Json

/-!
# The store of session targets

`IncidentSessionTargetStore` keeps the users that were selected during the incident: one
JSON document with the boot, the generation of the incident and the targets.  A read is
proven only for a document that passes every check, and a document that passes
`validWrite` is read back as it was written (`parseDocument_documentJson`).

The text of a JSON value is the library's: `JsonText` is its writer and its parser, with
the one law the store needs.  The writer throws on a text that is not UTF-8; a program
that returns `none` has thrown.
-/

namespace Fic.Incident

open Fic.Lib Fic.Core
open Fic.Journal (AtomicTargetState)

variable {content : Bytes} {stored : Stored} {file : StoredFile}

inductive RuntimeObligation
  | Pending
  | Discharged
  deriving DecidableEq, Repr

structure IncidentSessionTarget where
  uid : UInt32 := 0
  canonicalName : Bytes := []
  sessionId : Bytes := []
  sessionStartTimestamp : UInt64 := 0
  sessionClass : Bytes := []
  runtimeObligation : RuntimeObligation := .Pending
  deriving DecidableEq, Repr

structure TargetDocument where
  bootId : Bytes := []
  incidentGeneration : UInt64 := 0
  targets : List IncidentSessionTarget := []
  deriving DecidableEq, Repr

namespace TargetStore

def kStoreMaxBytes : Nat := 64 * 1024

def kMaxTargets : Nat := 256

def kStoreSchemaVersion : UInt64 := 2

def isHexDigit (b : UInt8) : Bool :=
  ('0'.toUInt8 ≤ b && b ≤ '9'.toUInt8) || ('a'.toUInt8 ≤ b && b ≤ 'f'.toUInt8) ||
    ('A'.toUInt8 ≤ b && b ≤ 'F'.toUInt8)

def validBootId (value : Bytes) : Bool :=
  value.length = 36 && value.zipIdx.all fun (b, i) =>
    if i = 8 ∨ i = 13 ∨ i = 18 ∨ i = 23 then b = '-'.toUInt8 else isHexDigit b

def selectableClass (value : Bytes) : Bool :=
  value = lit "user" || value = lit "user-early" || value = lit "user-light" ||
    value = lit "user-early-light"

/-- Only the two obligations of the type exist, so they need no check. -/
def validTarget (target : IncidentSessionTarget) : Bool :=
  target.uid ≠ 0 && !target.canonicalName.isEmpty && target.canonicalName.length ≤ 256 &&
    !target.sessionId.isEmpty && target.sessionId.length ≤ 256 &&
    target.sessionStartTimestamp ≠ 0 && selectableClass target.sessionClass

def uniqueUids (targets : List IncidentSessionTarget) : Bool :=
  decide (targets.map (·.uid)).Nodup

def validWrite (document : TargetDocument) : Bool :=
  validBootId document.bootId && document.incidentGeneration ≠ 0 &&
    document.targets.length ≤ kMaxTargets && document.targets.all validTarget &&
    uniqueUids document.targets

/-! ## The document -/

def obligationName : RuntimeObligation → Bytes
  | .Discharged => lit "discharged"
  | .Pending => lit "pending"

def targetJson (target : IncidentSessionTarget) : Json :=
  .mkObject
    [(lit "uid", .ofUInt32 target.uid), (lit "name", .string target.canonicalName),
      (lit "session_id", .string target.sessionId),
      (lit "session_start", .unsigned target.sessionStartTimestamp),
      (lit "session_class", .string target.sessionClass),
      (lit "runtime_obligation", .string (obligationName target.runtimeObligation))]

def documentJson (document : TargetDocument) : Json :=
  .mkObject
    [(lit "schema_version", .unsigned kStoreSchemaVersion),
      (lit "lifecycle_marker", .string (lit "fenced_before_severity")),
      (lit "boot_id", .string document.bootId),
      (lit "incident_generation", .unsigned document.incidentGeneration),
      (lit "targets", .array (document.targets.map targetJson))]

def unsignedAt (key : Bytes) (j : Json) : Option UInt64 :=
  match j.find? key with
  | some (.unsigned value) => some value
  | _ => none

def stringAt (key : Bytes) (j : Json) : Option Bytes :=
  match j.find? key with
  | some (.string value) => some value
  | _ => none

def arrayAt (key : Bytes) (j : Json) : Option (List Json) :=
  match j.find? key with
  | some (.array elements) => some elements
  | _ => none

def parseObligation (name : Bytes) : Option RuntimeObligation :=
  if name = lit "discharged" then some .Discharged
  else if name = lit "pending" then some .Pending
  else none

def parseTarget (item : Json) : Option IncidentSessionTarget := do
  guard (item.isObject && item.size = 6)
  let uid ← unsignedAt (lit "uid") item
  let canonicalName ← stringAt (lit "name") item
  let sessionId ← stringAt (lit "session_id") item
  let sessionStartTimestamp ← unsignedAt (lit "session_start") item
  let sessionClass ← stringAt (lit "session_class") item
  let runtimeObligation ← (stringAt (lit "runtime_obligation") item).bind parseObligation
  guard (uid ≠ 0 && uid.toNat < 2 ^ 32 && !canonicalName.isEmpty && canonicalName.length ≤ 256 &&
    !sessionId.isEmpty && sessionId.length ≤ 256 && sessionStartTimestamp ≠ 0 &&
    selectableClass sessionClass)
  return { uid := uid.toUInt32, canonicalName, sessionId, sessionStartTimestamp, sessionClass
           runtimeObligation }

def parseDocument (j : Json) : Option TargetDocument := do
  guard (j.isObject && j.size = 5)
  let schema ← unsignedAt (lit "schema_version") j
  let marker ← stringAt (lit "lifecycle_marker") j
  let bootId ← stringAt (lit "boot_id") j
  let incidentGeneration ← unsignedAt (lit "incident_generation") j
  let items ← arrayAt (lit "targets") j
  guard (schema = kStoreSchemaVersion && marker = lit "fenced_before_severity" &&
    incidentGeneration ≠ 0 && items.length ≤ kMaxTargets && validBootId bootId)
  let targets ← items.mapM parseTarget
  guard (uniqueUids targets)
  return { bootId, incidentGeneration, targets }

/-! ## Reading back -/

theorem parseObligation_obligationName (obligation : RuntimeObligation) :
    parseObligation (obligationName obligation) = some obligation := by
  cases obligation <;> simp [parseObligation, obligationName]

theorem parseTarget_targetJson {target : IncidentSessionTarget} (h : validTarget target = true) :
    parseTarget (targetJson target) = some target := by
  have hsize : ((targetJson target).isObject && decide ((targetJson target).size = 6)) = true := rfl
  have hfits : target.uid.toNat < 4294967296 := target.uid.toNat_lt
  have huid : target.uid.toUInt64 = 0 ↔ target.uid = 0 :=
    ⟨fun hzero => by simpa using congrArg UInt64.toUInt32 hzero, fun hzero => by rw [hzero]; rfl⟩
  simp only [validTarget, Bool.and_eq_true, decide_eq_true_eq, Bool.not_eq_true',
    List.isEmpty_eq_false_iff] at h
  unfold parseTarget
  rw [hsize]
  simp only [targetJson, unsignedAt, stringAt, Json.find?_mkObject, Json.lookup_lit_cons,
    Json.ofUInt32]
  simp [h, hfits, huid, parseObligation_obligationName]

theorem mapM_parseTarget {targets : List IncidentSessionTarget}
    (h : targets.all validTarget = true) :
    (targets.map targetJson).mapM parseTarget = some targets := by
  induction targets with
  | nil => rfl
  | cons target targets ih =>
    rw [List.all_cons, Bool.and_eq_true] at h
    rw [List.map_cons, List.mapM_cons, parseTarget_targetJson h.1, ih h.2]
    rfl

variable {document : TargetDocument}

/-- What passes the check of the writer is read back. -/
theorem parseDocument_documentJson (h : validWrite document = true) :
    parseDocument (documentJson document) = some document := by
  have hsize : ((documentJson document).isObject && decide ((documentJson document).size = 5)) =
    true := rfl
  simp only [validWrite, Bool.and_eq_true, decide_eq_true_eq] at h
  obtain ⟨⟨⟨⟨hboot, hgeneration⟩, hlength⟩, htargets⟩, hunique⟩ := h
  unfold parseDocument
  rw [hsize]
  simp only [documentJson, unsignedAt, stringAt, arrayAt, Json.find?_mkObject, Json.lookup_lit_cons]
  simp [hboot, hgeneration, hlength, hunique, mapM_parseTarget htargets]

/-! ## Texts -/

/-- The writer and the parser of the JSON library.  What it writes for a document of the store
it parses again. -/
structure JsonText where
  dump : Json → Bytes
  parse : Bytes → Option Json
  parse_dump : ∀ document, validWrite document = true → (documentJson document).isUtf8 = true →
    parse (dump (documentJson document)) = some (documentJson document)

variable {text : JsonText}

/-- `serialize`; nothing if the writer throws. -/
def serialize (text : JsonText) (document : TargetDocument) : Option Bytes :=
  if (documentJson document).isUtf8 then some (text.dump (documentJson document)) else none

def parse (text : JsonText) (content : Bytes) : Option TargetDocument :=
  if content.length > kStoreMaxBytes then none else (text.parse content).bind parseDocument

/-! ## Reading and writing -/

inductive ReadProvenance
  | Proven
  | Absent
  | Unprovable
  deriving DecidableEq, Repr

structure ReadResult where
  provenance : ReadProvenance := .Unprovable
  document : TargetDocument := {}
  detail : Bytes := []
  provenState : Option AtomicTargetState := none
  deriving DecidableEq, Repr

structure WriteResult where
  durable : Bool := false
  detail : Bytes := []
  deriving DecidableEq, Repr

def readResult (text : JsonText) : Stored → ReadResult
  | .absent => { provenance := .Absent }
  | .unprovable detail =>
    { detail :=
      if detail.isEmpty then lit "incident session target store is unprovable" else detail }
  | .file state =>
    match parse text state.content with
    | none => { detail := lit "incident session target store content is invalid" }
    | some document => { provenance := .Proven, document, provenState := some state }

def read (text : JsonText) : FileProgram ReadResult := do
  let stored ← readSecureStateFile
  return readResult text stored

def writeOptions (identity : StateIdentity) (expected : ReadResult) : AtomicWriteOptions :=
  { createIfMissing := expected.provenance = .Absent
    exclusiveCreate := expected.provenance = .Absent
    rejectSymlink := true
    metadataPolicy := .EnforceProvided
    fileMode := some 0o640
    fileOwner := identity.expectedStateOwner
    fileGroup := identity.group
    expectedTargetState := expected.provenState }

/-- What `writeIfCurrent` does behind its checks. -/
def writeContent (identity : StateIdentity) (expected : ReadResult) (content : Bytes) :
    FileProgram WriteResult := do
  let report ← AtomicFileWriter.writeWithResult content (writeOptions identity expected)
  if !report.result.installed then
    return { detail := if report.error.isEmpty then lit "conditional target write failed"
             else report.error }
  else if report.succeeded && report.result.durabilityConfirmed then
    return { durable := true }
  else
    match report.result.installedTargetState with
    | none => return { detail := lit "target durability is unproven" }
    | some installed =>
      let barrier ← AtomicFileWriter.ensureTargetDurableIfCurrentState installed
      return { durable := barrier.succeeded
               detail := if barrier.succeeded then []
                 else if barrier.error.isEmpty then lit "target durability is unproven"
                 else barrier.error }

/-- Replaces the document that was read; nothing if the writer throws. -/
def writeIfCurrent (text : JsonText) (identity : StateIdentity) (expected : ReadResult)
    (document : TargetDocument) : FileProgram (Option WriteResult) :=
  if expected.provenance = .Unprovable ∨
      (expected.provenance = .Proven ∧ expected.provenState = none) then
    return some { detail := lit "target store predecessor is unproven" }
  else if !validWrite document then
    return some { detail := lit "incident session target store write refused" }
  else
    match serialize text document with
    | none => return none
    | some content =>
      if content.length > kStoreMaxBytes then
        return some { detail := lit "incident session target store exceeds size bound" }
      else do
        let result ← writeContent identity expected content
        return some result

/-! ## What a write does to the file -/

/-- The document that a reader finds. -/
def documentOf (text : JsonText) : Stored → Option TargetDocument
  | .file state => parse text state.content
  | _ => none

theorem parse_serialize (hvalid : validWrite document = true)
    (h : serialize text document = some content) (hlength : content.length ≤ kStoreMaxBytes) :
    parse text content = some document := by
  unfold serialize at h
  split_ifs at h with hutf8
  rw [parse, if_neg (not_lt.mpr hlength), ← Option.some.inj h,
    text.parse_dump document hvalid hutf8, Option.bind_some, parseDocument_documentJson hvalid]

theorem documentOf_proven (h : (readResult text stored).provenance = .Proven) :
    documentOf text stored = some (readResult text stored).document ∧
      ∃ state, stored = .file state ∧ (readResult text stored).provenState = some state := by
  cases stored with
  | absent => cases h
  | unprovable detail => cases h
  | file state =>
    cases hparse : parse text state.content with
    | none =>
      simp only [readResult, hparse] at h
      cases h
    | some document =>
      simp only [readResult, documentOf, hparse]
      exact ⟨trivial, state, rfl, rfl⟩

theorem readResult_document (h : documentOf text stored = some document) :
    (readResult text stored).provenance = .Proven ∧
      (readResult text stored).document = document := by
  cases stored with
  | absent => cases h
  | unprovable detail => cases h
  | file state =>
    change parse text state.content = some document at h
    simp only [readResult, h]
    exact ⟨trivial, trivial⟩

/-- One call of a write: it leaves the file alone, or a reader finds the document or nothing
he can prove, and only what is live becomes durable. -/
def Replaces (text : JsonText) (document : TargetDocument) (file file' : StoredFile) : Prop :=
  (file'.live = file.live ∨ ∀ found, documentOf text file'.live = some found → found = document) ∧
    (file'.durable = file.durable ∨ file'.durable = file'.live)

/-- The end of a write: what it reports as durable is live and durable. -/
def Replaced (text : JsonText) (document : TargetDocument) (result : WriteResult)
    (file' : StoredFile) : Prop :=
  result.durable = true → file'.durable = file'.live ∧ documentOf text file'.live = some document

/-- A specification of a program of the store that runs alone. -/
abbrev Writes {α : Type} (text : JsonText) (document : TargetDocument)
    (post : α → StoredFile → Prop) (p : FileProgram α) (file : StoredFile) : Prop :=
  fileMachine.Safe (fun _ _ => True) Eq (Replaces text document) post p file

theorem writes_done {α : Type} {post : α → StoredFile → Prop}
    {value : α} (h : post value file) : Writes text document post (.done value) file := by
  rintro _ rfl
  exact h

theorem writes_ask {op : FileOp} {post : op.Answer → StoredFile → Prop}
    (h : ∀ fault, Replaces text document file (fileMachine.perform file op fault).2 ∧
      post (fileMachine.perform file op fault).1 (fileMachine.perform file op fault).2) :
    Writes text document post (.ask op) file := by
  rintro _ rfl
  exact ⟨trivial, fun fault => ⟨(h fault).1, writes_done (h fault).2⟩⟩

theorem writeContent_writes
    (hcontent : parse text content = some document) (identity : StateIdentity)
    (expected : ReadResult) (file : StoredFile) :
    Writes text document (Replaced text document)
      (writeContent identity expected content) file := by
  have hread : ∀ {state : AtomicTargetState}, state.content = content →
      documentOf text (.file state) = some document := fun h =>
        (congrArg (parse text) h).trans hcontent
  have honly : ∀ {state : AtomicTargetState}, state.content = content → ∀ found,
      documentOf text (.file state) = some found → found = document :=
    fun h _ hfound => Option.some.inj (hfound.symm.trans (hread h))
  have hwrite : Writes text document (fun report last => ∃ fault,
      file.WriteEnds content (writeOptions identity expected) fault report last)
      (AtomicFileWriter.writeWithResult content (writeOptions identity expected)) file := by
    refine writes_ask fun fault => ⟨?_, fault, file.writeEnds _ _ fault⟩
    have hends := file.writeEnds content (writeOptions identity expected) fault
    change Replaces text document file
      (file.writeWithResult content (writeOptions identity expected) fault).2
    generalize file.writeWithResult content (writeOptions identity expected) fault = outcome
      at hends ⊢
    obtain ⟨report, file'⟩ := outcome
    cases hends with
    | refused _ => exact ⟨.inl rfl, .inl rfl⟩
    | left _ _ _ _ hstate _ => exact ⟨.inr (honly hstate), .inl rfl⟩
    | doubled _ _ _ _ => exact ⟨.inr nofun, .inl rfl⟩
    | synced _ hstate _ _ => exact ⟨.inr (honly hstate), .inr rfl⟩
    | unsynced _ hstate _ _ => exact ⟨.inr (honly hstate), .inl rfl⟩
  refine hwrite.bind fun report last hends => ?_
  obtain ⟨fault, hends⟩ := hends
  cases hends with
  | refused hresult =>
    rw [hresult]
    exact writes_done nofun
  | left _ _ _ _ _ hresult =>
    rw [hresult]
    exact writes_done nofun
  | doubled _ _ _ hresult =>
    rw [hresult]
    exact writes_done nofun
  | synced _ hstate hsucceeded hresult =>
    rw [hresult, hsucceeded]
    exact writes_done fun _ => ⟨rfl, hread hstate⟩
  | @unsynced state _ hstate hsucceeded hresult =>
    rw [hresult, hsucceeded]
    -- the barrier is tried once more
    have hbarrier : Writes text document (fun (barrier : Report Unit) last =>
        barrier.succeeded = true → last.durable = last.live ∧
          documentOf text last.live = some document)
        (AtomicFileWriter.ensureTargetDurableIfCurrentState state)
        { file with live := .file state } := by
      refine writes_ask fun fault => ?_
      rcases StoredFile.ensureDurable_ends _ state fault with ⟨hreport, hfile⟩ | ⟨hreport, hfile⟩
      · change Replaces text document _
          (StoredFile.ensureTargetDurableIfCurrentState _ state fault).2 ∧ _
        rw [hfile]
        refine ⟨⟨.inl rfl, .inl rfl⟩, fun hsucceeded => ?_⟩
        exact absurd (hreport.symm.trans hsucceeded) Bool.false_ne_true
      · change Replaces text document _
          (StoredFile.ensureTargetDurableIfCurrentState _ state fault).2 ∧
          (_ → (StoredFile.ensureTargetDurableIfCurrentState _ state fault).2.durable =
            (StoredFile.ensureTargetDurableIfCurrentState _ state fault).2.live ∧
            documentOf text (StoredFile.ensureTargetDurableIfCurrentState _ state fault).2.live = _)
        rw [hfile]
        exact ⟨⟨.inl rfl, .inr rfl⟩, fun _ => ⟨rfl, hread hstate⟩⟩
    exact hbarrier.bind fun barrier last' hconfirmed => writes_done hconfirmed

theorem writeIfCurrent_writes (text : JsonText) (identity : StateIdentity) (expected : ReadResult)
    (document : TargetDocument) (file : StoredFile) :
    Writes text document (fun result last => ∀ written, result = some written →
      Replaced text document written last)
        (writeIfCurrent text identity expected document) file := by
  have hrefused : ∀ detail : Bytes, Writes text document (fun result last => ∀ written,
      result = some written → Replaced text document written last)
      (.done (some { detail })) file := by
    intro detail
    refine writes_done fun written hwritten hdurable => ?_
    rw [← Option.some.inj hwritten] at hdurable
    cases hdurable
  unfold writeIfCurrent
  by_cases hunproven : expected.provenance = .Unprovable ∨
      (expected.provenance = .Proven ∧ expected.provenState = none)
  · rw [if_pos hunproven]
    exact hrefused _
  rw [if_neg hunproven]
  by_cases hvalid : (!validWrite document) = true
  · rw [if_pos hvalid]
    exact hrefused _
  rw [if_neg hvalid]
  cases hserialize : serialize text document with
  | none => exact writes_done nofun
  | some content =>
    dsimp only
    by_cases hlength : content.length > kStoreMaxBytes
    · rw [if_pos hlength]
      exact hrefused _
    rw [if_neg hlength]
    have hparse := parse_serialize (by simpa using hvalid) hserialize (not_lt.mp hlength)
    refine (writeContent_writes hparse identity expected file).bind fun result last hreplaced => ?_
    refine writes_done fun written hwritten => ?_
    rw [← Option.some.inj hwritten]
    exact hreplaced

/-! ## A text format -/

def quote : UInt8 := '"'.toUInt8

def backslash : UInt8 := '\\'.toUInt8

/-- A string up to its closing quote; a backslash stands before a quote or a backslash. -/
def quoted (string : Bytes) : Bytes :=
  string.flatMap (fun b => if b = quote ∨ b = backslash then [backslash, b] else [b]) ++
    lit "\","

def joinStrings (strings : List Bytes) : Bytes :=
  strings.flatMap fun string => quote :: quoted string

def putByte (b : UInt8) : List Bytes → List Bytes
  | [] => []
  | string :: strings => (b :: string) :: strings

/-- The state is none between two strings; in a string it is whether a backslash stands
before the byte. -/
def splitStrings : Option Bool → Bytes → List Bytes
  | _, [] => []
  | none, b :: text => splitStrings (if b = quote then some false else none) text
  | some true, b :: text => putByte b (splitStrings (some false) text)
  | some false, b :: text =>
    if b = quote then [] :: splitStrings none text
    else if b = backslash then splitStrings (some true) text
    else putByte b (splitStrings (some false) text)

theorem splitStrings_quoted (string text : Bytes) :
    splitStrings (some false) (quoted string ++ text) = string :: splitStrings none text := by
  induction string with
  | nil => rfl
  | cons b string ih =>
    have hcons : quoted (b :: string) =
        (if b = quote ∨ b = backslash then [backslash, b] else [b]) ++ quoted string := by
      simp [quoted]
    rw [hcons]
    split_ifs with hb
    · exact congrArg (putByte b) ih
    · rw [not_or] at hb
      simp [splitStrings, hb, ih, putByte]

theorem splitStrings_joinStrings (strings : List Bytes) :
    splitStrings none (joinStrings strings) = strings := by
  induction strings with
  | nil => rfl
  | cons string strings ih =>
    exact (splitStrings_quoted string (joinStrings strings)).trans (congrArg _ ih)

def targetStrings (target : IncidentSessionTarget) : List Bytes :=
  [toDecimal target.uid.toNat, target.canonicalName, target.sessionId,
    toDecimal target.sessionStartTimestamp.toNat, target.sessionClass,
    obligationName target.runtimeObligation]

def stringsTargets : List Bytes → List IncidentSessionTarget
  | uid :: canonicalName :: sessionId :: start :: sessionClass :: obligation :: rest =>
    { uid := .ofNat (ofDecimal uid), canonicalName, sessionId
      sessionStartTimestamp := .ofNat (ofDecimal start), sessionClass
      runtimeObligation := (parseObligation obligation).getD .Pending } :: stringsTargets rest
  | _ => []

theorem stringsTargets_targetStrings (targets : List IncidentSessionTarget) :
    stringsTargets (targets.flatMap targetStrings) = targets := by
  induction targets with
  | nil => rfl
  | cons target targets ih =>
    simp [targetStrings, stringsTargets, parseObligation_obligationName, ofDecimal_toDecimal, ih]

/-- A text format that keeps what the store needs. -/
def plainText : JsonText where
  dump j :=
    match parseDocument j with
    | none => []
    | some document =>
      joinStrings (document.bootId :: toDecimal document.incidentGeneration.toNat ::
        document.targets.flatMap targetStrings)
  parse content :=
    match splitStrings none content with
    | bootId :: generation :: targets =>
      some (documentJson { bootId, incidentGeneration := .ofNat (ofDecimal generation)
                           targets := stringsTargets targets })
    | _ => none
  parse_dump document hvalid _ := by
    simp [parseDocument_documentJson hvalid, splitStrings_joinStrings, ofDecimal_toDecimal,
      stringsTargets_targetStrings]

end TargetStore

end Fic.Incident
