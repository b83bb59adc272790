import Fic.Journal.Operations.Prepare

/-!
# Loading the journal

`MutationJournal::loadImpl`.  `decodeDocument` is the part that works on the
parsed document; `Journal.loadImpl` puts the file system around it and decides
what becomes of the journal object.  A failed load leaves the records alone and
revokes the trust in them.
-/

namespace Fic.Journal

open Fic.Lib Journal

/-! ## Checks across records -/

/-- The first fault of a pair, earlier records first. -/
def firstPair {α β : Type} (fault : α → α → Option β) : List α → Option β
  | [] => none
  | outer :: rest => (rest.findSome? (fault outer)).orElse fun _ => firstPair fault rest

def duplicateId (outer inner : MutationRecord) : Option Bytes :=
  if outer.id = inner.id then some (lit "Mutation journal содержит дубликат id (fail closed)")
  else none

def duplicateIdentity (outer inner : MutationRecord) : Option Bytes :=
  if outer.isActive && inner.isActive && sameIdentity outer inner then
    some (lit ("Mutation journal содержит несколько активных записей " ++
      "одного logical mutation identity (policy, backend, " ++ "resource): ") ++
      quoted outer.resource ++ lit " (fail closed)")
  else none

def duplicateContainer (outer inner : MutationRecord) : Option Bytes :=
  match outer.undo.payload, inner.undo.payload with
  | .OwnPamProviderContainer outerContainer, .OwnPamProviderContainer innerContainer =>
    if outer.isActive && inner.isActive &&
        innerContainer.configPath = outerContainer.configPath then
      some (lit ("Mutation journal содержит несколько активных " ++
        "own_pam_provider_container provenance для одного " ++ "config path: ") ++
        quoted outerContainer.configPath ++ lit " (fail closed)")
    else none
  | _, _ => none

def sharedSuppression (outer inner : MutationRecord) : Option Bytes :=
  match outer.undo.payload, inner.undo.payload with
  | .RemovePamProviderManagedFlag outerFlag, .RemovePamProviderManagedFlag innerFlag =>
    if !outer.isActive || !inner.isActive || innerFlag.configPath ≠ outerFlag.configPath then none
    else
      let innerAuthority := activePamFlagSuppressionAuthority inner innerFlag
      ((activePamFlagSuppressionAuthority outer outerFlag).find? innerAuthority.contains).map
        fun id =>
          lit "Mutation journal содержит suppression id " ++ quoted id ++
            lit " в нескольких активных PAM flag records для " ++ outerFlag.configPath ++
            lit (": неоднозначная rollback authority (fail " ++ "closed)")
  | _, _ => none

/-! ## The document -/

/-- Fails if a check has found a fault. -/
def refuseFault : Option Bytes → Reader Unit
  | some error => refuse error
  | none => .ok ()

/-- The older schema has no typed operations. -/
def legacySchemaFault (record : MutationRecord) : Option Bytes :=
  match record.undo.payload with
  | .SssdOwnership _ => some (lit "SSSD typed operations require journal schema 3")
  | .RemoveSshManagedPolicy ssh =>
    if ssh.ownershipVersion ≠ 0 || ssh.operationSequence ≠ 0 || ssh.transition.isSome then
      some (lit "SSH typed operations require journal schema 3")
    else none
  | _ => none

/-- The records, one by one; the first bad one ends the load. -/
def deserializeRecords (prim : Primitives) : List Json → Reader (List MutationRecord)
  | [] => .ok []
  | item :: items =>
    match deserializeRecord prim item with
    | .error (.refused error) =>
      refuse (lit ("Mutation journal содержит некорректную запись " ++ "(fail closed): ") ++ error)
    | .error (.thrown what) => throwing what
    | .ok record => do
      let records ← deserializeRecords prim items
      .ok (record :: records)

/-- An unsigned member of the document. -/
def unsignedMemberOr (document : Json) (key error : Bytes) : Reader UInt64 :=
  match document.find? key with
  | some (.unsigned n) => .ok n
  | _ => refuse error

/-- The array of records of the document. -/
def recordItems (document : Json) : Reader (List Json) :=
  match document.find? (lit "records") with
  | some (.array items) => .ok items
  | _ => refuse (lit "Mutation journal не содержит массив records (fail closed)")

/-- The checks across the records of a document. -/
def checkRecords (schema nextId : UInt64) (parsed : List MutationRecord) : Reader Unit := do
  refuseFault (if schema = 2 then parsed.findSome? legacySchemaFault else none)
  require (parsed.all fun record => record.id < nextId)
    (lit "Mutation journal содержит id без next_id (fail closed)")
  refuseFault (firstPair duplicateId parsed)
  refuseFault (firstPair duplicateIdentity parsed)
  refuseFault (firstPair duplicateContainer parsed)
  refuseFault (firstPair sharedSuppression parsed)

def decodeDocument (prim : Primitives) (document : Json) :
    Reader (List MutationRecord × UInt64) := do
  require document.isObject (lit "Mutation journal должен быть JSON-объектом (fail closed)")
  let schema ← unsignedMemberOr document (lit "schema_version")
    (lit "Mutation journal не содержит schema_version (fail closed)")
  require (schema = kSchemaVersion || schema = 2)
    (lit "Неподдерживаемая schema_version mutation journal: " ++ toDecimal schema.toNat)
  let nextId ← unsignedMemberOr document (lit "next_id")
    (lit "Mutation journal не содержит корректный next_id (fail closed)")
  let items ← recordItems document
  let parsed ← deserializeRecords prim items
  checkRecords schema nextId parsed
  .ok (parsed, nextId)

/-! ## The file -/

/-- What there is at the path of the journal. -/
inductive JournalFile
  | inaccessible (error : Bytes)
  | missing
  | unreadable (error : Bytes)
  | empty
  | document (parsed : Except Bytes Json)

inductive MissingJournalPolicy
  | AllowFreshEmpty
  | RequireExisting
  deriving DecidableEq, Repr

/-- The surroundings of a load: the name of the file, what it is, and whether
the parsed bytes are proven to be on the disk. -/
structure LoadEnv where
  path : Bytes
  file : JournalFile
  durability : Except Bytes Unit

inductive LoadReply
  | loaded
  | failed (error : Bytes)
  | threw (what : Bytes)
  deriving DecidableEq, Repr

namespace Journal

/-- The records stay, but nothing may rely on them. -/
def failLoad (message : Bytes) (j : Journal) : Journal × LoadReply :=
  ({ j with health := .Indeterminate }, .failed message)

/-- The document is parsed, proven to be durable, and published. -/
def loadDocument (prim : Primitives) (env : LoadEnv) (document : Json) (j : Journal) :
    Journal × LoadReply :=
  match decodeDocument prim document with
  | .error (.thrown what) => (j, .threw what)
  | .error (.refused error) => j.failLoad error
  | .ok (parsed, nextId) =>
    match env.durability with
    | .error error =>
      j.failLoad (lit ("Durability mutation journal не подтверждена для " ++
        "прочитанного snapshot (fail closed): ") ++ error)
    | .ok () =>
      match validContainerLinks parsed with
      | .error error => j.failLoad error
      | .ok () =>
        ({ j with records := parsed, nextId := nextId, loaded := true, health := .Healthy },
          .loaded)

def loadMissing (path : Bytes) (policy : MissingJournalPolicy) (j : Journal) :
    Journal × LoadReply :=
  if policy = .AllowFreshEmpty && !j.loaded && j.health = .Healthy then
    ({ j with records := [], nextId := 1, loaded := true }, .loaded)
  else if policy = .RequireExisting then
    j.failLoad (lit ("Mutation journal is missing (strict " ++
      "existing-journal load); provenance cannot be " ++ "treated as empty: ") ++ path)
  else
    j.failLoad (lit ("Mutation journal disappeared during reload/recovery; " ++
      "provenance cannot be treated as empty: ") ++ path)

def loadImpl (prim : Primitives) (env : LoadEnv) (policy : MissingJournalPolicy) (j : Journal) :
    Journal × LoadReply :=
  match env.file with
  | .inaccessible error =>
    j.failLoad (lit "Не удалось проверить наличие mutation journal " ++ env.path ++ lit ": " ++
      error)
  | .missing => j.loadMissing env.path policy
  | .unreadable error =>
    j.failLoad (lit ("Существующий mutation journal недоступен для чтения " ++
      "(fail closed): ") ++ error)
  | .empty =>
    j.failLoad (lit "Mutation journal существует, но пуст (fail closed): " ++ env.path)
  | .document (.error what) =>
    j.failLoad (lit "Mutation journal повреждён (fail closed): " ++ what)
  | .document (.ok document) => j.loadDocument prim env document

def load (prim : Primitives) (env : LoadEnv) (j : Journal) : Journal × LoadReply :=
  j.loadImpl prim env .AllowFreshEmpty

def loadExisting (prim : Primitives) (env : LoadEnv) (j : Journal) : Journal × LoadReply :=
  j.loadImpl prim env .RequireExisting

end Journal

end Fic.Journal
