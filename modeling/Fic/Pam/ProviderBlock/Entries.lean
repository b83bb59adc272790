import Fic.Pam.ProviderBlock.Parse

/-!
# Setting and removing entries

The pure content transforms of `PamProviderManagedBlock.cpp` for one managed
entry: validation of the request, the foreign bytes around a proven block,
the canonical rendering, and `setPamProviderManagedEntry` /
`removePamProviderManagedEntry`.
-/

namespace Fic.Pam

open Fic.Lib

/-! ## Rendering -/

def renderEntry (entry : PamProviderManagedEntry) : Bytes :=
  pamProviderEntryBeginMarker entry.policy entry.mutationId ++ [lf] ++
    entry.body ++ [lf] ++ kPamProviderEntryEndMarker ++ [lf]

def renderBlock (provider : Bytes) (entries : List PamProviderManagedEntry)
    (leadOwnedNewline : Bool) : Bytes :=
  pamProviderBlockBeginMarker provider leadOwnedNewline ++ [lf] ++
    entries.flatMap renderEntry ++ kPamProviderBlockEndMarker ++ [lf]

def assembleAtBeginning (foreign block : Bytes) : Bytes := block ++ foreign

/-- A non-empty foreign area is separated by one line feed that FIC owns. -/
def assembleAtEnd (foreign block : Bytes) : Bytes :=
  (if foreign.isEmpty then foreign else foreign ++ [lf]) ++ block

/-- The block with its lead contract, put at the requested end. -/
def placeBlock (provider : Bytes) (entries : List PamProviderManagedEntry)
    (foreign : Bytes) (request : PamProviderBlockPlacementRequest) : Bytes :=
  let leadOwnedNewline := decide (request = .End) && !foreign.isEmpty
  let block := renderBlock provider entries leadOwnedNewline
  match request with
  | .Beginning => assembleAtBeginning foreign block
  | .End => assembleAtEnd foreign block

/-! ## The foreign bytes -/

/-- Notes the index of a block marker line. -/
def noteBlockMarker (found : Option Nat × Option Nat) (indexed : Bytes × Nat) :
    Option Nat × Option Nat :=
  let line := lineContent indexed.1
  if line = kPamProviderBlockEndMarker then (found.1, some indexed.2)
  else if kPamProviderBlockBeginMarkerPrefix <+: line then (some indexed.2, found.2)
  else found

/-- The last begin and end marker lines. -/
def findBlockLineIndices (content : Bytes) : Option Nat × Option Nat :=
  (physicalLines content).zipIdx.foldl noteBlockMarker (none, none)

/-- Drops the separator line feed that the lead contract declares FIC-owned. -/
def stripLead (leadOwnedNewline : Bool) (before : Bytes) : Bytes :=
  if leadOwnedNewline && !before.isEmpty && decide (before.getLast? = some lf) then
    before.dropLast
  else before

/-- Everything but the proven block, in the original order. -/
def foreignBytes (content : Bytes) (beginIndex endIndex : Nat)
    (atBeginning leadOwnedNewline : Bool) : Bytes :=
  let lines := physicalLines content
  if atBeginning then
    content.drop ((lines.take (endIndex + 1)).map List.length).sum
  else
    stripLead leadOwnedNewline (lines.take beginIndex).flatten ++
      (lines.drop (endIndex + 1)).flatten

/-- The foreign bytes of a content whose strict parse gave `view`. -/
def parsedForeign (content : Bytes) (view : PamProviderBlockView) : Bytes :=
  if view.present then
    match findBlockLineIndices content with
    | (some beginIndex, some endIndex) =>
      foreignBytes content beginIndex endIndex view.atBeginning view.leadOwnedNewline
    | _ => content -- a parsed block has both markers
  else content

/-! ## Setting an entry -/

structure PamProviderEntrySpec where
  provider : Bytes
  policy : Bytes
  managedKey : Bytes
  value : Bytes
  mutationId : UInt64
  deriving DecidableEq, Repr

def validateEntrySpec (spec : PamProviderEntrySpec) : Except Bytes Unit :=
  if !isValidPamProviderIdentityToken spec.provider then
    .error (lit "invalid provider identity for FIC PAM managed entry")
  else if !isValidPamProviderIdentityToken spec.policy then
    .error (lit "invalid policy identity for FIC PAM managed entry")
  else if !isValidPamProviderManagedKey spec.managedKey then
    .error (lit "invalid managed key for FIC PAM managed entry: " ++ spec.managedKey)
  else if spec.mutationId = 0 then
    .error (lit "FIC PAM managed entry requires a non-zero mutation id")
  else if (parseCanonicalPamProviderEntryBody
      (pamProviderEntryBody spec.managedKey spec.value spec.provider)
      spec.provider).isNone then
    .error (lit "invalid managed value for FIC PAM managed entry " ++ spec.managedKey)
  else .ok ()

def PamProviderManagedEntry.isFor (entry : PamProviderManagedEntry)
    (policy managedKey : Bytes) : Bool :=
  entry.policy = policy && entry.managedKey = managedKey

def findEntry (entries : List PamProviderManagedEntry) (policy managedKey : Bytes) :
    Option PamProviderManagedEntry :=
  entries.find? fun entry => entry.isFor policy managedKey

inductive MutationOutcome
  | Committed
  | NoOp
  deriving DecidableEq, Repr

structure PamProviderMutationResult where
  outcome : MutationOutcome
  content : Bytes
  deriving DecidableEq, Repr

def foreignProviderError (provider : Bytes) : Bytes :=
  lit "FIC PAM provider block принадлежит другому provider: " ++ provider

/-- Gives the first entry of the tuple a new body. -/
def replaceBody (entries : List PamProviderManagedEntry) (policy managedKey body : Bytes) :
    List PamProviderManagedEntry :=
  entries.replaceF fun entry =>
    if entry.isFor policy managedKey then some { entry with body := body } else none

def setPamProviderManagedEntry (content : Bytes) (spec : PamProviderEntrySpec)
    (request : PamProviderBlockPlacementRequest) :
    Except Bytes PamProviderMutationResult := do
  validateEntrySpec spec
  let view ← parsePamProviderManagedBlock content
  if view.present && decide (view.provider ≠ spec.provider) then
    .error (foreignProviderError view.provider)
  else
    let newBody := pamProviderEntryBody spec.managedKey spec.value spec.provider
    let committed (entries : List PamProviderManagedEntry) :
        Except Bytes PamProviderMutationResult :=
      .ok
        { outcome := .Committed
          content := placeBlock spec.provider entries (parsedForeign content view) request }
    match findEntry view.entries spec.policy spec.managedKey with
    | some existing =>
      if existing.mutationId ≠ spec.mutationId then
        .error (lit ("FIC PAM entry (policy, key) уже существует с другим physical " ++
          "mutation id: ") ++ toDecimal existing.mutationId.toNat ++ lit " != " ++
          toDecimal spec.mutationId.toNat)
      else if existing.body = newBody ∧ view.satisfiesPlacement request then
        .ok { outcome := .NoOp, content := content }
      else committed (replaceBody view.entries spec.policy spec.managedKey newBody)
    | none =>
      committed (canonicalSort (view.entries ++
        [{ policy := spec.policy
           managedKey := spec.managedKey
           body := newBody
           mutationId := spec.mutationId }]))

/-! ## Removing an entry -/

/-- What the journal says FIC owns.  `previousBody` is empty for a fresh
record. -/
structure PamProviderOwnershipExpectation where
  provider : Bytes
  policy : Bytes
  managedKey : Bytes
  body : Bytes
  previousBody : Bytes := []
  mutationId : UInt64
  deriving DecidableEq, Repr

/-- The body is canonical, of any kind, and of exactly this key. -/
def ownershipBodyMatchesKey (body managedKey provider : Bytes) : Bool :=
  if !isValidPamProviderManagedKey managedKey then false
  else
    match parseCanonicalPamProviderEntryBody body provider with
    | some (parsedKey, _) => parsedKey = managedKey
    | none =>
      if provider = pamPasswdqc then false
      else if body = managedKey then true
      else
        match parseCanonicalPamProviderFlagDisabledBody body with
        | some sentinelKey => sentinelKey = managedKey
        | none => false

def validateOwnershipExpectation (expectation : PamProviderOwnershipExpectation) :
    Except Bytes Unit :=
  if !isValidPamProviderIdentityToken expectation.provider ||
      !isValidPamProviderIdentityToken expectation.policy ||
      !isValidPamProviderManagedKey expectation.managedKey ||
      decide (expectation.mutationId = 0) then
    .error (lit "invalid FIC PAM ownership expectation")
  else if !ownershipBodyMatchesKey expectation.body expectation.managedKey
      expectation.provider then
    .error (lit ("FIC PAM ownership expectation requires a canonical applied body of " ++
      "exactly the managed key"))
  else if !expectation.previousBody.isEmpty &&
      (!ownershipBodyMatchesKey expectation.previousBody expectation.managedKey
          expectation.provider ||
        decide (expectation.previousBody = expectation.body)) then
    .error (lit ("FIC PAM ownership expectation requires a canonical previous body of " ++
      "the same managed key, different from the applied body"))
  else .ok ()

inductive RemovalOutcome
  | Removed
  | BlockRemoved
  | AlreadyAbsent
  deriving DecidableEq, Repr

structure PamProviderRemovalResult where
  outcome : RemovalOutcome
  content : Bytes
  deriving DecidableEq, Repr

def removePamProviderManagedEntry (content : Bytes)
    (expectation : PamProviderOwnershipExpectation)
    (request : PamProviderBlockPlacementRequest) :
    Except Bytes PamProviderRemovalResult := do
  validateOwnershipExpectation expectation
  let view ← parsePamProviderManagedBlock content
  if !view.present then .ok { outcome := .AlreadyAbsent, content := content }
  else if view.provider ≠ expectation.provider then
    .error (foreignProviderError view.provider)
  else
    match findEntry view.entries expectation.policy expectation.managedKey with
    | none => .ok { outcome := .AlreadyAbsent, content := content }
    | some entry =>
      if entry.mutationId ≠ expectation.mutationId then
        .error (lit ("FIC PAM entry (policy, key) совпадает, но physical mutation id " ++
          "отличается: удаление запрещено (ABA): ") ++
          toDecimal entry.mutationId.toNat ++ lit " != " ++
          toDecimal expectation.mutationId.toNat)
      else if entry.body ≠ expectation.body then
        .error (lit ("FIC PAM entry был изменён вручную (body drift): удаление " ++
          "запрещено"))
      else
        let remaining := view.entries.filter fun candidate =>
          !candidate.isFor expectation.policy expectation.managedKey
        let foreign := parsedForeign content view
        if remaining.isEmpty then .ok { outcome := .BlockRemoved, content := foreign }
        else
          .ok
            { outcome := .Removed
              content := placeBlock expectation.provider remaining foreign request }

end Fic.Pam
