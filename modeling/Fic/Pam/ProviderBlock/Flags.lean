import Fic.Pam.ProviderBlock.Entries

/-!
# Flag transitions and releases

A set-only flag is enabled by a bare key in the block and disabled by a
sentinel entry together with the suppression of every foreign line that would
enable it.  This file embeds `setPamProviderManagedFlagTransition`, which
wraps and unwraps foreign lines in place, and `releasePamProviderManagedFlag`,
the rollback side that unwraps them and removes the entry.
-/

namespace Fic.Pam

open Fic.Lib

/-! ## Specs -/

structure PamProviderFlagSpec where
  provider : Bytes
  policy : Bytes
  managedKey : Bytes
  enabled : Bool
  mutationId : UInt64
  keepSuppressionIds : List Bytes := []
  createSuppressionIds : List Bytes := []
  deriving DecidableEq, Repr

/-- The complaint about the kept ids, if any. -/
def keptIdError (ids : List Bytes) : Option Bytes :=
  ids.findSome? fun id =>
    if !isValidPamProviderSuppressionId id then
      some (lit "invalid kept suppression id for FIC PAM managed flag: " ++ id)
    else none

/-- The complaint about the new ids, if any. -/
def createdIdError (keep ids : List Bytes) : Option Bytes :=
  ids.findSome? fun id =>
    if !isValidPamProviderSuppressionId id then
      some (lit "invalid new suppression id for FIC PAM managed flag: " ++ id)
    else if keep.contains id then
      some (lit "suppression id is both kept and newly created: " ++ id)
    else none

/-- The first id that occurs again later. -/
def duplicateId : List Bytes → Option Bytes
  | [] => none
  | id :: ids => if ids.contains id then some id else duplicateId ids

def validateFlagSpec (spec : PamProviderFlagSpec) : Except Bytes Unit :=
  if !isValidPamProviderIdentityToken spec.provider ||
      !isValidPamProviderIdentityToken spec.policy then
    .error (lit "invalid provider/policy identity for FIC PAM managed flag")
  else if !isValidPamProviderManagedKey spec.managedKey then
    .error (lit "invalid managed key for FIC PAM managed flag: " ++ spec.managedKey)
  else if spec.mutationId = 0 then
    .error (lit "FIC PAM managed flag requires a non-zero mutation id")
  else if spec.enabled then
    if !spec.keepSuppressionIds.isEmpty || !spec.createSuppressionIds.isEmpty then
      .error (lit "enabled FIC PAM flag target must not own suppression wrappers")
    else .ok ()
  else
    match keptIdError spec.keepSuppressionIds with
    | some error => .error error
    | none =>
      match createdIdError spec.keepSuppressionIds spec.createSuppressionIds with
      | some error => .error error
      | none =>
        match duplicateId spec.createSuppressionIds with
        | some id => .error (lit "duplicate new suppression id: " ++ id)
        | none => .ok ()

/-! ## The managed entry of a transition -/

def PamProviderFlagSpec.targetBody (spec : PamProviderFlagSpec) : Bytes :=
  if spec.enabled then spec.managedKey else pamProviderFlagDisabledBody spec.managedKey

def PamProviderFlagSpec.targetKind (spec : PamProviderFlagSpec) :
    PamProviderManagedEntryKind :=
  if spec.enabled then .FlagEnabled else .FlagDisabled

def PamProviderFlagSpec.entry (spec : PamProviderFlagSpec) : PamProviderManagedEntry :=
  { policy := spec.policy
    managedKey := spec.managedKey
    body := spec.targetBody
    mutationId := spec.mutationId
    kind := spec.targetKind }

/-- The entries with the flag's entry in its target state, and whether that
changed anything. -/
def transitionEntries (entries : List PamProviderManagedEntry)
    (spec : PamProviderFlagSpec) : Except Bytes (List PamProviderManagedEntry × Bool) :=
  match findEntry entries spec.policy spec.managedKey with
  | some existing =>
    if existing.mutationId ≠ spec.mutationId then
      .error (lit ("FIC PAM entry (policy, key) уже существует с другим physical " ++
        "mutation id: ") ++ toDecimal existing.mutationId.toNat ++ lit " != " ++
        toDecimal spec.mutationId.toNat)
    else if existing.body ≠ spec.targetBody then
      .ok (entries.replaceF fun entry =>
        if entry.isFor spec.policy spec.managedKey then
          some { entry with body := spec.targetBody, kind := spec.targetKind }
        else none, true)
    else .ok (entries, false)
  | none => .ok (canonicalSort (entries ++ [spec.entry]), true)

/-! ## Foreign lines -/

/-- The line lies between the markers of the block. -/
def insideBlockSpan (found : Option Nat × Option Nat) (index : Nat) : Bool :=
  match found with
  | (some beginIndex, some endIndex) => beginIndex ≤ index && index ≤ endIndex
  | (some beginIndex, none) => beginIndex ≤ index
  | (none, _) => false

/-- The wrapper parsed at this line. -/
def wrapperAt (view : PamProviderBlockView) (index : Nat) :
    Option PamProviderSuppressedLine :=
  view.suppressions.find? fun candidate => candidate.lineIndex = index

/-- The wrapper was written for this flag and record. -/
def PamProviderSuppressedLine.ownedBy (wrapper : PamProviderSuppressedLine)
    (provider policy managedKey : Bytes) (mutationId : UInt64) : Bool :=
  wrapper.provider = provider && wrapper.policy = policy &&
    wrapper.managedKey = managedKey && wrapper.mutationId = mutationId

/-- One line outside the block in its target state, with the new ids left
over and whether the line changed. -/
def rebuildForeignLine (spec : PamProviderFlagSpec)
    (wrapper : Option PamProviderSuppressedLine) (line : Bytes) (ids : List Bytes) :
    Except Bytes (Bytes × List Bytes × Bool) :=
  match wrapper with
  | some wrapper =>
    if !wrapper.ownedBy spec.provider spec.policy spec.managedKey spec.mutationId then
      .ok (line, ids, false)
    else if spec.enabled then
      .ok (wrapper.rawLine ++ (splitPhysicalLine line).2, ids, true)
    else if !spec.keepSuppressionIds.contains wrapper.suppressionId then
      .error (lit ("FIC PAM suppression wrapper of this record carries an id outside " ++
        "keep∪create (fail closed): ") ++ wrapper.suppressionId)
    else .ok (line, ids, false)
  | none =>
    if !spec.enabled &&
        pamProviderFlagLineIsActiveOccurrence spec.provider (splitPhysicalLine line).1
          spec.managedKey then
      match ids with
      | [] =>
        .error (lit ("FIC PAM flag transition ran out of new suppression ids: an active " ++
          "occurrence cannot be wrapped (fail closed)"))
      | id :: ids =>
        .ok (pamProviderSuppressionWrapperLine spec.provider spec.policy spec.managedKey
          spec.mutationId id (splitPhysicalLine line).1 ++ (splitPhysicalLine line).2,
          ids, true)
    else .ok (line, ids, false)

/-- All lines in their target state; the lines of the block stay. -/
def rebuildLines (spec : PamProviderFlagSpec) (view : PamProviderBlockView)
    (found : Option Nat × Option Nat) :
    Nat → List Bytes → List Bytes → Except Bytes (List Bytes × List Bytes × Bool)
  | _, [], ids => .ok ([], ids, false)
  | index, line :: lines, ids => do
    let (line, ids, changed) ←
      if insideBlockSpan found index then .ok (line, ids, false)
      else rebuildForeignLine spec (wrapperAt view index) line ids
    let (lines, ids, changedBehind) ← rebuildLines spec view found (index + 1) lines ids
    .ok (line :: lines, ids, changed || changedBehind)

/-- The foreign bytes of the rebuilt lines. -/
def rebuiltForeign (view : PamProviderBlockView) (found : Option Nat × Option Nat)
    (rebuilt : List Bytes) : Bytes :=
  if view.present then
    match found with
    | (some beginIndex, some endIndex) =>
      if view.atBeginning then (rebuilt.drop (endIndex + 1)).flatten
      else
        stripLead view.leadOwnedNewline (rebuilt.take beginIndex).flatten ++
          (rebuilt.drop (endIndex + 1)).flatten
    | _ => rebuilt.flatten -- a parsed block has both markers
  else rebuilt.flatten

/-! ## The transition -/

def setPamProviderManagedFlagTransition (content : Bytes) (spec : PamProviderFlagSpec)
    (request : PamProviderBlockPlacementRequest) :
    Except Bytes PamProviderMutationResult := do
  validateFlagSpec spec
  let view ← parsePamProviderManagedBlock content
  if view.present && decide (view.provider ≠ spec.provider) then
    .error (foreignProviderError view.provider)
  else
    let (entries, entryChanged) ← transitionEntries view.entries spec
    let found := findBlockLineIndices content
    let (rebuilt, leftIds, lineChanged) ←
      rebuildLines spec view found 0 (physicalLines content) spec.createSuppressionIds
    if !spec.enabled && !leftIds.isEmpty then
      .error (lit ("FIC PAM flag transition received more new suppression ids than there " ++
        "are active occurrences (fail closed)"))
    else if !(entryChanged || lineChanged) && view.satisfiesPlacement request then
      .ok { outcome := .NoOp, content := content }
    else
      .ok
        { outcome := .Committed
          content :=
            placeBlock spec.provider entries (rebuiltForeign view found rebuilt) request }

/-! ## The release -/

/-- One flag state the journal authorises as a release source. -/
structure PamProviderFlagOwnedStateCandidate where
  entryKind : PamProviderManagedEntryKind := .FlagDisabled
  authorizedSuppressionIds : List Bytes := []
  deriving DecidableEq, Repr

structure PamProviderFlagReleaseExpectation where
  provider : Bytes
  policy : Bytes
  managedKey : Bytes
  mutationId : UInt64
  candidates : List PamProviderFlagOwnedStateCandidate
  deriving DecidableEq, Repr

/-- The complaint about a candidate, if any. -/
def candidateError (candidate : PamProviderFlagOwnedStateCandidate) : Option Bytes :=
  if candidate.entryKind ≠ .FlagEnabled ∧ candidate.entryKind ≠ .FlagDisabled then
    some (lit "release candidate carries a non-flag entry kind")
  else if candidate.entryKind = .FlagEnabled ∧
      !candidate.authorizedSuppressionIds.isEmpty then
    some (lit "enabled flag candidate must not authorize suppression ids")
  else
    candidate.authorizedSuppressionIds.findSome? fun id =>
      if !isValidPamProviderSuppressionId id then
        some (lit "release candidate carries an invalid suppression id: " ++ id)
      else none

def validateFlagReleaseExpectation (expectation : PamProviderFlagReleaseExpectation) :
    Except Bytes Unit :=
  if !isValidPamProviderIdentityToken expectation.provider ||
      !isValidPamProviderIdentityToken expectation.policy ||
      !isValidPamProviderManagedKey expectation.managedKey then
    .error (lit "invalid release expectation identity tokens")
  else if expectation.mutationId = 0 then
    .error (lit "release expectation carries no journal mutation id")
  else if expectation.candidates.isEmpty then
    .error (lit "release expectation carries no authorized ownership state")
  else
    match expectation.candidates.findSome? candidateError with
    | some error => .error error
    | none => .ok ()

/-- The ids of the wrappers of this identity, which must all carry the
record's mutation id. -/
def physicalWrapperIds (expectation : PamProviderFlagReleaseExpectation) :
    List PamProviderSuppressedLine → Except Bytes (List Bytes)
  | [] => .ok []
  | wrapper :: wrappers =>
    if wrapper.provider ≠ expectation.provider ∨ wrapper.policy ≠ expectation.policy ∨
        wrapper.managedKey ≠ expectation.managedKey then
      physicalWrapperIds expectation wrappers
    else if wrapper.mutationId ≠ expectation.mutationId then
      .error (lit ("FIC PAM suppression wrapper того же identity несёт чужой physical " ++
        "mutation id: ") ++ toDecimal wrapper.mutationId.toNat ++ lit " != " ++
        toDecimal expectation.mutationId.toNat ++ lit " (release запрещён)")
    else (physicalWrapperIds expectation wrappers).map (wrapper.suppressionId :: ·)

/-- The candidate describes the physical entry and covers the wrappers. -/
def PamProviderFlagOwnedStateCandidate.matches
    (candidate : PamProviderFlagOwnedStateCandidate)
    (entry : Option PamProviderManagedEntry) (wrapperIds : List Bytes) : Bool :=
  (match entry with
    | some entry => entry.kind = candidate.entryKind
    | none => candidate.entryKind = .FlagDisabled) &&
    wrapperIds.all fun id => candidate.authorizedSuppressionIds.contains id

/-- Unwraps the owned wrappers in place; also says whether a line changed. -/
def unwrapLines (expectation : PamProviderFlagReleaseExpectation)
    (view : PamProviderBlockView) (found : Option Nat × Option Nat) :
    Nat → List Bytes → Bytes × Bool
  | _, [] => ([], false)
  | index, line :: lines =>
    let rest := unwrapLines expectation view found (index + 1) lines
    match (if insideBlockSpan found index then none else wrapperAt view index) with
    | some wrapper =>
      if wrapper.ownedBy expectation.provider expectation.policy expectation.managedKey
          expectation.mutationId then
        let restored := wrapper.rawLine ++ (splitPhysicalLine line).2
        (restored ++ rest.1, decide (restored ≠ line) || rest.2)
      else (line ++ rest.1, rest.2)
    | none => (line ++ rest.1, rest.2)

inductive ReleaseOutcome
  | Released
  | AlreadyAbsent
  deriving DecidableEq, Repr

structure PamProviderFlagReleaseResult where
  outcome : ReleaseOutcome
  changed : Bool
  content : Bytes
  deriving DecidableEq, Repr

def releasePamProviderManagedFlag (content : Bytes)
    (expectation : PamProviderFlagReleaseExpectation)
    (request : PamProviderBlockPlacementRequest) :
    Except Bytes PamProviderFlagReleaseResult := do
  validateFlagReleaseExpectation expectation
  let view ← parsePamProviderManagedBlock content
  if view.present && decide (view.provider ≠ expectation.provider) then
    .error (foreignProviderError view.provider)
  else
    let wrapperIds ← physicalWrapperIds expectation view.suppressions
    let entry :=
      if view.present then findEntry view.entries expectation.policy expectation.managedKey
      else none
    if entry.any fun entry => entry.mutationId ≠ expectation.mutationId then
      .error (lit ("FIC PAM entry (policy, key) совпадает, но physical mutation id " ++
        "отличается: ") ++ toDecimal (entry.elim 0 (·.mutationId.toNat)) ++ lit " != " ++
        toDecimal expectation.mutationId.toNat ++ lit " (release запрещён)")
    else if entry.isNone && wrapperIds.isEmpty then
      .ok { outcome := .AlreadyAbsent, changed := false, content := content }
    else
      let matched := expectation.candidates.filter (·.matches entry wrapperIds)
      if matched.isEmpty then
        if entry.isSome then
          .error (lit ("FIC PAM entry kind не совпадает ни с одной авторизованной " ++
            "ownership state (fail closed)"))
        else
          .error (lit ("FIC PAM wrapper ids не входят ни в одну авторизованную journal " ++
            "ownership state (fail closed)"))
      else
        let authorizedUnion := matched.flatMap (·.authorizedSuppressionIds)
        match wrapperIds.find? fun id => !authorizedUnion.contains id with
        | some id =>
          .error (lit ("FIC PAM suppression wrapper несёт id вне авторизованного набора " ++
            "(fail closed): ") ++ id)
        | none =>
          let (unwrapped, changed) :=
            unwrapLines expectation view (findBlockLineIndices content) 0
              (physicalLines content)
          -- a failed removal never carries the outcome `AlreadyAbsent`
          let removal ← removePamProviderManagedEntry unwrapped
            { provider := expectation.provider
              policy := expectation.policy
              managedKey := expectation.managedKey
              body := entry.elim
                (pamProviderFlagEntryBody .FlagDisabled expectation.managedKey) (·.body)
              mutationId := expectation.mutationId } request
          .ok
            { outcome := .Released
              changed := changed || decide (removal.outcome ≠ .AlreadyAbsent)
              content := removal.content }

end Fic.Pam
