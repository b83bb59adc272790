import Fic.Pam.ProviderBlock.Suppression

/-!
# The strict parser of the managed block

`parsePamProviderManagedBlock` walks over the physical lines of a provider
file with the state `ParseState`: where the block began and ended, the entry
being read, and the entries and suppression wrappers found so far.  Every
mention of the reserved marker namespace has to be a canonical marker in a
valid position; everything outside the block is opaque otherwise.
-/

namespace Fic.Pam

open Fic.Lib

variable {line : Bytes} {i : Nat}

/-- One proven FIC-owned entry inside the block. -/
structure PamProviderManagedEntry where
  policy : Bytes := []
  managedKey : Bytes := []
  body : Bytes := []
  mutationId : UInt64 := 0
  kind : PamProviderManagedEntryKind := .Assignment
  deriving DecidableEq, Repr

/-- Where the block was found. -/
inductive PamProviderBlockPlacement
  | Absent
  | AtBeginning
  | AtEnd
  | Misplaced
  deriving DecidableEq, Repr

/-- Where the caller wants the block. -/
inductive PamProviderBlockPlacementRequest
  | Beginning
  | End
  deriving DecidableEq, Repr

structure PamProviderBlockView where
  present : Bool := false
  atBeginning : Bool := false
  atEnd : Bool := false
  leadOwnedNewline : Bool := false
  effectivePlacement : PamProviderBlockPlacement := .Absent
  provider : Bytes := []
  entries : List PamProviderManagedEntry := []
  suppressions : List PamProviderSuppressedLine := []
  deriving DecidableEq, Repr

def PamProviderBlockView.satisfiesPlacement (view : PamProviderBlockView)
    (request : PamProviderBlockPlacementRequest) : Bool :=
  if !view.present then true
  else
    match request with
    | .Beginning => view.atBeginning
    | .End => view.atEnd

/-- The order of entries in a block: by policy, then by key. -/
def entryBefore (left right : PamProviderManagedEntry) : Prop :=
  if left.policy ≠ right.policy then left.policy < right.policy
  else left.managedKey < right.managedKey

instance : DecidableRel entryBefore := fun left right =>
  inferInstanceAs (Decidable (if left.policy ≠ right.policy then _ else _))

/-- The stable sort by `entryBefore`. -/
def canonicalSort (entries : List PamProviderManagedEntry) :
    List PamProviderManagedEntry :=
  entries.insertionSort fun left right => ¬ entryBefore right left

/-! ## One line -/

/-- The parser's variables between two lines. -/
structure ParseState where
  beginIndex : Option Nat := none
  endIndex : Option Nat := none
  insideEntry : Bool := false
  entryBodySeen : Bool := false
  entryCount : Nat := 0
  provider : Bytes := []
  leadOwnedNewline : Bool := false
  entries : List PamProviderManagedEntry := []
  suppressions : List PamProviderSuppressedLine := []
  current : PamProviderManagedEntry := {}
  deriving DecidableEq, Repr

variable {st st' : ParseState}

def ParseState.insideBlock (st : ParseState) : Bool :=
  st.beginIndex.isSome && st.endIndex.isNone

/-- The complaint about the first entry that `current` duplicates. -/
def entryConflict (entries : List PamProviderManagedEntry)
    (current : PamProviderManagedEntry) : Option Bytes :=
  entries.findSome? fun existing =>
    if existing.policy = current.policy ∧ existing.managedKey = current.managedKey then
      some (lit ("дублированный entry (ownership tuple) внутри FIC PAM provider " ++
        "block: ") ++ current.policy ++ lit "/" ++ current.managedKey)
    else if existing.mutationId = current.mutationId then
      some (lit ("дублированный physical mutation id внутри FIC PAM provider block: " ++
        "один journal record не может доказывать два entry"))
    else none

/-- A suppression wrapper is accepted outside the block only. -/
def parseSuppressLine (index : Nat) (physicalLine : Bytes) (st : ParseState) :
    Except Bytes ParseState :=
  if st.insideBlock then
    .error (lit "FIC PAM suppression wrapper внутри provider block (fail closed): " ++
      lineContent physicalLine)
  else
    match parsePamProviderSuppressionWrapper (physicalLineContent physicalLine) with
    | .error wrapperError =>
      .error (lit "foreign FIC-подобный malformed SUPPRESS marker: " ++ wrapperError)
    | .ok wrapper =>
      if st.suppressions.any fun existing =>
          existing.suppressionId = wrapper.suppressionId then
        .error (lit ("дублированный suppression id внутри shared PAM provider " ++
          "configuration: ") ++ wrapper.suppressionId)
      else
        .ok { st with
          suppressions := st.suppressions ++ [{ wrapper with lineIndex := index }] }

def parseBlockEndLine (index : Nat) (st : ParseState) : Except Bytes ParseState :=
  if !st.insideBlock || st.insideEntry then
    .error (lit "FIC PAM provider block END без BEGIN или внутри entry")
  else if st.entryCount = 0 then
    .error (lit "пустой FIC PAM provider block")
  else .ok { st with endIndex := some index }

def parseBlockBeginLine (index : Nat) (provider : Bytes) (lead : Bool) (st : ParseState) :
    Except Bytes ParseState :=
  if st.insideBlock then
    .error (lit "дублированный или вложенный FIC PAM provider block BEGIN")
  else if st.beginIndex.isSome then
    .error (lit "дублированный FIC PAM provider block")
  else
    .ok { st with
      beginIndex := some index
      provider := provider
      leadOwnedNewline := lead }

def parseEntryBeginLine (policy : Bytes) (mutationId : UInt64) (st : ParseState) :
    Except Bytes ParseState :=
  if !st.insideBlock || st.insideEntry then
    .error (lit "FIC PAM entry BEGIN вне блока или внутри другого entry")
  else
    .ok { st with
      insideEntry := true
      entryBodySeen := false
      current := { policy := policy, mutationId := mutationId } }

def parseEntryEndLine (st : ParseState) : Except Bytes ParseState :=
  if !st.insideBlock || !st.insideEntry || !st.entryBodySeen then
    .error (lit "FIC PAM entry END без BEGIN, без body или дублированный")
  else
    match entryConflict st.entries st.current with
    | some conflict => .error conflict
    | none =>
      .ok { st with
        entries := st.entries ++ [st.current]
        insideEntry := false
        entryCount := st.entryCount + 1 }

/-- The body line of the current entry was recognised. -/
def ParseState.withBody (st : ParseState) (key body : Bytes)
    (kind : PamProviderManagedEntryKind) : ParseState :=
  { st with
    current := { st.current with managedKey := key, body := body, kind := kind }
    entryBodySeen := true }

/-- The only marker allowed as a body line is the disabled-flag sentinel. -/
def parseSentinelLine (physicalLine : Bytes) (st : ParseState) :
    Except Bytes ParseState :=
  let malformed : Except Bytes ParseState :=
    .error (lit ("foreign FIC-подобный malformed marker в shared PAM provider " ++
      "configuration: ") ++ lineContent physicalLine)
  let physical := physicalLineContent physicalLine
  if st.provider ≠ pamPasswdqc ∧ st.insideBlock ∧ st.insideEntry ∧ !st.entryBodySeen then
    match parseCanonicalPamProviderFlagDisabledBody physical with
    | some sentinelKey => .ok (st.withBody sentinelKey physical .FlagDisabled)
    | none => malformed
  else malformed

/-- A line that mentions the reserved namespace. -/
def parseMarkerLine (index : Nat) (physicalLine : Bytes) (st : ParseState) :
    Except Bytes ParseState :=
  let line := lineContent physicalLine
  if kPamProviderSuppressMarkerPrefix <+: physicalLineContent physicalLine then
    parseSuppressLine index physicalLine st
  else if line = kPamProviderBlockEndMarker then parseBlockEndLine index st
  else
    match parseBlockBeginMarker line with
    | .ok (provider, lead) => parseBlockBeginLine index provider lead st
    | .error _ =>
      match parseEntryBeginMarker line with
      | .ok (policy, mutationId) => parseEntryBeginLine policy mutationId st
      | .error _ =>
        if line = kPamProviderEntryEndMarker then parseEntryEndLine st
        else parseSentinelLine physicalLine st

/-- The body line of an entry: an assignment or a bare flag key. -/
def parseBodyLine (physicalLine : Bytes) (st : ParseState) : Except Bytes ParseState :=
  let bodyLine := physicalLineContent physicalLine
  if st.entryBodySeen then
    .error (lit "FIC PAM entry содержит более одной строки значения")
  else if bodyLine.isEmpty then
    .error (lit "пустая строка внутри FIC PAM provider entry")
  else
    match parseCanonicalPamProviderEntryBody bodyLine st.provider with
    | some (parsedKey, _) => .ok (st.withBody parsedKey bodyLine .Assignment)
    | none =>
      if st.provider ≠ pamPasswdqc ∧ isValidPamProviderManagedKey bodyLine then
        .ok (st.withBody bodyLine bodyLine .FlagEnabled)
      else
        .error (lit ("строка внутри FIC PAM provider entry не является canonical " ++
          "assignment, bare flag key или disabled sentinel: ") ++ bodyLine)

def parseLine (index : Nat) (physicalLine : Bytes) (st : ParseState) :
    Except Bytes ParseState :=
  if mentionsReservedNamespace (lineContent physicalLine) then
    parseMarkerLine index physicalLine st
  else if !st.insideBlock then .ok st
  else if st.insideEntry then parseBodyLine physicalLine st
  else
    .error (lit "неожиданная строка внутри FIC PAM provider block: " ++
      lineContent physicalLine)

/-! ## The whole file -/

def parseLines : Nat → List Bytes → ParseState → Except Bytes ParseState
  | _, [], st => .ok st
  | index, line :: lines, st =>
    match parseLine index line st with
    | .error error => .error error
    | .ok st => parseLines (index + 1) lines st

/-- The view of the block that ran from line `beginIndex` to `endIndex`. -/
def blockView (content : Bytes) (lines : List Bytes) (beginIndex endIndex : Nat)
    (st : ParseState) : Except Bytes PamProviderBlockView :=
  let beginOffset := ((lines.take beginIndex).map List.length).sum
  if st.leadOwnedNewline ∧ (beginOffset = 0 ∨ content[beginOffset - 1]? ≠ some lf) then
    .error (lit ("FIC PAM provider block объявляет lead=newline, но байт " ++
      "непосредственно перед BEGIN не LF (fail closed)"))
  else
    let atBeginning : Bool := beginIndex = 0
    let atEnd : Bool := endIndex + 1 = lines.length
    .ok
      { present := true
        atBeginning := atBeginning
        atEnd := atEnd
        leadOwnedNewline := st.leadOwnedNewline
        effectivePlacement :=
          if atBeginning then .AtBeginning else if atEnd then .AtEnd else .Misplaced
        provider := st.provider
        entries := canonicalSort st.entries
        suppressions := st.suppressions }

def finishParse (content : Bytes) (lines : List Bytes) (st : ParseState) :
    Except Bytes PamProviderBlockView :=
  if st.insideEntry then .error (lit "FIC PAM entry не закрыт маркером END")
  else
    match st.beginIndex, st.endIndex with
    | none, _ => .ok { suppressions := st.suppressions }
    | some _, none => .error (lit "FIC PAM provider block не закрыт маркером END")
    | some beginIndex, some endIndex => blockView content lines beginIndex endIndex st

def parsePamProviderManagedBlock (content : Bytes) :
    Except Bytes PamProviderBlockView :=
  match parseLines 0 (physicalLines content) {} with
  | .error error => .error error
  | .ok st => finishParse content (physicalLines content) st

/-! ## What one line can do -/

/-- The ways the parser accepts a line, with everything it checked. -/
inductive LineStep (i : Nat) (line : Bytes) (st : ParseState) : ParseState → Prop
  | foreign (hplain : mentionsReservedNamespace (lineContent line) = false)
      (hblock : st.insideBlock = false) : LineStep i line st st
  | wrapper {wrapper : PamProviderSuppressedLine} (hblock : st.insideBlock = false)
      (hparse : parsePamProviderSuppressionWrapper (physicalLineContent line) = .ok wrapper)
      (hfresh : ∀ existing ∈ st.suppressions,
        existing.suppressionId ≠ wrapper.suppressionId) :
      LineStep i line st
        { st with suppressions := st.suppressions ++ [{ wrapper with lineIndex := i }] }
  | blockBegin {provider : Bytes} {lead : Bool}
      (hparse : parseBlockBeginMarker (lineContent line) = .ok (provider, lead))
      (hbegin : st.beginIndex = none) :
      LineStep i line st
        { st with beginIndex := some i, provider := provider, leadOwnedNewline := lead }
  | blockEnd (hline : lineContent line = kPamProviderBlockEndMarker)
      (hblock : st.insideBlock = true) (hentry : st.insideEntry = false)
      (hcount : st.entryCount ≠ 0) : LineStep i line st { st with endIndex := some i }
  | entryBegin {policy : Bytes} {id : UInt64}
      (hparse : parseEntryBeginMarker (lineContent line) = .ok (policy, id))
      (hblock : st.insideBlock = true) (hentry : st.insideEntry = false) :
      LineStep i line st
        { st with
          insideEntry := true
          entryBodySeen := false
          current := { policy := policy, mutationId := id } }
  | entryEnd (hline : lineContent line = kPamProviderEntryEndMarker)
      (hblock : st.insideBlock = true) (hentry : st.insideEntry = true)
      (hbody : st.entryBodySeen = true)
      (hconflict : entryConflict st.entries st.current = none) :
      LineStep i line st
        { st with
          entries := st.entries ++ [st.current]
          insideEntry := false
          entryCount := st.entryCount + 1 }
  | body {key : Bytes} {kind : PamProviderManagedEntryKind}
      (hblock : st.insideBlock = true) (hentry : st.insideEntry = true)
      (hbody : st.entryBodySeen = false) :
      LineStep i line st (st.withBody key (physicalLineContent line) kind)

private theorem parseBodyLine_step (hblock : st.insideBlock = true)
    (hentry : st.insideEntry = true) (h : parseBodyLine line st = .ok st') :
    LineStep i line st st' := by
  have hseen : st.entryBodySeen = false := by
    by_contra hseen
    rw [Bool.not_eq_false] at hseen
    simp [parseBodyLine, hseen] at h
  simp only [parseBodyLine, hseen, Bool.false_eq_true, if_false] at h
  split at h
  · contradiction
  · split at h
    · cases h
      exact .body hblock hentry hseen
    · split at h
      · cases h
        exact .body hblock hentry hseen
      · contradiction

private theorem parseSentinelLine_step (h : parseSentinelLine line st = .ok st') :
    LineStep i line st st' := by
  simp only [parseSentinelLine] at h
  split_ifs at h with hcond
  split at h
  · cases h
    exact .body hcond.2.1 hcond.2.2.1 (by simpa using hcond.2.2.2)
  · contradiction

private theorem parseSuppressLine_step (h : parseSuppressLine i line st = .ok st') :
    LineStep i line st st' := by
  unfold parseSuppressLine at h
  split_ifs at h with hblock
  split at h
  · contradiction
  · rename_i wrapper hparse
    split_ifs at h with hdup
    cases h
    refine .wrapper (by simpa using hblock) hparse ?_
    intro existing hmem heq
    exact hdup (List.any_eq_true.mpr ⟨existing, hmem, decide_eq_true heq⟩)

private theorem parseBlockEndLine_step (hline : lineContent line = kPamProviderBlockEndMarker)
    (h : parseBlockEndLine i st = .ok st') : LineStep i line st st' := by
  unfold parseBlockEndLine at h
  split_ifs at h with hblock hcount
  cases h
  simp only [Bool.or_eq_true, Bool.not_eq_true', not_or, Bool.not_eq_false,
    Bool.not_eq_true] at hblock
  exact .blockEnd hline hblock.1 hblock.2 hcount

private theorem parseBlockBeginLine_step {provider : Bytes} {lead : Bool}
    (hparse : parseBlockBeginMarker (lineContent line) = .ok (provider, lead))
    (h : parseBlockBeginLine i provider lead st = .ok st') : LineStep i line st st' := by
  unfold parseBlockBeginLine at h
  split_ifs at h with hblock hbegin
  cases h
  exact .blockBegin hparse (by simpa using hbegin)

private theorem parseEntryBeginLine_step {policy : Bytes} {id : UInt64}
    (hparse : parseEntryBeginMarker (lineContent line) = .ok (policy, id))
    (h : parseEntryBeginLine policy id st = .ok st') : LineStep i line st st' := by
  unfold parseEntryBeginLine at h
  split_ifs at h with hblock
  cases h
  simp only [Bool.or_eq_true, Bool.not_eq_true', not_or, Bool.not_eq_false,
    Bool.not_eq_true] at hblock
  exact .entryBegin hparse hblock.1 hblock.2

private theorem parseEntryEndLine_step (hline : lineContent line = kPamProviderEntryEndMarker)
    (h : parseEntryEndLine st = .ok st') : LineStep i line st st' := by
  unfold parseEntryEndLine at h
  split at h
  · contradiction
  · rename_i hblock
    split at h
    · contradiction
    · rename_i hconflict
      cases h
      simp only [Bool.or_eq_true, Bool.not_eq_true', not_or, Bool.not_eq_false] at hblock
      exact .entryEnd hline hblock.1.1 hblock.1.2 hblock.2 hconflict

private theorem parseMarkerLine_step (h : parseMarkerLine i line st = .ok st') :
    LineStep i line st st' := by
  unfold parseMarkerLine at h
  dsimp only at h
  split at h
  · exact parseSuppressLine_step h
  · split at h
    · rename_i hend
      exact parseBlockEndLine_step hend h
    · split at h
      · rename_i hparse
        exact parseBlockBeginLine_step hparse h
      · split at h
        · rename_i hparse
          exact parseEntryBeginLine_step hparse h
        · split at h
          · rename_i hend
            exact parseEntryEndLine_step hend h
          · exact parseSentinelLine_step h

theorem parseLine_step (h : parseLine i line st = .ok st') : LineStep i line st st' := by
  unfold parseLine at h
  split_ifs at h with hmention hblock hentry
  · exact parseMarkerLine_step h
  · cases h
    exact .foreign (by simpa using hmention) (by simpa using hblock)
  · exact parseBodyLine_step (by simpa using hblock) hentry h

end Fic.Pam
