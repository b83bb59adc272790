import Fic.Pam.ProviderBlock.Entries

/-!
# How the lines of a rendered file parse

A file with a FIC block is laid out as foreign lines, the block's lines, and
foreign lines again.  This file names these lines (`entryLines`,
`blockLines`, `ForeignLines`) and has one lemma per kind of line,
`parseLine_…`, and the run over foreign lines, `parseLines_foreign`.
`Decode.lean` puts them together to the parse of a whole file.
-/

namespace Fic.Pam

open Fic.Lib

variable {rest text : Bytes} {i : Nat} {kind : PamProviderManagedEntryKind} {p : UInt8 → Bool}
  {key marker provider : Bytes} {st : ParseState}

/-! ## Words and ends of lines -/

variable {start : Bytes}

/-- A text starts with one of two words at most if none of them continues the other. -/
theorem not_prefix_of_apart (h : start <+: text) (hmarker : ¬marker <+: start)
    (hstart : ¬start <+: marker) : ¬marker <+: text :=
  fun hpre => (List.prefix_or_prefix_of_prefix hpre h).elim hmarker hstart

theorem ne_of_apart (h : start <+: text) (hstart : ¬start <+: marker) :
    text ≠ marker :=
  fun heq => hstart (heq ▸ h)

/-- Dropping bytes a word does not contain keeps every occurrence of it. -/
theorem infix_rdropWhile_iff {word : Bytes} (hword : ∀ c ∈ word, p c = false) :
    word <:+: text.rdropWhile p ↔ word <:+: text := by
  constructor
  · exact fun h => h.trans (List.rdropWhile_prefix p text).isInfix
  · intro h
    induction text using List.reverseRecOn with
    | nil => simpa using h
    | append_singleton text c ih =>
      by_cases hc : p c = true
      · rw [List.rdropWhile_concat_pos _ _ _ hc]
        refine ih (infix_of_infix_concat ?_ h)
        intro hmem
        rw [hword c hmem] at hc
        contradiction
      · rw [List.rdropWhile_concat_neg _ _ _ hc]
        exact h

private theorem namespace_not_space :
    kPamProviderReservedMarkerNamespace.all (fun c => !isSpace c) = true := rfl

/-- Terminators and trailing blanks do not hide the reserved namespace. -/
theorem mentionsReservedNamespace_lineContent (line : Bytes) :
    mentionsReservedNamespace (lineContent line) = mentionsReservedNamespace line := by
  have hnot : ∀ p : UInt8 → Bool, (∀ c, p c = true → isSpace c = true) →
      ∀ c ∈ kPamProviderReservedMarkerNamespace, p c = false := by
    intro p hp c hc
    have hspace := List.all_eq_true.mp namespace_not_space c hc
    by_contra hpc
    rw [Bool.not_eq_false] at hpc
    simp [hp c hpc] at hspace
  rw [Bool.eq_iff_iff, mentionsReservedNamespace, mentionsReservedNamespace,
    Bytes.hasWord_iff, Bytes.hasWord_iff, lineContent,
    infix_rdropWhile_iff (hnot _ fun _ => isSpace_of_isBlank),
    infix_rdropWhile_iff (hnot _ fun _ => isSpace_of_isLineEnd)]

theorem mentionsReservedNamespace_of_start (hmarker : mentionsReservedNamespace marker = true)
    (h : marker <+: text) : mentionsReservedNamespace text = true := by
  rw [mentionsReservedNamespace, Bytes.hasWord_iff] at hmarker ⊢
  exact hmarker.trans h.isInfix

/-! ## The lines of a block -/

def terminated (text : Bytes) : Bytes := text ++ [lf]

def entryLines (entry : PamProviderManagedEntry) : List Bytes :=
  [terminated (pamProviderEntryBeginMarker entry.policy entry.mutationId),
    terminated entry.body, terminated kPamProviderEntryEndMarker]

def blockLines (provider : Bytes) (entries : List PamProviderManagedEntry)
    (lead : Bool) : List Bytes :=
  terminated (pamProviderBlockBeginMarker provider lead) ::
    (entries.flatMap entryLines ++ [terminated kPamProviderBlockEndMarker])

/-- The body lines the parser accepts, with the kind it gives them.  An
assignment or a bare key must not mention the reserved namespace: such a
line would be taken for a marker. -/
inductive BodyReadable (provider key : Bytes) :
    Bytes → PamProviderManagedEntryKind → Prop
  | assignment {body value : Bytes}
      (hparse : parseCanonicalPamProviderEntryBody body provider = some (key, value))
      (hplain : mentionsReservedNamespace body = false) :
      BodyReadable provider key body .Assignment
  | enabled (hprovider : provider ≠ pamPasswdqc)
      (hkey : isValidPamProviderManagedKey key = true)
      (hplain : mentionsReservedNamespace key = false) :
      BodyReadable provider key key .FlagEnabled
  | disabled (hprovider : provider ≠ pamPasswdqc)
      (hkey : isValidPamProviderManagedKey key = true) :
      BodyReadable provider key (pamProviderFlagDisabledBody key) .FlagDisabled

/-- An entry that reads back from its lines. -/
structure EntryReadable (provider : Bytes) (entry : PamProviderManagedEntry) : Prop where
  policy : isValidPamProviderIdentityToken entry.policy = true
  mutationId : entry.mutationId ≠ 0
  body : BodyReadable provider entry.managedKey entry.body entry.kind

theorem entryValue_spec {value : Bytes} (h : isValidPamProviderEntryValue value = true) :
    value ≠ [] ∧ lf ∉ value ∧ endsVisible value = true := by
  unfold isValidPamProviderEntryValue at h
  split_ifs at h with hbad
  simp only [Bool.or_eq_true, not_or, List.isEmpty_iff, Bool.not_eq_true',
    Bool.not_eq_false] at hbad
  obtain ⟨⟨hne, hcontrols⟩, -⟩ := hbad
  refine ⟨hne, ?_, ?_⟩
  · intro hmem
    simp only [pamProviderValueFreeOfControls, Bool.and_eq_true, Bool.not_eq_true',
      List.any_eq_false] at hcontrols
    exact hcontrols.1 lf hmem (by decide)
  · rw [Bool.and_eq_true] at h
    unfold endsVisible
    rw [List.getLast?_eq_some_getLast hne] at h ⊢
    simpa using h.2

theorem isSpace_of_isManagedKeyChar {c : UInt8} (h : isManagedKeyChar c = true) :
    isSpace c = false := by
  have hunderscore : '_'.toUInt8 = 95 := rfl
  have hdash : '-'.toUInt8 = 45 := rfl
  simp only [isManagedKeyChar, isAlnum, isSpace, hunderscore, hdash] at h ⊢
  grind

theorem managedKey_endsVisible (h : isValidPamProviderManagedKey key = true) :
    endsVisible key = true := by
  rw [isValidPamProviderManagedKey, Bool.and_eq_true] at h
  refine endsVisible_of_all (List.all_eq_true.mpr fun c hc => ?_)
  rw [isSpace_of_isManagedKeyChar (List.all_eq_true.mp h.2 c hc)]
  rfl

theorem BodyReadable.line {body : Bytes} (h : BodyReadable provider key body kind) :
    body ≠ [] ∧ lf ∉ body ∧ endsVisible body = true := by
  cases h with
  | @assignment _ value hparse hplain =>
    obtain ⟨rfl, hkey, hvalue⟩ := parseCanonicalPamProviderEntryBody_eq_some hparse
    obtain ⟨hne, hlf, hends⟩ := entryValue_spec hvalue
    refine ⟨by simp [pamProviderEntryBody, hne], ?_, ?_⟩
    · have hkeylf : lf ∉ key := not_mem_managedKey hkey (by decide)
      have hdelim : lf ∉ pamProviderEntryDelimiter provider := by
        unfold pamProviderEntryDelimiter
        split_ifs <;> decide
      simp [pamProviderEntryBody, hkeylf, hdelim, hlf]
    · rw [pamProviderEntryBody, endsVisible_append hne]
      exact hends
  | enabled hprovider hkey hplain =>
    exact ⟨managedKey_ne_nil hkey, not_mem_managedKey hkey (by decide),
      managedKey_endsVisible hkey⟩
  | disabled hprovider hkey =>
    refine ⟨by simp [pamProviderFlagDisabledBody, managedKey_ne_nil hkey], ?_, ?_⟩
    · have hkeylf : lf ∉ key := not_mem_managedKey hkey (by decide)
      have hmarker : lf ∉ kPamProviderFlagDisabledSentinelPrefix := by decide
      simp [pamProviderFlagDisabledBody, hkeylf, hmarker]
    · rw [pamProviderFlagDisabledBody, endsVisible_append (managedKey_ne_nil hkey)]
      exact managedKey_endsVisible hkey

/-! ## One line of a block -/

theorem blockBegin_prefix (provider : Bytes) (lead : Bool) :
    kPamProviderBlockBeginMarkerPrefix <+: pamProviderBlockBeginMarker provider lead := by
  rw [pamProviderBlockBeginMarker, List.append_assoc, List.append_assoc]
  exact List.prefix_append _ _

theorem entryBegin_prefix (policy : Bytes) (id : UInt64) :
    kPamProviderEntryBeginMarkerPrefix <+: pamProviderEntryBeginMarker policy id := by
  rw [pamProviderEntryBeginMarker, List.append_assoc, List.append_assoc]
  exact List.prefix_append _ _

theorem blockBeginMarker_endsVisible (provider : Bytes) (lead : Bool) :
    endsVisible (pamProviderBlockBeginMarker provider lead) = true := by
  cases lead
  · rw [pamProviderBlockBeginMarker, endsVisible_append (by decide)]
    rfl
  · rw [pamProviderBlockBeginMarker, endsVisible_append (by decide)]
    rfl

theorem entryBeginMarker_endsVisible (policy : Bytes) (id : UInt64) :
    endsVisible (pamProviderEntryBeginMarker policy id) = true := by
  rw [pamProviderEntryBeginMarker, endsVisible_append (toDecimal_ne_nil _)]
  refine endsVisible_of_all (List.all_eq_true.mpr fun c hc => ?_)
  rw [isSpace_of_isDigit (toDecimal_isDigit hc)]
  rfl

/-- A marker that is no suppression wrapper. -/
theorem parseLine_marker (hends : endsVisible marker = true)
    (hstart : start <+: marker) (hmention : mentionsReservedNamespace start = true)
    (hsuppress : ¬kPamProviderSuppressMarkerPrefix <+: start ∧
      ¬start <+: kPamProviderSuppressMarkerPrefix) :
    parseLine i (terminated marker) st =
      if marker = kPamProviderBlockEndMarker then parseBlockEndLine i st
      else
        match parseBlockBeginMarker marker with
        | .ok (provider, lead) => parseBlockBeginLine i provider lead st
        | .error _ =>
          match parseEntryBeginMarker marker with
          | .ok (policy, mutationId) => parseEntryBeginLine policy mutationId st
          | .error _ =>
            if marker = kPamProviderEntryEndMarker then parseEntryEndLine st
            else parseSentinelLine (terminated marker) st := by
  rw [parseLine, terminated, lineContent_terminated hends,
    if_pos (mentionsReservedNamespace_of_start hmention hstart), parseMarkerLine,
    lineContent_terminated hends, physicalLineContent_terminated hends]
  exact if_neg (not_prefix_of_apart hstart hsuppress.1 hsuppress.2)

theorem parseLine_blockBeginLine (lead : Bool) (st : ParseState) (i : Nat)
    (hprovider : isValidPamProviderIdentityToken provider = true) :
    parseLine i (terminated (pamProviderBlockBeginMarker provider lead)) st =
      parseBlockBeginLine i provider lead st := by
  have hstart := blockBegin_prefix provider lead
  rw [parseLine_marker (blockBeginMarker_endsVisible provider lead) hstart rfl (by decide),
    if_neg (ne_of_apart hstart (by decide)), parseBlockBeginMarker_marker lead hprovider]

theorem parseLine_blockBegin {lead : Bool} (i : Nat)
    (hprovider : isValidPamProviderIdentityToken provider = true) (hst : st.beginIndex = none) :
    parseLine i (terminated (pamProviderBlockBeginMarker provider lead)) st =
      .ok { st with
        beginIndex := some i
        provider := provider
        leadOwnedNewline := lead } := by
  rw [parseLine_blockBeginLine lead st i hprovider]
  simp [parseBlockBeginLine, ParseState.insideBlock, hst]

theorem parseLine_blockEnd (i : Nat) (hblock : st.insideBlock = true)
    (hentry : st.insideEntry = false) (hcount : st.entryCount ≠ 0) :
    parseLine i (terminated kPamProviderBlockEndMarker) st =
      .ok { st with endIndex := some i } := by
  rw [parseLine_marker rfl List.prefix_rfl rfl (by decide), if_pos rfl, parseBlockEndLine]
  simp [hblock, hentry, hcount]

theorem parseLine_entryBegin {policy : Bytes} {id : UInt64} (i : Nat)
    (hpolicy : isValidPamProviderIdentityToken policy = true) (hid : id ≠ 0)
    (hblock : st.insideBlock = true) (hentry : st.insideEntry = false) :
    parseLine i (terminated (pamProviderEntryBeginMarker policy id)) st =
      .ok { st with
        insideEntry := true
        entryBodySeen := false
        current := { policy := policy, mutationId := id } } := by
  have hstart := entryBegin_prefix policy id
  rw [parseLine_marker (entryBeginMarker_endsVisible policy id) hstart rfl (by decide),
    if_neg (ne_of_apart hstart (by decide)),
    parseBlockBeginMarker_of_not_prefix (not_prefix_of_apart hstart (by decide) (by decide)),
    parseEntryBeginMarker_marker hpolicy hid]
  simp [parseEntryBeginLine, hblock, hentry]

theorem parseLine_entryEnd (i : Nat) (hblock : st.insideBlock = true)
    (hentry : st.insideEntry = true) (hbody : st.entryBodySeen = true)
    (hconflict : entryConflict st.entries st.current = none) :
    parseLine i (terminated kPamProviderEntryEndMarker) st =
      .ok { st with
        entries := st.entries ++ [st.current]
        insideEntry := false
        entryCount := st.entryCount + 1 } := by
  rw [parseLine_marker rfl List.prefix_rfl rfl (by decide), if_neg (by decide),
    parseBlockBeginMarker_of_not_prefix (by decide),
    parseEntryBeginMarker_of_not_prefix (by decide)]
  simp [parseEntryEndLine, hblock, hentry, hbody, hconflict]

theorem parseLine_sentinelLine (st : ParseState) (i : Nat)
    (hkey : isValidPamProviderManagedKey key = true) :
    parseLine i (terminated (pamProviderFlagDisabledBody key)) st =
      parseSentinelLine (terminated (pamProviderFlagDisabledBody key)) st := by
  have hends : endsVisible (pamProviderFlagDisabledBody key) = true := by
    rw [pamProviderFlagDisabledBody, endsVisible_append (managedKey_ne_nil hkey)]
    exact managedKey_endsVisible hkey
  have hstart : kPamProviderFlagDisabledSentinelPrefix <+: pamProviderFlagDisabledBody key :=
    List.prefix_append _ _
  rw [parseLine_marker hends hstart rfl (by decide), if_neg (ne_of_apart hstart (by decide)),
    parseBlockBeginMarker_of_not_prefix (not_prefix_of_apart hstart (by decide) (by decide)),
    parseEntryBeginMarker_of_not_prefix (not_prefix_of_apart hstart (by decide) (by decide))]
  exact if_neg (ne_of_apart hstart (by decide))

theorem parseLine_body {body : Bytes} (i : Nat) (h : BodyReadable provider key body kind)
    (hprovider : st.provider = provider) (hblock : st.insideBlock = true)
    (hentry : st.insideEntry = true) (hbody : st.entryBodySeen = false) :
    parseLine i (terminated body) st = .ok (st.withBody key body kind) := by
  obtain ⟨hne, -, hends⟩ := h.line
  have hempty : body.isEmpty = false := by simp [hne]
  cases h with
  | assignment hparse hplain =>
    rw [parseLine, terminated, lineContent_terminated hends, hplain]
    simp [hblock, hentry, parseBodyLine, physicalLineContent_terminated hends, hbody,
      hempty, hprovider, hparse]
  | enabled hnot hkey hplain =>
    rw [parseLine, terminated, lineContent_terminated hends, hplain]
    simp [hblock, hentry, parseBodyLine, physicalLineContent_terminated hends, hbody,
      hempty, hprovider, hnot, hkey, parseCanonicalPamProviderEntryBody_key provider hkey]
  | disabled hnot hkey =>
    rw [parseLine_sentinelLine st i hkey]
    simp [parseSentinelLine, terminated, physicalLineContent_terminated hends, hprovider, hnot,
      hblock, hentry, hbody, parseCanonicalPamProviderFlagDisabledBody_body hkey]

/-! ## Groups of lines -/

theorem parseLines_append (i : Nat) (a b : List Bytes) (st : ParseState) :
    parseLines i (a ++ b) st =
      match parseLines i a st with
      | .error error => .error error
      | .ok st => parseLines (i + a.length) b st := by
  induction a generalizing i st with
  | nil => simp [parseLines]
  | cons line a ih =>
    simp only [List.cons_append, parseLines]
    cases hline : parseLine i line st with
    | error error => rfl
    | ok st' =>
      simp only [ih, List.length_cons]
      rw [Nat.add_right_comm, Nat.add_assoc]

/-- Foreign lines from line `i` on, with the wrappers among them. -/
inductive ForeignLines : Nat → List Bytes → List PamProviderSuppressedLine → Prop
  | nil {i : Nat} : ForeignLines i [] []
  | plain {i : Nat} {line : Bytes} {lines : List Bytes}
      {wrappers : List PamProviderSuppressedLine}
      (hline : mentionsReservedNamespace line = false)
      (hrest : ForeignLines (i + 1) lines wrappers) :
      ForeignLines i (line :: lines) wrappers
  | wrapped {i : Nat} {line : Bytes} {lines : List Bytes}
      {wrapper : PamProviderSuppressedLine} {wrappers : List PamProviderSuppressedLine}
      (hline : parsePamProviderSuppressionWrapper (physicalLineContent line) = .ok wrapper)
      (hrest : ForeignLines (i + 1) lines wrappers) :
      ForeignLines i (line :: lines) ({ wrapper with lineIndex := i } :: wrappers)

variable {line : Bytes}

theorem suppress_prefix_of_parse {wrapper : PamProviderSuppressedLine}
    (h : parsePamProviderSuppressionWrapper line = .ok wrapper) :
    kPamProviderSuppressMarkerPrefix <+: line := by
  unfold parsePamProviderSuppressionWrapper at h
  cases hrest : markerRest kPamProviderSuppressMarkerPrefix line with
  | none => simp [hrest, bind, Except.bind] at h
  | some rest =>
    rw [(markerRest_eq_some hrest).1]
    exact List.prefix_append _ _

section

variable (h : kPamProviderSuppressMarkerPrefix <+: physicalLineContent line)

include h

theorem suppress_prefix_lineContent :
    kPamProviderSuppressMarkerPrefix <+: lineContent line := by
  obtain ⟨rest, hrest⟩ := h
  have hline : lineContent line = (physicalLineContent line).rdropWhile isBlank := rfl
  rw [hline, ← hrest, rdropWhile_append_self rest (by rfl)]
  exact List.prefix_append _ _

theorem parseLine_suppressLine :
    parseLine i line st = parseSuppressLine i line st := by
  have hmention : mentionsReservedNamespace (lineContent line) = true :=
    mentionsReservedNamespace_of_start (by rfl) (suppress_prefix_lineContent h)
  rw [parseLine, if_pos hmention, parseMarkerLine, if_pos h]

end

theorem parseLines_foreign {lines : List Bytes} {wrappers : List PamProviderSuppressedLine}
    (h : ForeignLines i lines wrappers) (hblock : st.insideBlock = false)
    (hids : ((st.suppressions ++ wrappers).map (·.suppressionId)).Nodup) :
    parseLines i lines st =
      .ok { st with suppressions := st.suppressions ++ wrappers } := by
  induction h generalizing st with
  | nil => simp [parseLines]
  | plain hline hrest ih =>
    rw [parseLines, parseLine, mentionsReservedNamespace_lineContent, hline]
    simp only [Bool.false_eq_true, if_false, hblock, Bool.not_false, if_true]
    exact ih hblock hids
  | @wrapped i line lines wrapper wrappers hline hrest ih =>
    have hphysical := suppress_prefix_of_parse hline
    have hfresh : (st.suppressions.any fun existing =>
        decide (existing.suppressionId = wrapper.suppressionId)) = false := by
      rw [List.any_eq_false]
      intro existing hmem heq
      rw [List.map_append, List.nodup_append] at hids
      refine hids.2.2 _ (List.mem_map_of_mem hmem) wrapper.suppressionId ?_
        (of_decide_eq_true heq)
      exact List.mem_map.mpr ⟨_, List.mem_cons_self, rfl⟩
    rw [parseLines, parseLine_suppressLine hphysical, parseSuppressLine, hblock, hline]
    simp only [Bool.false_eq_true, if_false, hfresh]
    refine (ih ?_ ?_).trans ?_
    · exact hblock
    · simpa using hids
    · simp

end Fic.Pam
