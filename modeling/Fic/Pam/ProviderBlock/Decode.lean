import Fic.Pam.ProviderBlock.Layout

/-!
# How a rendered file parses

The main results say what the strict parser and the decoder of foreign bytes
make of foreign lines around a rendered block:

* `parsePamProviderManagedBlock_layout`: the parser returns the entries the
  block was rendered from and the wrappers of the foreign lines;
* `parsedForeign_layout`: the foreign bytes are the foreign lines, without
  the one separator the lead contract declares.
-/

namespace Fic.Pam

open Fic.Lib

variable {line : Bytes} {entry left right : PamProviderManagedEntry} {st : ParseState}
  {lead : Bool} {content : Bytes} {post pre : List Bytes}
  {before behind : List PamProviderSuppressedLine}

/-! ## The entries of a block -/

def ParseState.afterEntry (st : ParseState) (entry : PamProviderManagedEntry) :
    ParseState :=
  { st with
    entryBodySeen := true
    entryCount := st.entryCount + 1
    entries := st.entries ++ [entry]
    current := entry }

/-- Two entries of one block: different ownership tuples and different
mutation ids. -/
def EntriesApart (left right : PamProviderManagedEntry) : Prop :=
  ¬ (left.policy = right.policy ∧ left.managedKey = right.managedKey) ∧
    left.mutationId ≠ right.mutationId

theorem EntriesApart.symm (h : EntriesApart left right) : EntriesApart right left :=
  ⟨fun e => h.1 ⟨e.1.symm, e.2.symm⟩, fun e => h.2 e.symm⟩

variable {entries : List PamProviderManagedEntry}

theorem entryConflict_eq_none
    {current : PamProviderManagedEntry} (h : ∀ e ∈ entries, EntriesApart e current) :
    entryConflict entries current = none := by
  rw [entryConflict, List.findSome?_eq_none_iff]
  intro e he
  rw [if_neg (h e he).1, if_neg (h e he).2]

variable {provider : Bytes}

theorem parseLines_entry (i : Nat) (hread : EntryReadable provider entry)
    (hprovider : st.provider = provider) (hblock : st.insideBlock = true)
    (hentry : st.insideEntry = false) (hapart : ∀ e ∈ st.entries, EntriesApart e entry) :
    parseLines i (entryLines entry) st = .ok (st.afterEntry entry) := by
  obtain ⟨hpolicy, hid, hbody⟩ := hread
  let opened : ParseState :=
    { st with
      insideEntry := true
      entryBodySeen := false
      current := { policy := entry.policy, mutationId := entry.mutationId } }
  let filled := opened.withBody entry.managedKey entry.body entry.kind
  have hbegin : parseLine i
      (terminated (pamProviderEntryBeginMarker entry.policy entry.mutationId)) st =
      .ok opened :=
    parseLine_entryBegin i hpolicy hid hblock hentry
  have hline : parseLine (i + 1) (terminated entry.body) opened = .ok filled :=
    parseLine_body (i + 1) hbody hprovider hblock rfl rfl
  have hend : parseLine (i + 1 + 1) (terminated kPamProviderEntryEndMarker) filled =
      .ok { filled with
        entries := filled.entries ++ [filled.current]
        insideEntry := false
        entryCount := filled.entryCount + 1 } :=
    parseLine_entryEnd (i + 1 + 1) hblock rfl rfl (entryConflict_eq_none hapart)
  simp only [entryLines, parseLines, hbegin, hline, hend, ParseState.afterEntry, ← hentry]
  rfl

theorem length_flatMap_entryLines (entries : List PamProviderManagedEntry) :
    (entries.flatMap entryLines).length = 3 * entries.length := by
  induction entries with
  | nil => rfl
  | cons e es ih =>
    rw [List.flatMap_cons, List.length_append, ih, List.length_cons]
    change 3 + _ = _
    omega

/-- The state behind a run of entries: what the rest of the parse reads. -/
structure AfterEntries (st : ParseState) (entries : List PamProviderManagedEntry)
    (st' : ParseState) : Prop where
  beginIndex : st'.beginIndex = st.beginIndex
  endIndex : st'.endIndex = st.endIndex
  insideEntry : st'.insideEntry = false
  entryCount : st'.entryCount = st.entryCount + entries.length
  provider : st'.provider = st.provider
  leadOwnedNewline : st'.leadOwnedNewline = st.leadOwnedNewline
  entries : st'.entries = st.entries ++ entries
  suppressions : st'.suppressions = st.suppressions

theorem parseLines_entries
    (i : Nat) (st : ParseState) (hread : ∀ e ∈ entries, EntryReadable provider e)
    (hprovider : st.provider = provider) (hblock : st.insideBlock = true)
    (hentry : st.insideEntry = false)
    (hapart : (st.entries ++ entries).Pairwise EntriesApart) :
    ∃ st', parseLines i (entries.flatMap entryLines) st = .ok st' ∧
      AfterEntries st entries st' := by
  induction entries generalizing i st with
  | nil => exact ⟨st, rfl, by constructor <;> simp [hentry]⟩
  | cons e es ih =>
    have hfirst : ∀ x ∈ st.entries, EntriesApart x e := by
      intro x hx
      exact (List.pairwise_append.mp hapart).2.2 x hx e List.mem_cons_self
    have hstep := parseLines_entry i (hread e List.mem_cons_self) hprovider hblock hentry
      hfirst
    have hapart' : ((st.afterEntry e).entries ++ es).Pairwise EntriesApart := by
      simpa [ParseState.afterEntry] using hapart
    obtain ⟨st', hrun, hafter⟩ := ih (i + (entryLines e).length) (st.afterEntry e)
      (fun x hx => hread x (List.mem_cons_of_mem _ hx)) hprovider hblock hentry hapart'
    refine ⟨st', ?_, ?_⟩
    · rw [List.flatMap_cons, parseLines_append, hstep]
      exact hrun
    · exact
        { hafter with
          entryCount := by
            rw [hafter.entryCount, List.length_cons]
            change st.entryCount + 1 + es.length = _
            omega
          entries := by rw [hafter.entries]; simp [ParseState.afterEntry] }

/-! ## The whole block -/

theorem length_blockLines (provider : Bytes) (entries : List PamProviderManagedEntry)
    (lead : Bool) : (blockLines provider entries lead).length = 3 * entries.length + 2 := by
  rw [blockLines, List.length_cons, List.length_append, length_flatMap_entryLines]
  rfl

/-- The entries of a block are readable, apart and in canonical order. -/
structure BlockEntries (provider : Bytes) (entries : List PamProviderManagedEntry) :
    Prop where
  identity : isValidPamProviderIdentityToken provider = true
  nonempty : entries ≠ []
  readable : ∀ e ∈ entries, EntryReadable provider e
  apart : entries.Pairwise EntriesApart
  sorted : entries.Pairwise entryBefore

/-- The state behind the END marker of a block that starts at line `i`. -/
structure AfterBlock (st : ParseState) (i : Nat) (provider : Bytes)
    (entries : List PamProviderManagedEntry) (lead : Bool) (st' : ParseState) : Prop where
  beginIndex : st'.beginIndex = some i
  endIndex : st'.endIndex = some (i + 3 * entries.length + 1)
  insideEntry : st'.insideEntry = false
  provider : st'.provider = provider
  leadOwnedNewline : st'.leadOwnedNewline = lead
  entries : st'.entries = entries
  suppressions : st'.suppressions = st.suppressions

theorem parseLines_block
    (i : Nat) (st : ParseState) (lead : Bool) (h : BlockEntries provider entries)
    (hbegin : st.beginIndex = none) (hend : st.endIndex = none)
    (hentry : st.insideEntry = false) (hentries : st.entries = []) :
    ∃ st', parseLines i (blockLines provider entries lead) st = .ok st' ∧
      AfterBlock st i provider entries lead st' := by
  rw [blockLines, parseLines, parseLine_blockBegin i h.identity hbegin]
  dsimp only
  obtain ⟨st₁, hrun, hafter⟩ := parseLines_entries (i + 1)
    { st with beginIndex := some i, provider := provider, leadOwnedNewline := lead }
    h.readable rfl (by simp [ParseState.insideBlock, hend]) hentry
    (by simpa [hentries] using h.apart)
  have hblock : st₁.insideBlock = true := by
    simp [ParseState.insideBlock, hafter.beginIndex, hafter.endIndex, hend]
  have hcount : st₁.entryCount ≠ 0 := by
    have hpos := List.length_pos_iff.mpr h.nonempty
    rw [hafter.entryCount]
    omega
  rw [parseLines_append, hrun]
  dsimp only
  rw [parseLines, parseLine_blockEnd _ hblock hafter.insideEntry hcount]
  refine ⟨_, rfl, ?_⟩
  exact
    { hafter with
      endIndex := by
        rw [length_flatMap_entryLines, Nat.add_right_comm]
      entries := by simp [hafter.entries, hentries] }

/-! ## Canonical order -/

def entryKey (entry : PamProviderManagedEntry) : Bytes ×ₗ Bytes :=
  toLex (entry.policy, entry.managedKey)

theorem entryBefore_iff : entryBefore left right ↔ entryKey left < entryKey right := by
  rw [entryBefore, entryKey, entryKey, Prod.Lex.lt_iff]
  split_ifs with hpolicy
  · simp [hpolicy]
  · rw [not_not] at hpolicy
    simp [hpolicy]

theorem canonicalSort_of_sorted
    (h : entries.Pairwise entryBefore) : canonicalSort entries = entries := by
  refine List.Pairwise.insertionSort_eq (h.imp fun hbefore => ?_)
  rw [entryBefore_iff, not_lt]
  exact (entryBefore_iff.mp hbefore).le

theorem canonicalSort_perm (entries : List PamProviderManagedEntry) :
    (canonicalSort entries).Perm entries :=
  List.perm_insertionSort _ entries

theorem canonicalSort_sorted
    (h : entries.Pairwise EntriesApart) : (canonicalSort entries).Pairwise entryBefore := by
  have htotal : Std.Total fun left right : PamProviderManagedEntry =>
      ¬ entryBefore right left :=
    ⟨fun left right => by
      rw [entryBefore_iff, entryBefore_iff, not_lt, not_lt]
      exact le_total _ _⟩
  have htrans : IsTrans PamProviderManagedEntry fun left right =>
      ¬ entryBefore right left :=
    ⟨fun left mid right hlm hmr => by
      rw [entryBefore_iff, not_lt] at hlm hmr ⊢
      exact hlm.trans hmr⟩
  have hle := List.pairwise_insertionSort
    (fun left right : PamProviderManagedEntry => ¬ entryBefore right left) entries
  have hapart : (canonicalSort entries).Pairwise EntriesApart :=
    (canonicalSort_perm entries).symm.pairwise h EntriesApart.symm
  refine (hle.and hapart).imp fun {left right} hboth => ?_
  obtain ⟨hnot, hdiffer⟩ := hboth
  rw [entryBefore_iff, not_lt] at hnot
  rw [entryBefore_iff]
  refine lt_of_le_of_ne hnot fun heq => hdiffer.1 ?_
  simpa [entryKey] using heq

/-! ## The parse of a layout -/

def layoutView (pre post : List Bytes) (provider : Bytes)
    (entries : List PamProviderManagedEntry) (lead : Bool)
    (wrappers : List PamProviderSuppressedLine) : PamProviderBlockView :=
  { present := true
    atBeginning := pre.isEmpty
    atEnd := post.isEmpty
    leadOwnedNewline := lead
    effectivePlacement :=
      if pre.isEmpty then .AtBeginning else if post.isEmpty then .AtEnd else .Misplaced
    provider := provider
    entries := entries
    suppressions := wrappers }

/-- A file cut into foreign lines, a block and foreign lines. -/
structure Layout (content : Bytes) (pre post : List Bytes) (provider : Bytes)
    (entries : List PamProviderManagedEntry) (lead : Bool)
    (before behind : List PamProviderSuppressedLine) : Prop where
  lines : physicalLines content = pre ++ blockLines provider entries lead ++ post
  block : BlockEntries provider entries
  foreignBefore : ForeignLines 0 pre before
  foreignBehind :
    ForeignLines (pre.length + (blockLines provider entries lead).length) post behind
  distinct : ((before ++ behind).map (·.suppressionId)).Nodup
  separator : lead = true → ∃ text, pre.flatten = text ++ [lf]

section

variable (h : Layout content pre post provider entries lead before behind)

include h

/-- The separator check passes, and the placement is read off the foreign
lines on both sides. -/
private theorem blockView_layout {st₀ : ParseState}
    (hafter : AfterBlock st₀ pre.length provider entries lead st) :
    blockView content (physicalLines content) pre.length
        (pre.length + 3 * entries.length + 1)
        { st with suppressions := before ++ behind } =
      .ok (layoutView pre post provider entries lead (before ++ behind)) := by
  have hoffset : (((physicalLines content).take pre.length).map List.length).sum =
      pre.flatten.length := by
    rw [h.lines, List.append_assoc, List.take_left, List.length_flatten]
  have hcontent : content = pre.flatten ++
      ((blockLines provider entries lead).flatten ++ post.flatten) := by
    rw [← flatten_physicalLines content, h.lines]
    simp
  have hlead : ¬ (st.leadOwnedNewline = true ∧ (pre.flatten.length = 0 ∨
      content[pre.flatten.length - 1]? ≠ some lf)) := by
    rintro ⟨hown, hbad⟩
    rw [hafter.leadOwnedNewline] at hown
    obtain ⟨text, htext⟩ := h.separator hown
    rw [hcontent, htext] at hbad
    simp at hbad
  have hbegin : decide (pre.length = 0) = pre.isEmpty := by
    cases pre <;> rfl
  have hend : decide (pre.length + 3 * entries.length + 1 + 1 =
      (physicalLines content).length) = post.isEmpty := by
    rw [h.lines, List.length_append, List.length_append, length_blockLines]
    cases post with
    | nil => simp; omega
    | cons line post => simp; omega
  rw [blockView]
  simp only [hoffset]
  rw [if_neg hlead]
  simp only [hbegin, hend, hafter.leadOwnedNewline, hafter.provider, hafter.entries,
    canonicalSort_of_sorted h.block.sorted, layoutView]

theorem parsePamProviderManagedBlock_layout :
    parsePamProviderManagedBlock content =
      .ok (layoutView pre post provider entries lead (before ++ behind)) := by
  have hdistinct := h.distinct
  rw [List.map_append] at hdistinct
  -- the three parts, one after the other
  have hfirst : parseLines 0 pre {} = .ok { suppressions := before } :=
    parseLines_foreign h.foreignBefore rfl (by simpa using hdistinct.of_append_left)
  obtain ⟨st, hblock, hafter⟩ := parseLines_block pre.length { suppressions := before }
    lead h.block rfl rfl rfl rfl
  have hlast : parseLines (pre.length + (blockLines provider entries lead).length) post st =
      .ok { st with suppressions := st.suppressions ++ behind } := by
    refine parseLines_foreign h.foreignBehind ?_ ?_
    · simp [ParseState.insideBlock, hafter.endIndex]
    · rw [hafter.suppressions]
      exact h.distinct
  have hrun : parseLines 0 (physicalLines content) {} =
      .ok { st with suppressions := before ++ behind } := by
    simp only [h.lines, parseLines_append, hfirst, hblock, Nat.zero_add,
      List.length_append, hlast, hafter.suppressions]
  rw [parsePamProviderManagedBlock, hrun]
  dsimp only
  rw [finishParse]
  simp only [hafter.insideEntry, hafter.beginIndex, hafter.endIndex, Bool.false_eq_true,
    if_false]
  exact blockView_layout h hafter

end

/-! ## The foreign bytes of a layout -/

/-- The line is neither the begin nor the end marker of a block. -/
def NotBlockMarker (line : Bytes) : Prop :=
  lineContent line ≠ kPamProviderBlockEndMarker ∧
    ¬ kPamProviderBlockBeginMarkerPrefix <+: lineContent line

variable {lines : List Bytes}

theorem foldl_noteBlockMarker (h : ∀ line ∈ lines, NotBlockMarker line)
    (i : Nat) (found : Option Nat × Option Nat) :
    (lines.zipIdx i).foldl noteBlockMarker found = found := by
  induction lines generalizing i with
  | nil => rfl
  | cons line lines ih =>
    obtain ⟨hend, hbegin⟩ := h line List.mem_cons_self
    rw [List.zipIdx_cons, List.foldl_cons, noteBlockMarker, if_neg hend, if_neg hbegin]
    exact ih (fun x hx => h x (List.mem_cons_of_mem _ hx)) (i + 1)

/-- A line whose visible text starts with another marker. -/
private theorem notBlockMarker_of_prefix (marker : Bytes) (h : marker <+: lineContent line)
    (hend : ¬marker <+: kPamProviderBlockEndMarker)
    (hbegin : ¬kPamProviderBlockBeginMarkerPrefix <+: marker)
    (hmarker : ¬marker <+: kPamProviderBlockBeginMarkerPrefix) : NotBlockMarker line :=
  ⟨ne_of_apart h hend, not_prefix_of_apart h hbegin hmarker⟩

theorem notBlockMarker_of_plain (h : mentionsReservedNamespace line = false) :
    NotBlockMarker line := by
  rw [← mentionsReservedNamespace_lineContent] at h
  constructor
  · intro heq
    rw [heq] at h
    exact absurd h (by decide)
  · intro hpre
    rw [mentionsReservedNamespace_of_start (by rfl) hpre] at h
    contradiction

theorem ForeignLines.notBlockMarker {i : Nat}
    {wrappers : List PamProviderSuppressedLine} (h : ForeignLines i lines wrappers) :
    ∀ line ∈ lines, NotBlockMarker line := by
  induction h with
  | nil => simp
  | plain hline hrest ih =>
    exact List.forall_mem_cons.mpr ⟨notBlockMarker_of_plain hline, ih⟩
  | wrapped hline hrest ih =>
    refine List.forall_mem_cons.mpr ⟨?_, ih⟩
    exact notBlockMarker_of_prefix _ (suppress_prefix_lineContent (suppress_prefix_of_parse hline))
      (by decide) (by decide) (by decide)

theorem BodyReadable.notBlockMarker {key body : Bytes}
    {kind : PamProviderManagedEntryKind} (h : BodyReadable provider key body kind) :
    NotBlockMarker (terminated body) := by
  have hends := h.line.2.2
  cases h with
  | assignment hparse hplain =>
    apply notBlockMarker_of_plain
    rw [← mentionsReservedNamespace_lineContent, terminated, lineContent_terminated hends]
    exact hplain
  | enabled hnot hkey hplain =>
    apply notBlockMarker_of_plain
    rw [← mentionsReservedNamespace_lineContent, terminated, lineContent_terminated hends]
    exact hplain
  | disabled hnot hkey =>
    refine notBlockMarker_of_prefix kPamProviderFlagDisabledSentinelPrefix ?_ (by decide)
      (by decide) (by decide)
    rw [terminated, lineContent_terminated hends]
    exact List.prefix_append _ _

theorem EntryReadable.notBlockMarker (h : EntryReadable provider entry) :
    ∀ line ∈ entryLines entry, NotBlockMarker line := by
  intro line hmem
  simp only [entryLines, List.mem_cons, List.not_mem_nil, or_false] at hmem
  rcases hmem with rfl | rfl | rfl
  · refine notBlockMarker_of_prefix kPamProviderEntryBeginMarkerPrefix ?_ (by decide) (by decide)
      (by decide)
    rw [terminated, lineContent_terminated (entryBeginMarker_endsVisible _ _)]
    exact entryBegin_prefix _ _
  · exact h.body.notBlockMarker
  · rw [terminated, NotBlockMarker, lineContent_terminated (by rfl)]
    exact ⟨by decide, by decide⟩

section

variable (h : Layout content pre post provider entries lead before behind)

include h

theorem findBlockLineIndices_layout :
    findBlockLineIndices content =
      (some pre.length, some (pre.length + 3 * entries.length + 1)) := by
  have hentries : ∀ line ∈ entries.flatMap entryLines, NotBlockMarker line := by
    intro line hmem
    obtain ⟨entry, hentry, hline⟩ := List.mem_flatMap.mp hmem
    exact (h.block.readable entry hentry).notBlockMarker line hline
  have hbegin : ∀ found i, noteBlockMarker found
      (terminated (pamProviderBlockBeginMarker provider lead), i) = (some i, found.2) := by
    intro found i
    have hpre := blockBegin_prefix provider lead
    rw [noteBlockMarker]
    simp only [terminated, lineContent_terminated (blockBeginMarker_endsVisible _ _)]
    rw [if_neg (ne_of_apart hpre (by decide)), if_pos hpre]
  have hend : ∀ found i, noteBlockMarker found (terminated kPamProviderBlockEndMarker, i) =
      (found.1, some i) := by
    intro found i
    rw [noteBlockMarker]
    simp only [terminated, lineContent_terminated (show endsVisible
      kPamProviderBlockEndMarker = true from rfl), if_true]
  rw [findBlockLineIndices, h.lines, blockLines]
  simp only [List.zipIdx_append, List.zipIdx_cons, List.foldl_append, List.foldl_cons,
    foldl_noteBlockMarker h.foreignBefore.notBlockMarker, hbegin,
    foldl_noteBlockMarker hentries, foldl_noteBlockMarker h.foreignBehind.notBlockMarker,
    hend, List.zipIdx_nil, List.foldl_nil, length_flatMap_entryLines, Nat.zero_add]
  congr 2
  omega

theorem parsedForeign_layout :
    parsedForeign content (layoutView pre post provider entries lead (before ++ behind)) =
      stripLead lead pre.flatten ++ post.flatten := by
  have hlines : physicalLines content =
      (pre ++ blockLines provider entries lead) ++ post := h.lines
  have hlen : (pre ++ blockLines provider entries lead).length =
      pre.length + 3 * entries.length + 1 + 1 := by
    rw [List.length_append, length_blockLines]
    omega
  have hdrop : (physicalLines content).drop (pre.length + 3 * entries.length + 1 + 1) =
      post := by
    rw [hlines, ← hlen, List.drop_left]
  have htake : (physicalLines content).take pre.length = pre := by
    rw [hlines, List.append_assoc, List.take_left]
  rw [parsedForeign, findBlockLineIndices_layout h]
  simp only [layoutView, if_true, foreignBytes, htake, hdrop]
  cases pre with
  | nil =>
    have hstrip : stripLead lead [] = [] := by simp [stripLead]
    simp only [List.isEmpty_nil, if_true, List.flatten_nil, hstrip, List.nil_append]
    rw [drop_length_take_physicalLines, hdrop]
  | cons line pre => simp

end

end Fic.Pam
