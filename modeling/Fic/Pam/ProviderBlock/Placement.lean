import Fic.Pam.ProviderBlock.Decode

/-!
# Rendering and placing a block

`placeBlock` puts the rendered block at the beginning or at the end of the
foreign bytes.  The result is a `Layout`, so the strict parser gives the
entries back and the decoder the foreign bytes, whatever these were.
-/

namespace Fic.Pam

open Fic.Lib

variable {wrappers : List PamProviderSuppressedLine}
  {foreign provider : Bytes} {entries : List PamProviderManagedEntry}

/-! ## The rendered block line by line -/

private theorem lf_not_mem_toDecimal (n : Nat) : lf ∉ toDecimal n := by
  intro hmem
  exact absurd (toDecimal_isDigit hmem) (by decide)

private theorem lf_not_mem_entryBeginMarker {policy : Bytes} (id : UInt64)
    (h : isValidPamProviderIdentityToken policy = true) :
    lf ∉ pamProviderEntryBeginMarker policy id := by
  have hpolicy : lf ∉ policy := not_mem_identityToken h (by decide)
  have hmarker : lf ∉ kPamProviderEntryBeginMarkerPrefix := by decide
  have hfield : lf ∉ lit " mutation=" := by decide
  simp [pamProviderEntryBeginMarker, hpolicy, hmarker, hfield, lf_not_mem_toDecimal]

private theorem lf_not_mem_blockBeginMarker (lead : Bool)
    (h : isValidPamProviderIdentityToken provider = true) :
    lf ∉ pamProviderBlockBeginMarker provider lead := by
  have hprovider : lf ∉ provider := not_mem_identityToken h (by decide)
  have hmarker : lf ∉ kPamProviderBlockBeginMarkerPrefix := by decide
  have hfield : lf ∉ kPamProviderBlockLeadField := by decide
  have hvalue : lf ∉ (if lead then kPamProviderBlockLeadOwnedNewline
      else kPamProviderBlockLeadNone) := by
    cases lead <;> decide
  simp only [pamProviderBlockBeginMarker, List.mem_append, hprovider, hmarker, hfield,
    hvalue, or_self, not_false_iff]

theorem physicalLines_renderEntry {entry : PamProviderManagedEntry}
    (hpolicy : isValidPamProviderIdentityToken entry.policy = true) (hbody : lf ∉ entry.body)
    (rest : Bytes) :
    physicalLines (renderEntry entry ++ rest) = entryLines entry ++ physicalLines rest := by
  have hbegin := lf_not_mem_entryBeginMarker entry.mutationId hpolicy
  have hend : lf ∉ kPamProviderEntryEndMarker := by decide
  simp only [renderEntry, List.append_assoc, List.cons_append, List.nil_append]
  rw [physicalLines_line hbegin, physicalLines_line hbody, physicalLines_line hend]
  rfl

theorem physicalLines_renderEntries
    (h : ∀ e ∈ entries, isValidPamProviderIdentityToken e.policy = true ∧ lf ∉ e.body)
    (rest : Bytes) :
    physicalLines (entries.flatMap renderEntry ++ rest) =
      entries.flatMap entryLines ++ physicalLines rest := by
  induction entries with
  | nil => rfl
  | cons e es ih =>
    obtain ⟨hpolicy, hbody⟩ := h e List.mem_cons_self
    rw [List.flatMap_cons, List.append_assoc, physicalLines_renderEntry hpolicy hbody,
      ih fun x hx => h x (List.mem_cons_of_mem _ hx), List.flatMap_cons, List.append_assoc]

/-- A block of one-line bodies is rendered as its lines, and content behind it
starts afresh. -/
theorem physicalLines_renderBlock_of_lines (lead : Bool)
    (hprovider : isValidPamProviderIdentityToken provider = true)
    (h : ∀ e ∈ entries, isValidPamProviderIdentityToken e.policy = true ∧ lf ∉ e.body)
    (rest : Bytes) :
    physicalLines (renderBlock provider entries lead ++ rest) =
      blockLines provider entries lead ++ physicalLines rest := by
  have hbegin := lf_not_mem_blockBeginMarker lead hprovider
  have hend : lf ∉ kPamProviderBlockEndMarker := by decide
  simp only [renderBlock, List.append_assoc, List.cons_append, List.nil_append]
  rw [physicalLines_line hbegin, physicalLines_renderEntries h, physicalLines_line hend,
    blockLines]
  simp [terminated]

theorem physicalLines_renderBlock (lead : Bool) (h : BlockEntries provider entries) (rest : Bytes) :
    physicalLines (renderBlock provider entries lead ++ rest) =
      blockLines provider entries lead ++ physicalLines rest :=
  physicalLines_renderBlock_of_lines lead h.identity
    (fun e he => ⟨(h.readable e he).policy, (h.readable e he).body.line.2.1⟩) rest

/-! ## Placing the block -/

theorem placeBlock_eq (provider : Bytes) (entries : List PamProviderManagedEntry) (foreign : Bytes)
    (request : PamProviderBlockPlacementRequest) :
    placeBlock provider entries foreign request =
      if request = .End ∧ foreign ≠ [] then
        (foreign ++ [lf]) ++ (renderBlock provider entries true ++ [])
      else renderBlock provider entries false ++ foreign := by
  cases request <;> cases foreign <;> simp [placeBlock, assembleAtBeginning, assembleAtEnd]

theorem layout_front (hblock : BlockEntries provider entries)
    (hforeign : ForeignLines (3 * entries.length + 2) (physicalLines foreign) wrappers)
    (hids : (wrappers.map (·.suppressionId)).Nodup) :
    Layout (renderBlock provider entries false ++ foreign) [] (physicalLines foreign)
      provider entries false [] wrappers where
  lines := physicalLines_renderBlock false hblock foreign
  block := hblock
  foreignBefore := .nil
  foreignBehind := by
    rw [List.length_nil, Nat.zero_add, length_blockLines]
    exact hforeign
  distinct := hids
  separator := nofun

theorem layout_behind (hblock : BlockEntries provider entries)
    (hforeign : ForeignLines 0 (physicalLines (foreign ++ [lf])) wrappers)
    (hids : (wrappers.map (·.suppressionId)).Nodup) :
    Layout ((foreign ++ [lf]) ++ (renderBlock provider entries true ++ []))
      (physicalLines (foreign ++ [lf])) [] provider entries true wrappers [] where
  lines := by
    rw [physicalLines_append (.inr ⟨foreign, rfl⟩), physicalLines_renderBlock true hblock]
    simp
  block := hblock
  foreignBefore := hforeign
  foreignBehind := .nil
  distinct := by simpa using hids
  separator := fun _ => ⟨foreign, flatten_physicalLines _⟩

/-! ## Foreign bytes without any FIC text -/

theorem mentionsReservedNamespace_of_part {part whole : Bytes} (h : part <:+: whole)
    (hwhole : mentionsReservedNamespace whole = false) :
    mentionsReservedNamespace part = false := by
  rw [mentionsReservedNamespace, Bytes.hasWord_eq_false_iff] at hwhole ⊢
  exact fun hpart => hwhole (hpart.trans h)

theorem mentionsReservedNamespace_concat_lf (h : mentionsReservedNamespace foreign = false) :
    mentionsReservedNamespace (foreign ++ [lf]) = false := by
  rw [mentionsReservedNamespace, Bytes.hasWord_eq_false_iff] at h ⊢
  exact fun hin => h (infix_of_infix_concat (by decide) hin)

theorem foreignLines_of_plain (i : Nat) {lines : List Bytes}
    (h : ∀ line ∈ lines, mentionsReservedNamespace line = false) :
    ForeignLines i lines [] := by
  induction lines generalizing i with
  | nil => exact .nil
  | cons line lines ih =>
    exact .plain (h line List.mem_cons_self)
      (ih (i + 1) fun x hx => h x (List.mem_cons_of_mem _ hx))

theorem foreignLines_plain (i : Nat) (h : mentionsReservedNamespace foreign = false) :
    ForeignLines i (physicalLines foreign) [] :=
  foreignLines_of_plain i fun _ hline =>
    mentionsReservedNamespace_of_part (infix_of_mem_physicalLines hline) h

/-- A file without FIC text has no block, no entries and no wrappers. -/
theorem parsePamProviderManagedBlock_plain (h : mentionsReservedNamespace foreign = false) :
    parsePamProviderManagedBlock foreign = .ok {} := by
  have hrun : parseLines 0 (physicalLines foreign) {} = .ok {} :=
    parseLines_foreign (foreignLines_plain 0 h) rfl (by simp)
  rw [parsePamProviderManagedBlock, hrun]
  rfl

/-- The strict parse finds a block of `provider` with exactly these entries
and no wrappers, around exactly these foreign bytes. -/
def DecodesTo (content provider : Bytes) (entries : List PamProviderManagedEntry)
    (foreign : Bytes) : Prop :=
  ∃ view, parsePamProviderManagedBlock content = .ok view ∧ view.present = true ∧
    view.provider = provider ∧ view.entries = entries ∧ view.suppressions = [] ∧
    parsedForeign content view = foreign

/-- A block placed next to FIC-free foreign bytes is found with all its
entries, and the foreign bytes come back exactly. -/
theorem decodesTo_placeBlock (hblock : BlockEntries provider entries)
    (hforeign : mentionsReservedNamespace foreign = false)
    (request : PamProviderBlockPlacementRequest) :
    DecodesTo (placeBlock provider entries foreign request) provider entries foreign := by
  -- both placements are layouts whose foreign lines give `foreign` back
  have hfinish : ∀ {content : Bytes} {pre post : List Bytes} {lead : Bool},
      Layout content pre post provider entries lead [] [] →
      stripLead lead pre.flatten ++ post.flatten = foreign →
      DecodesTo content provider entries foreign :=
    fun hlayout hbytes =>
      ⟨_, parsePamProviderManagedBlock_layout hlayout, rfl, rfl, rfl, rfl,
        (parsedForeign_layout hlayout).trans hbytes⟩
  rw [placeBlock_eq]
  split_ifs
  · refine hfinish (layout_behind hblock
      (foreignLines_plain 0 (mentionsReservedNamespace_concat_lf hforeign)) (by simp)) ?_
    simp [stripLead, flatten_physicalLines]
  · refine hfinish (layout_front hblock (foreignLines_plain _ hforeign) (by simp)) ?_
    simp [stripLead, flatten_physicalLines]

end Fic.Pam
