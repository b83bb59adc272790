import Fic.Pam.ProviderBlock.Wrapping

/-!
# Disabling a flag and releasing it again

`setPamProviderManagedFlagTransition` to the disabled state, followed by
`releasePamProviderManagedFlag` with the candidate that carries the created
suppression ids.

`release_disabled` computes the result of the round trip: the file of
`restoreContent`.  `of_parse_disabled` covers the files whose disabled form the
parser refuses.  Together: the original bytes come back exactly when the
provider has presence flags at all and no active line's text holds a NUL byte
or ends in a carriage return.
-/

namespace Fic.Pam

open Fic.Lib

variable {text : Bytes} {request : PamProviderBlockPlacementRequest} {c : UInt8}
  {p : UInt8 → Bool}
  {line : Bytes} {lines : List Bytes} {i : Nat} {st st' : ParseState}

/-! ## A disabled flag's spec -/

/-- The checks of `validateFlagSpec` on a disabled target. -/
structure DisabledSpec (spec : PamProviderFlagSpec) : Prop where
  disabled : spec.enabled = false
  provider : isValidPamProviderIdentityToken spec.provider = true
  policy : isValidPamProviderIdentityToken spec.policy = true
  managedKey : isValidPamProviderManagedKey spec.managedKey = true
  mutationId : spec.mutationId ≠ 0
  ids : ∀ id ∈ spec.createSuppressionIds, isValidPamProviderSuppressionId id = true
  distinct : spec.createSuppressionIds.Nodup

private theorem duplicateId_eq_none {ids : List Bytes} (h : duplicateId ids = none) :
    ids.Nodup := by
  induction ids with
  | nil => exact List.nodup_nil
  | cons id ids ih =>
    rw [duplicateId] at h
    split_ifs at h with hdup
    rw [List.nodup_cons]
    exact ⟨by simpa using hdup, ih h⟩

variable {spec : PamProviderFlagSpec}

theorem disabledSpec_of_validate
    (hdisabled : spec.enabled = false) (h : validateFlagSpec spec = .ok ()) :
    DisabledSpec spec := by
  unfold validateFlagSpec at h
  simp only [hdisabled, Bool.false_eq_true, if_false] at h
  split_ifs at h with hidentity hkey hid
  simp only [Bool.or_eq_true, Bool.not_eq_true', not_or, Bool.not_eq_false] at hidentity hkey
  split at h
  · contradiction
  split at h
  · contradiction
  rename_i hcreated
  split at h
  · contradiction
  rename_i hdup
  refine ⟨hdisabled, hidentity.1, hidentity.2, hkey, hid, fun id hmem => ?_,
    duplicateId_eq_none hdup⟩
  rw [createdIdError, List.findSome?_eq_none_iff] at hcreated
  have hvalid := hcreated id hmem
  split_ifs at hvalid with hbad
  simpa using hbad

theorem DisabledSpec.entry_body (h : DisabledSpec spec) :
    spec.entry.body = pamProviderFlagDisabledBody spec.managedKey := by
  simp [PamProviderFlagSpec.entry, PamProviderFlagSpec.targetBody, h.disabled]

theorem DisabledSpec.entry_kind (h : DisabledSpec spec) : spec.entry.kind = .FlagDisabled := by
  simp [PamProviderFlagSpec.entry, PamProviderFlagSpec.targetKind, h.disabled]

theorem DisabledSpec.block (h : DisabledSpec spec) (hprovider : spec.provider ≠ pamPasswdqc) :
    BlockEntries spec.provider [spec.entry] where
  identity := h.provider
  nonempty := by simp
  readable := by
    intro e he
    rw [List.mem_singleton.mp he]
    refine ⟨h.policy, h.mutationId, ?_⟩
    rw [h.entry_body, h.entry_kind]
    exact .disabled hprovider h.managedKey
  apart := List.pairwise_singleton _ _
  sorted := List.pairwise_singleton _ _

variable {content : Bytes}

theorem setPamProviderManagedFlagTransition_disabled {result : PamProviderMutationResult}
    (hdisabled : spec.enabled = false) (hplain : mentionsReservedNamespace content = false)
    (h : setPamProviderManagedFlagTransition content spec request = .ok result) :
    DisabledSpec spec ∧ ∃ out,
      Wrapped spec (physicalLines content) spec.createSuppressionIds out ∧
      result.content = placeBlock spec.provider [spec.entry] out.flatten request := by
  have hfound : findBlockLineIndices content = (none, none) := by
    refine foldl_noteBlockMarker (fun line hline => ?_) 0 (none, none)
    exact notBlockMarker_of_plain
      (mentionsReservedNamespace_of_part (infix_of_mem_physicalLines hline) hplain)
  unfold setPamProviderManagedFlagTransition at h
  obtain ⟨⟨⟩, hvalid, h⟩ := except_bind_eq_ok.mp h
  have hentries : transitionEntries [] spec = .ok ([spec.entry], true) := rfl
  simp only [parsePamProviderManagedBlock_plain hplain, hentries, hfound, except_ok_bind,
    Bool.false_and, Bool.false_eq_true, if_false] at h
  obtain ⟨⟨out, left, changed⟩, hlines, h⟩ := except_bind_eq_ok.mp h
  simp only [hdisabled, Bool.not_false, Bool.true_and, Bool.true_or, Bool.not_true,
    Bool.false_and, Bool.false_eq_true, if_false] at h
  split_ifs at h with hleft
  obtain rfl : left = [] := by simpa using hleft
  obtain ⟨used, hused, hwrapped⟩ := wrapped_of_rebuildLines hdisabled hlines
  rw [List.append_nil] at hused
  subst hused
  refine ⟨disabledSpec_of_validate hdisabled hvalid, out, hwrapped, ?_⟩
  rw [← Except.ok.inj h]
  rfl

/-! ## The wrapped lines parse and unwrap -/

section Wrap

variable {spec : PamProviderFlagSpec}

theorem Wrapped.shaped (hspec : DisabledSpec spec) {ids out : List Bytes}
    (h : Wrapped spec lines ids out) (hlines : LineShaped lines)
    (hids : ∀ id ∈ ids, isValidPamProviderSuppressionId id = true) : LineShaped out := by
  induction h with
  | nil => exact .nil
  | keep hline hrest ih =>
    cases hlines with
    | last hne hlf =>
      cases hrest
      exact .last hne hlf
    | cons hlf hshaped => exact .cons hlf (ih hshaped hids)
  | @wrap line id lines ids out hline hrest ih =>
    have hfront : lf ∉ spec.front id :=
      lf_not_mem_wrapperFront hspec.provider hspec.policy hspec.managedKey
        (hids id List.mem_cons_self) _
    have htail : ∀ id ∈ ids, isValidPamProviderSuppressionId id = true :=
      fun x hx => hids x (List.mem_cons_of_mem _ hx)
    cases hlines with
    | last hne hlf =>
      cases hrest
      exact .last (by simp [hne]) (by simp [hfront, hlf])
    | cons hlf hshaped =>
      rw [← List.append_assoc]
      exact .cons (by simp [hfront, hlf]) (ih hshaped htail)

theorem Wrapped.concat_lf {ids out : List Bytes} (h : Wrapped spec lines ids out)
    (hlines : LineShaped lines) :
    ∃ out', Wrapped spec (physicalLines (lines.flatten ++ [lf])) ids out' ∧
      out'.flatten = out.flatten ++ [lf] := by
  induction h with
  | nil => exact ⟨[[lf]], by simpa [physicalLines_cons_lf] using .keep activeLine_lf .nil, rfl⟩
  | @keep line lines ids out hline hrest ih =>
    cases hlines with
    | last hne hlf =>
      cases hrest
      refine ⟨[line ++ [lf]], ?_, by simp⟩
      rw [List.flatten_singleton, physicalLines_line hlf]
      exact .keep (by rw [activeLine_concat_lf hlf, hline]) .nil
    | @cons text _ hlf hshaped =>
      obtain ⟨out', hwrapped, hflat⟩ := ih hshaped
      refine ⟨(text ++ [lf]) :: out', ?_, by simp [hflat]⟩
      rw [List.flatten_cons, List.append_assoc, List.append_assoc, List.singleton_append,
        physicalLines_line hlf]
      exact .keep hline hwrapped
  | @wrap line id lines ids out hline hrest ih =>
    cases hlines with
    | last hne hlf =>
      cases hrest
      refine ⟨[spec.front id ++ (line ++ [lf])], ?_, by simp⟩
      rw [List.flatten_singleton, physicalLines_line hlf]
      exact .wrap (by rw [activeLine_concat_lf hlf, hline]) .nil
    | @cons text _ hlf hshaped =>
      obtain ⟨out', hwrapped, hflat⟩ := ih hshaped
      refine ⟨(spec.front id ++ (text ++ [lf])) :: out', ?_, by simp [hflat]⟩
      rw [List.flatten_cons, List.append_assoc, List.append_assoc, List.singleton_append,
        physicalLines_line hlf]
      exact .wrap hline hwrapped

/-- The wrapper the parser reads from a wrapped line. -/
def PamProviderFlagSpec.wrapper (spec : PamProviderFlagSpec) (id line : Bytes) :
    PamProviderSuppressedLine :=
  { provider := spec.provider
    policy := spec.policy
    managedKey := spec.managedKey
    mutationId := spec.mutationId
    suppressionId := id
    rawLine := (splitPhysicalLine line).1.rdropWhile isLineEnd }

private theorem mem_of_mem_rdropWhile (h : c ∈ text.rdropWhile p) : c ∈ text :=
  (List.rdropWhile_prefix p text).subset h

theorem parseWrapped {id : Bytes} (hspec : DisabledSpec spec)
    (hid : isValidPamProviderSuppressionId id = true) (hactive : spec.activeLine line = true)
    (hlf : lf ∉ (splitPhysicalLine line).1) (hnul : (0 : UInt8) ∉ (splitPhysicalLine line).1) :
    parsePamProviderSuppressionWrapper (physicalLineContent (spec.front id ++ line)) =
      .ok (spec.wrapper id line) := by
  rw [PamProviderFlagSpec.front, physicalLineContent_wrapped]
  refine parsePamProviderSuppressionWrapper_line hspec.provider hspec.policy hspec.managedKey hid
    hspec.mutationId ?_ (fun h => hlf (mem_of_mem_rdropWhile h))
    (fun h => hnul (mem_of_mem_rdropWhile h))
  rw [activeOccurrence_rdropWhile]
  exact hactive

/-- The wrappers of wrapped lines: one per id, in order, and what a release
with them makes of the lines. -/
structure WrappersOf (spec : PamProviderFlagSpec) (i : Nat) (lines ids out : List Bytes)
    (wrappers : List PamProviderSuppressedLine) : Prop where
  foreign : ForeignLines i out wrappers
  ids : wrappers.map (·.suppressionId) = ids
  owned : ∀ w ∈ wrappers,
    w.ownedBy spec.provider spec.policy spec.managedKey spec.mutationId = true
  indices : ∀ w ∈ wrappers, i ≤ w.lineIndex ∧ w.lineIndex < i + lines.length
  unwrap : ∀ (expectation : PamProviderFlagReleaseExpectation) (view : PamProviderBlockView)
    (found : Option Nat × Option Nat),
    expectation.provider = spec.provider → expectation.policy = spec.policy →
    expectation.managedKey = spec.managedKey → expectation.mutationId = spec.mutationId →
    (∀ j, i ≤ j → j < i + lines.length → insideBlockSpan found j = false) →
    (∀ j, i ≤ j → j < i + lines.length →
      wrapperAt view j = wrappers.find? fun w => w.lineIndex = j) →
    (unwrapLines expectation view found i out).1 = (lines.map spec.restoreLine).flatten

theorem WrappersOf.none (i : Nat) : WrappersOf spec i [] [] [] [] :=
  ⟨.nil, rfl, nofun, nofun, fun _ _ _ _ _ _ _ _ _ => rfl⟩

theorem Wrapped.wrappers (hspec : DisabledSpec spec) {ids out : List Bytes}
    (h : Wrapped spec lines ids out) (i : Nat)
    (hids : ∀ id ∈ ids, isValidPamProviderSuppressionId id = true)
    (hplain : ∀ line ∈ lines, mentionsReservedNamespace line = false)
    (hlf : ∀ line ∈ lines, lf ∉ (splitPhysicalLine line).1)
    (hnul : ∀ line ∈ lines, spec.activeLine line = true →
      (0 : UInt8) ∉ (splitPhysicalLine line).1) :
    ∃ wrappers, WrappersOf spec i lines ids out wrappers := by
  induction h generalizing i with
  | nil =>
    exact ⟨[], .none i⟩
  | @keep line lines ids out hline hrest ih =>
    rw [List.forall_mem_cons] at hplain hlf hnul
    obtain ⟨wrappers, hrec⟩ := ih (i + 1) hids hplain.2 hlf.2 hnul.2
    refine ⟨wrappers, ?_⟩
    exact
      { foreign := .plain hplain.1 hrec.foreign
        ids := hrec.ids
        owned := hrec.owned
        indices := by
          intro w hw
          have := hrec.indices w hw
          rw [List.length_cons]
          omega
        unwrap := by
          intro expectation view found h1 h2 h3 h4 hspan hat
          have hnone : wrapperAt view i = none := by
            rw [hat i le_rfl (by simp), List.find?_eq_none]
            intro w hw heq
            have := hrec.indices w hw
            simp at heq
            omega
          have htail := hrec.unwrap expectation view found h1 h2 h3 h4
            (fun j hj hj' => hspan j (by omega) (by simp; omega))
            (fun j hj hj' => hat j (by omega) (by simp; omega))
          have hkeep : spec.restoreLine line = line := by
            rw [PamProviderFlagSpec.restoreLine, hline]
            rfl
          simp only [unwrapLines, hspan i le_rfl (by simp), Bool.false_eq_true, if_false,
            hnone, htail, List.map_cons, List.flatten_cons, hkeep] }
  | @wrap line id lines ids out hline hrest ih =>
    rw [List.forall_mem_cons] at hplain hlf hnul hids
    obtain ⟨wrappers, hrec⟩ := ih (i + 1) hids.2 hplain.2 hlf.2 hnul.2
    have hparse := parseWrapped hspec hids.1 hline hlf.1 (hnul.1 hline)
    refine ⟨{ spec.wrapper id line with lineIndex := i } :: wrappers, ?_⟩
    exact
      { foreign := .wrapped hparse hrec.foreign
        ids := by rw [List.map_cons, hrec.ids]; rfl
        owned := by
          refine List.forall_mem_cons.mpr ⟨?_, hrec.owned⟩
          simp [PamProviderSuppressedLine.ownedBy, PamProviderFlagSpec.wrapper]
        indices := by
          rw [List.forall_mem_cons, List.length_cons]
          refine ⟨⟨le_rfl, show i < _ by omega⟩, fun w hw => ?_⟩
          have := hrec.indices w hw
          omega
        unwrap := by
          intro expectation view found h1 h2 h3 h4 hspan hat
          have hsome : wrapperAt view i =
              some { spec.wrapper id line with lineIndex := i } := by
            rw [hat i le_rfl (by simp), List.find?_cons]
            simp
          have htail := hrec.unwrap expectation view found h1 h2 h3 h4
            (fun j hj hj' => hspan j (by omega) (by simp; omega))
            (fun j hj hj' => by
              rw [hat j (by omega) (by simp; omega), List.find?_cons]
              have hne : ¬ i = j := by omega
              simp [hne])
          have hown : ({ spec.wrapper id line with lineIndex := i } :
              PamProviderSuppressedLine).ownedBy expectation.provider expectation.policy
              expectation.managedKey expectation.mutationId = true := by
            simp [PamProviderSuppressedLine.ownedBy, PamProviderFlagSpec.wrapper, h1, h2, h3,
              h4]
          have hne : (splitPhysicalLine line).1 ≠ [] := activeOccurrence_ne_nil hline
          have hterm : (splitPhysicalLine (spec.front id ++ line)).2 =
              (splitPhysicalLine line).2 := by
            rw [splitPhysicalLine_front _ hne]
          have hrestore : spec.restoreLine line =
              (spec.wrapper id line).rawLine ++ (splitPhysicalLine line).2 := by
            rw [PamProviderFlagSpec.restoreLine, if_pos hline]
            rfl
          simp only [unwrapLines, hspan i le_rfl (by simp), Bool.false_eq_true, if_false,
            hsome, hown, if_true, htail, hterm, List.map_cons, List.flatten_cons, hrestore] }

theorem Wrapped.length_eq {ids out : List Bytes} (h : Wrapped spec lines ids out) :
    out.length = lines.length := by
  induction h with
  | nil => rfl
  | keep hline hrest ih => simp [ih]
  | wrap hline hrest ih => simp [ih]

end Wrap

/-! ## Unwrapping the parts of a file -/

section Unwrap

variable (expectation : PamProviderFlagReleaseExpectation) (view : PamProviderBlockView)
  (found : Option Nat × Option Nat)

theorem unwrapLines_append (i : Nat) (a b : List Bytes) :
    (unwrapLines expectation view found i (a ++ b)).1 =
      (unwrapLines expectation view found i a).1 ++
        (unwrapLines expectation view found (i + a.length) b).1 := by
  induction a generalizing i with
  | nil => rfl
  | cons line a ih =>
    have hindex : i + (line :: a).length = i + 1 + a.length := by
      rw [List.length_cons]
      omega
    simp only [List.cons_append, unwrapLines, ih, hindex]
    split
    · split_ifs <;> simp
    · simp

theorem unwrapLines_inside
    (h : ∀ j, i ≤ j → j < i + lines.length → insideBlockSpan found j = true) :
    (unwrapLines expectation view found i lines).1 = lines.flatten := by
  induction lines generalizing i with
  | nil => rfl
  | cons line lines ih =>
    have hrest := @ih (i + 1) fun j hj hj' => h j (by omega) (by simp; omega)
    simp only [unwrapLines, h i le_rfl (by simp), if_true, hrest, List.flatten_cons]

end Unwrap

/-- The disabled state the transition leaves, as the journal records it. -/
def PamProviderFlagSpec.release (spec : PamProviderFlagSpec) :
    PamProviderFlagReleaseExpectation :=
  { provider := spec.provider
    policy := spec.policy
    managedKey := spec.managedKey
    mutationId := spec.mutationId
    candidates :=
      [{ entryKind := .FlagDisabled
         authorizedSuppressionIds := spec.createSuppressionIds }] }

/-- A disabled file: the block between lines that were wrapped. -/
structure DisabledLayout (spec : PamProviderFlagSpec) (content : Bytes)
    (preLines postLines pre post : List Bytes) (lead : Bool)
    (before behind : List PamProviderSuppressedLine) : Prop where
  layout : Layout content pre post spec.provider [spec.entry] lead before behind
  preLength : pre.length = preLines.length
  wrappedBefore : ∃ ids, WrappersOf spec 0 preLines ids pre before
  wrappedBehind : ∃ ids, WrappersOf spec (pre.length + 5) postLines ids post behind
  ids : (before ++ behind).map (·.suppressionId) = spec.createSuppressionIds

section Release

variable {spec : PamProviderFlagSpec} {content : Bytes} {preLines postLines pre post : List Bytes}
  {lead : Bool} {before behind : List PamProviderSuppressedLine}

theorem DisabledLayout.unwrap
    (h : DisabledLayout spec content preLines postLines pre post lead before behind) :
    (unwrapLines spec.release
        (layoutView pre post spec.provider [spec.entry] lead (before ++ behind))
        (findBlockLineIndices content) 0 (physicalLines content)).1 =
      (preLines.map spec.restoreLine).flatten ++
        (blockLines spec.provider [spec.entry] lead).flatten ++
        (postLines.map spec.restoreLine).flatten := by
  obtain ⟨_, hbefore⟩ := h.wrappedBefore
  obtain ⟨_, hbehind⟩ := h.wrappedBehind
  have hpre := h.preLength
  have hblock : (blockLines spec.provider [spec.entry] lead).length = 5 :=
    length_blockLines _ _ _
  have hspan : ∀ j, insideBlockSpan (some pre.length, some (pre.length + 4)) j =
      decide (pre.length ≤ j ∧ j ≤ pre.length + 4) := by
    intro j
    simp [insideBlockSpan]
  rw [findBlockLineIndices_layout h.layout, h.layout.lines, unwrapLines_append,
    unwrapLines_append, List.length_append, hblock]
  simp only [List.length_singleton, Nat.mul_one, Nat.add_assoc, Nat.zero_add, Nat.reduceAdd]
  congr 1
  · congr 1
    · refine hbefore.unwrap _ _ _ rfl rfl rfl rfl ?_ ?_
      · intro j _ hj
        rw [hspan, decide_eq_false_iff_not]
        omega
      · intro j _ hj
        have hnone : behind.find? (fun w => decide (w.lineIndex = j)) = none := by
          rw [List.find?_eq_none]
          intro w hw heq
          have := hbehind.indices w hw
          simp only [decide_eq_true_eq] at heq
          omega
        simp only [wrapperAt, layoutView, List.find?_append, hnone, Option.or_none]
    · refine unwrapLines_inside _ _ _ ?_
      intro j hj hj'
      rw [hblock] at hj'
      rw [hspan, decide_eq_true_eq]
      omega
  · refine hbehind.unwrap _ _ _ rfl rfl rfl rfl ?_ ?_
    · intro j hj _
      rw [hspan, decide_eq_false_iff_not]
      omega
    · intro j hj _
      have hnone : before.find? (fun w => decide (w.lineIndex = j)) = none := by
        rw [List.find?_eq_none]
        intro w hw heq
        have := hbefore.indices w hw
        simp only [decide_eq_true_eq] at heq
        omega
      simp only [wrapperAt, layoutView, List.find?_append, hnone, Option.none_or]

end Release

/-! ## The disabled file -/

/-- No active line of the file holds a NUL byte in its text. -/
def PamProviderFlagSpec.NulFree (spec : PamProviderFlagSpec) (content : Bytes) : Prop :=
  ∀ line ∈ physicalLines content, spec.activeLine line = true →
    (0 : UInt8) ∉ (splitPhysicalLine line).1

theorem nulFree_concat_lf (h : spec.NulFree content) : spec.NulFree (content ++ [lf]) := by
  intro line hline hactive
  rcases mem_physicalLines_concat_lf hline with rfl | hline | ⟨last, hlast, hlf, rfl⟩
  · decide
  · exact h line hline hactive
  · rw [activeLine_concat_lf hlf] at hactive
    rw [splitPhysicalLine_concat_lf hlf]
    exact h last hlast hactive

theorem flatten_blockLines {provider : Bytes} {entries : List PamProviderManagedEntry}
    (lead : Bool) (h : BlockEntries provider entries) :
    (blockLines provider entries lead).flatten = renderBlock provider entries lead := by
  have hlines := physicalLines_renderBlock lead h []
  have hnil : physicalLines [] = [] := rfl
  rw [List.append_nil, hnil, List.append_nil] at hlines
  rw [← hlines, flatten_physicalLines]

section Disable

variable {spec : PamProviderFlagSpec} {content : Bytes} {out : List Bytes}

section

variable (hspec : DisabledSpec spec)

include hspec

theorem wrappersOf_content
    (hplain : mentionsReservedNamespace content = false) (hnul : spec.NulFree content)
    (h : Wrapped spec (physicalLines content) spec.createSuppressionIds out) (i : Nat) :
    ∃ wrappers,
      WrappersOf spec i (physicalLines content) spec.createSuppressionIds out wrappers :=
  h.wrappers hspec i hspec.ids
    (fun _ hline =>
      mentionsReservedNamespace_of_part (infix_of_mem_physicalLines hline) hplain)
    (fun _ hline => splitPhysicalLine_text_lf hline) hnul

theorem Wrapped.physicalLines_flatten
    (h : Wrapped spec (physicalLines content) spec.createSuppressionIds out) :
    physicalLines out.flatten = out :=
  Fic.Lib.physicalLines_flatten (h.shaped hspec (lineShaped_physicalLines content) hspec.ids)

theorem Wrapped.flatten_eq_nil
    (h : Wrapped spec (physicalLines content) spec.createSuppressionIds out) :
    out.flatten = [] ↔ content = [] := by
  rw [← physicalLines_eq_nil , h.physicalLines_flatten hspec,
    ← physicalLines_eq_nil , ← List.length_eq_zero_iff, h.length_eq,
    List.length_eq_zero_iff]

/-- The file of a disabled flag is a `DisabledLayout`, and unwrapping its lines
gives the block next to the restored content. -/
theorem exists_disabledLayout (hprovider : spec.provider ≠ pamPasswdqc)
    (hplain : mentionsReservedNamespace content = false) (hnul : spec.NulFree content)
    (h : Wrapped spec (physicalLines content) spec.createSuppressionIds out)
    (request : PamProviderBlockPlacementRequest) :
    ∃ preLines postLines pre post lead before behind,
      DisabledLayout spec (placeBlock spec.provider [spec.entry] out.flatten request)
        preLines postLines pre post lead before behind ∧
      (preLines.map spec.restoreLine).flatten ++
          (blockLines spec.provider [spec.entry] lead).flatten ++
          (postLines.map spec.restoreLine).flatten =
        placeBlock spec.provider [spec.entry] (spec.restoreContent content) request := by
  have hblock := hspec.block hprovider
  have hempty : spec.restoreContent content = [] ↔ content = [] :=
    ⟨not_imp_not.mp restoreContent_ne_nil, by rintro rfl; rfl⟩
  rw [placeBlock_eq, placeBlock_eq]
  simp only [ne_eq, h.flatten_eq_nil hspec, hempty]
  split_ifs
  · obtain ⟨out', hwrapped, hflat⟩ := h.concat_lf (lineShaped_physicalLines content)
    rw [flatten_physicalLines] at hwrapped
    have hlines := hwrapped.physicalLines_flatten hspec
    obtain ⟨wrappers, hwrappers⟩ := wrappersOf_content hspec
      (mentionsReservedNamespace_concat_lf hplain) (nulFree_concat_lf hnul) hwrapped 0
    rw [hflat] at hlines
    have hlayout := layout_behind hblock (hlines.symm ▸ hwrappers.foreign)
      (hwrappers.ids.symm ▸ hspec.distinct)
    rw [hlines] at hlayout
    refine ⟨physicalLines (content ++ [lf]), [], out', [], true, wrappers, [],
      { layout := hlayout, preLength := hwrapped.length_eq,
        wrappedBefore := ⟨_, hwrappers⟩, wrappedBehind := ⟨[], .none _⟩,
        ids := by rw [List.append_nil, hwrappers.ids] }, ?_⟩
    rw [flatten_blockLines true hblock]
    change spec.restoreContent (content ++ [lf]) ++ _ ++ [] = _
    rw [restoreContent_concat_lf, List.append_assoc]
  · obtain ⟨wrappers, hwrappers⟩ := wrappersOf_content hspec hplain hnul h 5
    have hlines := h.physicalLines_flatten hspec
    have hlayout := layout_front hblock (hlines.symm ▸ hwrappers.foreign)
      (hwrappers.ids.symm ▸ hspec.distinct)
    rw [hlines] at hlayout
    refine ⟨[], physicalLines content, [], out, false, [], wrappers,
      { layout := hlayout, preLength := rfl, wrappedBefore := ⟨[], .none 0⟩,
        wrappedBehind := ⟨_, hwrappers⟩, ids := hwrappers.ids }, ?_⟩
    rw [flatten_blockLines false hblock]
    rfl

end

end Disable

/-! ## The release -/

theorem physicalWrapperIds_owned {wrappers : List PamProviderSuppressedLine}
    (h : ∀ w ∈ wrappers,
      w.ownedBy spec.provider spec.policy spec.managedKey spec.mutationId = true) :
    physicalWrapperIds spec.release wrappers = .ok (wrappers.map (·.suppressionId)) := by
  induction wrappers with
  | nil => rfl
  | cons w ws ih =>
    rw [List.forall_mem_cons] at h
    have hown := h.1
    simp only [PamProviderSuppressedLine.ownedBy, Bool.and_eq_true, decide_eq_true_eq] at hown
    obtain ⟨⟨⟨hprovider, hpolicy⟩, hkey⟩, hid⟩ := hown
    simp [physicalWrapperIds, PamProviderFlagSpec.release, hprovider, hpolicy, hkey, hid]
    exact congrArg _ (ih h.2)

section

variable {spec : PamProviderFlagSpec}

theorem findEntry_singleton (spec : PamProviderFlagSpec) :
    findEntry [spec.entry] spec.policy spec.managedKey = some spec.entry := by
  simp [findEntry, PamProviderManagedEntry.isFor, PamProviderFlagSpec.entry]

section

variable (h : DisabledSpec spec)

include h

theorem DisabledSpec.validateRelease :
    validateFlagReleaseExpectation spec.release = .ok () := by
  have hids : candidateError
      { entryKind := .FlagDisabled, authorizedSuppressionIds := spec.createSuppressionIds } =
      none := by
    have hall : ∀ id ∈ spec.createSuppressionIds,
        isValidPamProviderSuppressionId id = true := h.ids
    simp only [candidateError, ne_eq, reduceCtorEq, not_false_eq_true, not_true_eq_false,
      and_false, false_and, if_false, List.findSome?_eq_none_iff]
    intro id hid
    simp [hall id hid]
  simp [validateFlagReleaseExpectation, PamProviderFlagSpec.release, h.provider, h.policy,
    h.managedKey, h.mutationId, hids]

/-- What the release removes, once the lines are unwrapped. -/
def PamProviderFlagSpec.ownership (spec : PamProviderFlagSpec) :
    PamProviderOwnershipExpectation :=
  { provider := spec.provider
    policy := spec.policy
    managedKey := spec.managedKey
    body := pamProviderFlagDisabledBody spec.managedKey
    mutationId := spec.mutationId }

theorem DisabledSpec.validateOwnership (hprovider : spec.provider ≠ pamPasswdqc) :
    validateOwnershipExpectation spec.ownership = .ok () := by
  have hbody : ownershipBodyMatchesKey (pamProviderFlagDisabledBody spec.managedKey)
      spec.managedKey spec.provider = true := by
    have hcomment : parseCanonicalPamProviderEntryBody
        (pamProviderFlagDisabledBody spec.managedKey) spec.provider = none :=
      parseCanonicalPamProviderEntryBody_comment _ _
    rw [ownershipBodyMatchesKey, hcomment,
      parseCanonicalPamProviderFlagDisabledBody_body h.managedKey]
    simp [h.managedKey, hprovider]
  simp [validateOwnershipExpectation, PamProviderFlagSpec.ownership, h.provider, h.policy,
    h.managedKey, h.mutationId, hbody]

theorem removePamProviderManagedEntry_disabled
    (hprovider : spec.provider ≠ pamPasswdqc) {foreign : Bytes}
    (hplain : mentionsReservedNamespace foreign = false)
    (placed request : PamProviderBlockPlacementRequest) :
    removePamProviderManagedEntry (placeBlock spec.provider [spec.entry] foreign placed)
        spec.ownership request =
      .ok { outcome := .BlockRemoved, content := foreign } := by
  obtain ⟨view, hview, hpresent, hviewProvider, hentries, -, hforeign⟩ :=
    decodesTo_placeBlock (h.block hprovider) hplain placed
  have hfind : findEntry view.entries spec.ownership.policy spec.ownership.managedKey =
      some spec.entry := by
    rw [hentries]
    exact findEntry_singleton spec
  have hremaining : view.entries.filter (fun candidate =>
      !candidate.isFor spec.ownership.policy spec.ownership.managedKey) = [] := by
    rw [hentries]
    simp [PamProviderManagedEntry.isFor, PamProviderFlagSpec.entry,
      PamProviderFlagSpec.ownership]
  have hid : spec.entry.mutationId = spec.ownership.mutationId := rfl
  have hbody : spec.entry.body = spec.ownership.body := h.entry_body
  have hsame : view.provider = spec.ownership.provider := hviewProvider
  unfold removePamProviderManagedEntry
  simp only [h.validateOwnership hprovider, hview, bind, Except.bind, hpresent, Bool.not_true,
    Bool.false_eq_true, if_false, hsame, ne_eq, not_true_eq_false, hfind, hid, hbody,
    hremaining, List.isEmpty_nil, if_true, hforeign]

theorem release_disabled (hprovider : spec.provider ≠ pamPasswdqc)
    {content : Bytes} {out : List Bytes}
    (hplain : mentionsReservedNamespace content = false) (hnul : spec.NulFree content)
    (hwrapped : Wrapped spec (physicalLines content) spec.createSuppressionIds out)
    (placed request : PamProviderBlockPlacementRequest) :
    (∃ view, parsePamProviderManagedBlock
        (placeBlock spec.provider [spec.entry] out.flatten placed) = .ok view) ∧
    ∃ result, releasePamProviderManagedFlag
        (placeBlock spec.provider [spec.entry] out.flatten placed) spec.release request =
          .ok result ∧ result.content = spec.restoreContent content := by
  obtain ⟨preLines, postLines, pre, post, lead, before, behind, hlayout, hrestored⟩ :=
    exists_disabledLayout h hprovider hplain hnul hwrapped placed
  have hparse := parsePamProviderManagedBlock_layout hlayout.layout
  refine ⟨⟨_, hparse⟩, ?_⟩
  have howned : ∀ w ∈ before ++ behind,
      w.ownedBy spec.provider spec.policy spec.managedKey spec.mutationId = true := by
    obtain ⟨_, hbefore⟩ := hlayout.wrappedBefore
    obtain ⟨_, hbehind⟩ := hlayout.wrappedBehind
    exact List.forall_mem_append.mpr ⟨hbefore.owned, hbehind.owned⟩
  have hids := physicalWrapperIds_owned howned
  rw [hlayout.ids] at hids
  have hfind : findEntry [spec.entry] spec.release.policy spec.release.managedKey =
      some spec.entry := findEntry_singleton spec
  have hmatch : spec.release.candidates.filter
      (·.matches (some spec.entry) spec.createSuppressionIds) = spec.release.candidates := by
    simp [PamProviderFlagSpec.release, PamProviderFlagOwnedStateCandidate.matches,
      h.entry_kind]
  have hunion : spec.createSuppressionIds.find? (fun id =>
      !(spec.release.candidates.flatMap (·.authorizedSuppressionIds)).contains id) = none := by
    simp [PamProviderFlagSpec.release]
  have hforeign : mentionsReservedNamespace (spec.restoreContent content) = false :=
    restoreContent_plain hplain
  have hremove := removePamProviderManagedEntry_disabled h hprovider hforeign placed request
  have hunwrap := hlayout.unwrap
  rw [hrestored] at hunwrap
  have howner : spec.ownership =
      { provider := spec.release.provider
        policy := spec.release.policy
        managedKey := spec.release.managedKey
        body := spec.entry.body
        mutationId := spec.release.mutationId } := by
    rw [h.entry_body]
    rfl
  unfold releasePamProviderManagedFlag
  have hpresent : (layoutView pre post spec.provider [spec.entry] lead
      (before ++ behind)).present = true := rfl
  have hown : decide ((layoutView pre post spec.provider [spec.entry] lead
      (before ++ behind)).provider ≠ spec.release.provider) = false := by
    simp [layoutView, PamProviderFlagSpec.release]
  have hid : (some spec.entry).any (fun entry =>
      decide (entry.mutationId ≠ spec.release.mutationId)) = false := by
    simp [PamProviderFlagSpec.release, PamProviderFlagSpec.entry]
  have hsome : spec.release.candidates.isEmpty = false := rfl
  simp only [h.validateRelease, hparse, bind, Except.bind, hpresent, hown, Bool.and_false,
    Bool.false_eq_true, if_false, if_true]
  simp only [layoutView] at hunwrap ⊢
  simp only [hids, hfind, hid, Bool.false_eq_true, if_false, Option.isNone_some,
    Bool.false_and, hmatch, hsome, hunion, Option.elim_some, ← howner, hunwrap, hremove]
  exact ⟨_, rfl, rfl⟩

end

end

/-! ## Disabled files the parser refuses -/

theorem parseLines_of_parse {view : PamProviderBlockView}
    (h : parsePamProviderManagedBlock content = .ok view) :
    ∃ st, parseLines 0 (physicalLines content) {} = .ok st := by
  unfold parsePamProviderManagedBlock at h
  split at h
  · contradiction
  exact ⟨_, ‹_›⟩

private theorem mem_rdropWhile_of_mem (h : c ∈ text) (hc : p c = false) :
    c ∈ text.rdropWhile p := by
  obtain ⟨before, behind, rfl⟩ := List.append_of_mem h
  rw [rdropWhile_append_cons hc]
  exact List.mem_append_right _ List.mem_cons_self

private theorem parseSuppressLine_ok (h : parseSuppressLine i line st = .ok st') :
    ∃ wrapper, parsePamProviderSuppressionWrapper (physicalLineContent line) = .ok wrapper := by
  unfold parseSuppressLine at h
  split_ifs at h
  split at h
  · contradiction
  · rename_i wrapper hparse
    exact ⟨wrapper, hparse⟩

private theorem parseSentinelLine_ok (h : parseSentinelLine line st = .ok st') :
    st.provider ≠ pamPasswdqc := by
  simp only [parseSentinelLine] at h
  split_ifs at h with hcond
  exact hcond.1

private theorem parseBlockBeginLine_ok {provider : Bytes} {lead : Bool}
    (h : parseBlockBeginLine i provider lead st = .ok st') :
    st'.provider = provider ∧ st'.beginIndex = some i := by
  unfold parseBlockBeginLine at h
  split_ifs at h
  cases h
  exact ⟨rfl, rfl⟩

private theorem parseLines_cons_ok (h : parseLines i (line :: lines) st = .ok st') :
    ∃ st₁, parseLine i line st = .ok st₁ ∧ parseLines (i + 1) lines st₁ = .ok st' := by
  rw [parseLines] at h
  split at h
  · contradiction
  · rename_i st₁ hline
    exact ⟨st₁, hline, h⟩

theorem parseLines_mem (h : parseLines i lines st = .ok st') (hline : line ∈ lines) :
    ∃ j s s', parseLine j line s = .ok s' := by
  induction lines generalizing i st with
  | nil => contradiction
  | cons first lines ih =>
    obtain ⟨st₁, hfirst, hrest⟩ := parseLines_cons_ok h
    rcases List.mem_cons.mp hline with rfl | hline
    · exact ⟨i, st, st₁, hfirst⟩
    · exact ih hrest hline

section Refused

variable {spec : PamProviderFlagSpec}

theorem nul_not_mem_of_parseLine (hspec : DisabledSpec spec) {id : Bytes}
    (hid : isValidPamProviderSuppressionId id = true) {j : Nat}
    (h : parseLine j (spec.front id ++ line) st = .ok st') :
    (0 : UInt8) ∉ (splitPhysicalLine line).1 := by
  have hphysical := physicalLineContent_wrapped spec.provider spec.policy spec.managedKey
    spec.mutationId id line
  have hmarker : kPamProviderSuppressMarkerPrefix <+:
      physicalLineContent (spec.front id ++ line) := by
    rw [PamProviderFlagSpec.front, hphysical, pamProviderSuppressionWrapperLine]
    exact List.prefix_append _ _
  rw [parseLine_suppressLine hmarker] at h
  obtain ⟨wrapper, hparse⟩ := parseSuppressLine_ok h
  rw [PamProviderFlagSpec.front, hphysical] at hparse
  intro hnul
  refine parsePamProviderSuppressionWrapper_nul hspec.provider hspec.policy
    hspec.managedKey hid hparse ?_
  exact mem_rdropWhile_of_mem hnul (by decide)

variable {out : List Bytes}

theorem Wrapped.mem {ids : List Bytes} (h : Wrapped spec lines ids out) (hline : line ∈ lines)
    (hactive : spec.activeLine line = true) : ∃ id ∈ ids, spec.front id ++ line ∈ out := by
  induction h with
  | nil => contradiction
  | keep hkept hrest ih =>
    rcases List.mem_cons.mp hline with rfl | hline
    · rw [hkept] at hactive
      contradiction
    · obtain ⟨id, hid, hmem⟩ := ih hline
      exact ⟨id, hid, List.mem_cons_of_mem _ hmem⟩
  | @wrap first id lines ids out hwrapped hrest ih =>
    rcases List.mem_cons.mp hline with rfl | hline
    · exact ⟨id, List.mem_cons_self, List.mem_cons_self⟩
    · obtain ⟨id', hid, hmem⟩ := ih hline
      exact ⟨id', List.mem_cons_of_mem _ hid, List.mem_cons_of_mem _ hmem⟩

theorem LineStep.provider_eq (h : LineStep i line st st') (hbegin : st.beginIndex ≠ none) :
    st'.provider = st.provider := by
  cases h with
  | blockBegin hparse hnone => exact absurd hnone hbegin
  | _ => rfl

/-- A block with the sentinel of a disabled flag is refused for the provider
without presence flags. -/
theorem provider_of_parseLines (hspec : DisabledSpec spec) {lead : Bool} {rest : List Bytes}
    (h : parseLines i (blockLines spec.provider [spec.entry] lead ++ rest) st = .ok st') :
    spec.provider ≠ pamPasswdqc := by
  have hlines : blockLines spec.provider [spec.entry] lead ++ rest =
      terminated (pamProviderBlockBeginMarker spec.provider lead) ::
        terminated (pamProviderEntryBeginMarker spec.policy spec.mutationId) ::
        terminated (pamProviderFlagDisabledBody spec.managedKey) ::
        (terminated kPamProviderEntryEndMarker :: terminated kPamProviderBlockEndMarker ::
          rest) := by
    rw [blockLines, List.flatMap_singleton, entryLines, hspec.entry_body]
    rfl
  rw [hlines] at h
  obtain ⟨st₁, hbegin, h⟩ := parseLines_cons_ok h
  obtain ⟨st₂, hentry, h⟩ := parseLines_cons_ok h
  obtain ⟨st₃, hsentinel, -⟩ := parseLines_cons_ok h
  rw [parseLine_blockBeginLine lead st i hspec.provider] at hbegin
  rw [parseLine_sentinelLine st₂ _ hspec.managedKey] at hsentinel
  obtain ⟨hprovider, hindex⟩ := parseBlockBeginLine_ok hbegin
  have hsame := (parseLine_step hentry).provider_eq (by simp [hindex])
  rw [← hprovider, ← hsame]
  exact parseSentinelLine_ok hsentinel

/-- The lines of the placed file: the block, and around it the wrapped lines
of the content, perhaps with the separator behind them. -/
theorem placedLines (hspec : DisabledSpec spec) {content : Bytes}
    (h : Wrapped spec (physicalLines content) spec.createSuppressionIds out)
    (request : PamProviderBlockPlacementRequest) :
    ∃ pre post lead text out',
      physicalLines (placeBlock spec.provider [spec.entry] out.flatten request) =
        pre ++ (blockLines spec.provider [spec.entry] lead ++ post) ∧
      (text = content ∨ text = content ++ [lf]) ∧
      Wrapped spec (physicalLines text) spec.createSuppressionIds out' ∧
      pre ++ post = out' := by
  have hbody : ∀ e ∈ [spec.entry],
      isValidPamProviderIdentityToken e.policy = true ∧ lf ∉ e.body := by
    intro e he
    rw [List.mem_singleton.mp he, hspec.entry_body]
    have hkey : lf ∉ spec.managedKey := not_mem_managedKey hspec.managedKey (by decide)
    have hmarker : lf ∉ kPamProviderFlagDisabledSentinelPrefix := by decide
    exact ⟨hspec.policy, by simp [pamProviderFlagDisabledBody, hkey, hmarker]⟩
  have hrender := fun lead =>
    physicalLines_renderBlock_of_lines lead hspec.provider hbody
  rw [placeBlock_eq]
  split_ifs
  · obtain ⟨out', hwrapped, hflat⟩ := h.concat_lf (lineShaped_physicalLines content)
    rw [flatten_physicalLines] at hwrapped
    refine ⟨out', [], true, content ++ [lf], out', ?_, .inr rfl, hwrapped, List.append_nil _⟩
    rw [physicalLines_append (.inr ⟨_, rfl⟩), hrender, ← hflat,
      hwrapped.physicalLines_flatten hspec]
    rfl
  · refine ⟨[], out, false, content, out, ?_, .inl rfl, h, rfl⟩
    rw [hrender, h.physicalLines_flatten hspec, List.nil_append]

/-- If the parser accepts the disabled file, the provider has presence flags
and no wrapped text holds a NUL byte. -/
theorem of_parse_disabled (hspec : DisabledSpec spec) {content : Bytes}
    (h : Wrapped spec (physicalLines content) spec.createSuppressionIds out)
    {view : PamProviderBlockView} (hparse : parsePamProviderManagedBlock
      (placeBlock spec.provider [spec.entry] out.flatten request) = .ok view) :
    spec.provider ≠ pamPasswdqc ∧ spec.NulFree content := by
  obtain ⟨pre, post, lead, text, out', hlines, htext, hwrapped, hout⟩ :=
    placedLines hspec h request
  obtain ⟨st, hrun⟩ := parseLines_of_parse hparse
  rw [hlines] at hrun
  have hnul : spec.NulFree text := by
    intro line hline hactive
    obtain ⟨id, hid, hmem⟩ := hwrapped.mem hline hactive
    rw [← hout] at hmem
    have hplaced : spec.front id ++ line ∈
        pre ++ (blockLines spec.provider [spec.entry] lead ++ post) := by
      rcases List.mem_append.mp hmem with hmem | hmem
      · exact List.mem_append_left _ hmem
      · exact List.mem_append_right _ (List.mem_append_right _ hmem)
    obtain ⟨j, s, s', hstep⟩ := parseLines_mem hrun hplaced
    exact nul_not_mem_of_parseLine hspec (hspec.ids id hid) hstep
  constructor
  · rw [parseLines_append] at hrun
    cases hpre : parseLines 0 pre {} with
    | error e => simp [hpre] at hrun
    | ok st₀ =>
      rw [hpre] at hrun
      exact provider_of_parseLines hspec hrun
  · rcases htext with rfl | rfl
    · exact hnul
    · intro line hline hactive
      rcases mem_physicalLines_of_concat_lf hline with hmem | ⟨hlf, hmem⟩
      · exact hnul line hmem hactive
      · have hsame := hnul _ hmem (by rw [activeLine_concat_lf hlf, hactive])
        rw [splitPhysicalLine_concat_lf hlf] at hsame
        exact hsame

end Refused

/-! ## The round trip -/

/-- Disabling a flag on a file without FIC state and releasing it gives the
file back exactly when the provider has presence flags and no active line's
text holds a NUL byte or ends in a carriage return. -/
theorem disableThenRelease_iff {content : Bytes} {spec : PamProviderFlagSpec}
    {view : PamProviderBlockView} {placed request : PamProviderBlockPlacementRequest}
    {result : PamProviderMutationResult}
    (hview : parsePamProviderManagedBlock content = .ok view)
    (hpresent : view.present = false) (hwrappers : view.suppressions = [])
    (hdisabled : spec.enabled = false)
    (hset : setPamProviderManagedFlagTransition content spec placed = .ok result) :
    ((∃ disabled, parsePamProviderManagedBlock result.content = .ok disabled) ∧
      ∃ released, releasePamProviderManagedFlag result.content spec.release request =
        .ok released ∧ released.content = content) ↔
    spec.provider ≠ pamPasswdqc ∧
      ∀ line ∈ physicalLines content, spec.activeLine line = true →
        (0 : UInt8) ∉ (splitPhysicalLine line).1 ∧
          (splitPhysicalLine line).1.getLast? ≠ some cr := by
  have hplain := plain_of_parse hview hpresent hwrappers
  obtain ⟨hspec, out, hwrapped, hcontent⟩ :=
    setPamProviderManagedFlagTransition_disabled hdisabled hplain hset
  rw [hcontent]
  constructor
  · rintro ⟨⟨disabled, hparse⟩, released, hrelease, hexact⟩
    obtain ⟨hprovider, hnul⟩ := of_parse_disabled hspec hwrapped hparse
    obtain ⟨-, released', hrelease', hrestored⟩ :=
      release_disabled hspec hprovider hplain hnul hwrapped placed request
    rw [hrelease', Except.ok.injEq] at hrelease
    rw [← hrelease, hrestored] at hexact
    have hcr := restoreContent_eq_iff.mp hexact
    exact ⟨hprovider, fun line hline hactive =>
      ⟨hnul line hline hactive, hcr line hline hactive⟩⟩
  · rintro ⟨hprovider, htexts⟩
    have hnul : spec.NulFree content := fun line hline hactive =>
      (htexts line hline hactive).1
    obtain ⟨hparse, released, hrelease, hrestored⟩ :=
      release_disabled hspec hprovider hplain hnul hwrapped placed request
    refine ⟨hparse, released, hrelease, ?_⟩
    rw [hrestored]
    exact restoreContent_eq_iff.mpr fun line hline hactive => (htexts line hline hactive).2

/-- Disabling `even_deny_root`, which two foreign lines enable. -/
def sampleFlag : PamProviderFlagSpec :=
  { provider := lit "pam_faillock"
    policy := lit "faillock_even_deny_root"
    managedKey := lit "even_deny_root"
    enabled := false
    mutationId := 9
    createSuppressionIds := [lit "s1", lit "s2"] }

/-- A file with both line endings and none at its end. -/
def sampleFlagContent : Bytes := lit "even_deny_root\r\naudit\n  even_deny_root"

theorem disableThenRelease_iff_sample :
    ∃ result, setPamProviderManagedFlagTransition sampleFlagContent sampleFlag .End =
        .ok result ∧
      (∃ disabled, parsePamProviderManagedBlock result.content = .ok disabled) ∧
      ∃ released, releasePamProviderManagedFlag result.content sampleFlag.release .End =
        .ok released ∧ released.content = sampleFlagContent := by
  have hplain : mentionsReservedNamespace sampleFlagContent = false := rfl
  have hset : (setPamProviderManagedFlagTransition sampleFlagContent sampleFlag
      .End).toOption.isSome = true := by decide +kernel
  have hcond : sampleFlag.provider ≠ pamPasswdqc ∧
      ∀ line ∈ physicalLines sampleFlagContent, sampleFlag.activeLine line = true →
        (0 : UInt8) ∉ (splitPhysicalLine line).1 ∧
          (splitPhysicalLine line).1.getLast? ≠ some cr := by
    decide +kernel
  cases hresult : setPamProviderManagedFlagTransition sampleFlagContent sampleFlag .End with
  | error e =>
    rw [hresult] at hset
    contradiction
  | ok result =>
    exact ⟨result, rfl, (disableThenRelease_iff (parsePamProviderManagedBlock_plain hplain)
      rfl rfl rfl hresult).mpr hcond⟩

def sampleFlagOnce : PamProviderFlagSpec :=
  { sampleFlag with createSuppressionIds := [lit "s1"] }

/-- The disabled form of the file `even_deny_root\r\r\n`. -/
def carriageReturnDisabled : Bytes :=
  lit ("# FIC_PAM_SUPPRESS version=1 provider=pam_faillock " ++
    "policy=faillock_even_deny_root key=even_deny_root mutation=9 suppression=s1 " ++
    "raw=even_deny_root\r\r\n" ++
    "\n" ++
    "# FIC_PAM_PROVIDER_BLOCK_BEGIN version=1 provider=pam_faillock lead=newline\n" ++
    "# FIC_PAM_ENTRY_BEGIN version=1 policy=faillock_even_deny_root mutation=9\n" ++
    "# FIC_PAM_FLAG_DISABLED version=1 key=even_deny_root\n" ++
    "# FIC_PAM_ENTRY_END\n" ++
    "# FIC_PAM_PROVIDER_BLOCK_END\n")

/-- The text of the line `even_deny_root\r\r\n` ends in a carriage return: the
reader of the wrapper takes it for a line end, and the release loses it. -/
theorem disableThenRelease_carriage_return :
    (parsePamProviderManagedBlock (lit "even_deny_root\r\r\n")).toOption = some {} ∧
      (setPamProviderManagedFlagTransition (lit "even_deny_root\r\r\n") sampleFlagOnce
        .End).toOption = some { outcome := .Committed, content := carriageReturnDisabled } ∧
      (releasePamProviderManagedFlag carriageReturnDisabled sampleFlagOnce.release
        .End).toOption =
          some { outcome := .Released, changed := true, content := lit "even_deny_root\r\n" } := by
  refine ⟨?_, ?_, ?_⟩
  · decide +kernel
  · decide +kernel
  · decide +kernel

end Fic.Pam
