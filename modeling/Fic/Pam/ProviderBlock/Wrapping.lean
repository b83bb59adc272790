import Fic.Lib.Except
import Fic.Pam.ProviderBlock.Flags
import Fic.Pam.ProviderBlock.Placement

/-!
# Wrapped and restored lines

Disabling a flag on a file without FIC state wraps every active foreign
occurrence in place: `Wrapped` relates the lines before and behind.  What a
later release makes of the file is `restoreContent`: the original with the
trailing carriage returns of the wrapped texts lost.  `restoreContent_eq_iff`
says when nothing is lost.
-/

namespace Fic.Pam

open Fic.Lib

variable {view : PamProviderBlockView} {st' : ParseState}
  {content line : Bytes} {lines : List Bytes} {i : Nat} {st : ParseState}

/-! ## Files without FIC state -/

/-- A step that ends without block and without wrappers read a plain line
and changed nothing. -/
private theorem LineStep.blank (h : LineStep i line st st') (hbegin : st'.beginIndex = none)
    (hwrappers : st'.suppressions = []) : st' = st ∧ mentionsReservedNamespace line = false := by
  have hinside : st.insideBlock = true → st.beginIndex ≠ none := by
    intro hblock hnone
    simp [ParseState.insideBlock, hnone] at hblock
  cases h with
  | foreign hplain hblock =>
    rw [mentionsReservedNamespace_lineContent] at hplain
    exact ⟨rfl, hplain⟩
  | wrapper hblock hparse hfresh => simp at hwrappers
  | blockBegin hparse hnone => simp at hbegin
  | blockEnd hline hblock hentry hcount => exact absurd hbegin (hinside hblock)
  | entryBegin hparse hblock hentry => exact absurd hbegin (hinside hblock)
  | entryEnd hline hblock hentry hbody hconflict => exact absurd hbegin (hinside hblock)
  | body hblock hentry hbody => exact absurd hbegin (hinside hblock)

private theorem parseLines_blank (h : parseLines i lines st = .ok st')
    (hbegin : st'.beginIndex = none) (hwrappers : st'.suppressions = []) :
    st' = st ∧ ∀ line ∈ lines, mentionsReservedNamespace line = false := by
  induction lines generalizing i st with
  | nil =>
    rw [parseLines, Except.ok.injEq] at h
    exact ⟨h.symm, by simp⟩
  | cons line lines ih =>
    rw [parseLines] at h
    split at h
    · contradiction
    · rename_i st₁ hline
      obtain ⟨rfl, hrest⟩ := ih h
      obtain ⟨rfl, hfirst⟩ := (parseLine_step hline).blank hbegin hwrappers
      exact ⟨rfl, List.forall_mem_cons.mpr ⟨hfirst, hrest⟩⟩

private theorem blockView_present {beginIndex endIndex : Nat}
    (h : blockView content lines beginIndex endIndex st = .ok view) : view.present = true := by
  unfold blockView at h
  dsimp only at h
  split at h
  · contradiction
  · cases h
    rfl

/-- A file that parses without block and wrappers has no FIC text. -/
theorem plain_of_parse (h : parsePamProviderManagedBlock content = .ok view)
    (hpresent : view.present = false) (hwrappers : view.suppressions = []) :
    mentionsReservedNamespace content = false := by
  unfold parsePamProviderManagedBlock at h
  split at h
  · contradiction
  · rename_i st hrun
    unfold finishParse at h
    split_ifs at h
    split at h
    · rename_i hbegin
      cases h
      obtain ⟨-, hlines⟩ := parseLines_blank hrun hbegin hwrappers
      rw [mentionsReservedNamespace, Bytes.hasWord_eq_false_iff,
        ← flatten_physicalLines content]
      refine not_infix_flatten (by decide) (lineShaped_physicalLines content) (by decide) ?_
      intro line hline
      exact Bytes.hasWord_eq_false_iff.mp (hlines line hline)
    · contradiction
    · rw [blockView_present h] at hpresent
      contradiction

/-! ## Wrapping active lines -/

def PamProviderFlagSpec.activeLine (spec : PamProviderFlagSpec) (line : Bytes) : Bool :=
  pamProviderFlagLineIsActiveOccurrence spec.provider (splitPhysicalLine line).1
    spec.managedKey

def PamProviderFlagSpec.front (spec : PamProviderFlagSpec) (id : Bytes) : Bytes :=
  wrapperFront spec.provider spec.policy spec.managedKey spec.mutationId id

/-- `out` is `lines` with the active lines wrapped, using up `ids` in order. -/
inductive Wrapped (spec : PamProviderFlagSpec) :
    List Bytes → List Bytes → List Bytes → Prop
  | nil : Wrapped spec [] [] []
  | keep {line : Bytes} {lines ids out : List Bytes} (hline : spec.activeLine line = false)
      (hrest : Wrapped spec lines ids out) :
      Wrapped spec (line :: lines) ids (line :: out)
  | wrap {line id : Bytes} {lines ids out : List Bytes}
      (hline : spec.activeLine line = true) (hrest : Wrapped spec lines ids out) :
      Wrapped spec (line :: lines) (id :: ids) ((spec.front id ++ line) :: out)

/-- On a file without FIC state the transition to disabled wraps. -/
theorem wrapped_of_rebuildLines {spec : PamProviderFlagSpec} (hdisabled : spec.enabled = false)
    {ids out left : List Bytes} {changed : Bool}
    (h : rebuildLines spec {} (none, none) i lines ids = .ok (out, left, changed)) :
    ∃ used, ids = used ++ left ∧ Wrapped spec lines used out := by
  induction lines generalizing i ids out left changed with
  | nil =>
    obtain ⟨rfl, rfl, -⟩ := h
    exact ⟨[], rfl, .nil⟩
  | cons line lines ih =>
    simp only [rebuildLines, insideBlockSpan, Bool.false_eq_true, if_false, wrapperAt,
      List.find?_nil] at h
    obtain ⟨⟨line', ids', changed₁⟩, hline, h⟩ := except_bind_eq_ok.mp h
    obtain ⟨⟨out', left', changed₂⟩, hrest, h⟩ := except_bind_eq_ok.mp h
    obtain ⟨rfl, rfl, -⟩ := h
    obtain ⟨used, rfl, hwrapped⟩ := ih hrest
    simp only [rebuildForeignLine, hdisabled, Bool.not_false, Bool.true_and] at hline
    split at hline
    · rename_i hactive
      cases ids with
      | nil => cases hline
      | cons id ids =>
        obtain ⟨rfl, rfl, -⟩ := hline
        refine ⟨id :: used, rfl, ?_⟩
        rw [← wrapperFront_append, List.append_assoc, splitPhysicalLine_append]
        exact .wrap hactive hwrapped
    · rename_i hactive
      obtain ⟨rfl, rfl, -⟩ := hline
      exact ⟨used, rfl, .keep (Bool.eq_false_iff.mpr hactive) hwrapped⟩

/-! ## What the release restores -/

/-- What a release makes of a line: of an active line's text the trailing
carriage returns are lost. -/
def PamProviderFlagSpec.restoreLine (spec : PamProviderFlagSpec) (line : Bytes) : Bytes :=
  if spec.activeLine line then
    (splitPhysicalLine line).1.rdropWhile isLineEnd ++ (splitPhysicalLine line).2
  else line

def PamProviderFlagSpec.restoreContent (spec : PamProviderFlagSpec) (content : Bytes) :
    Bytes :=
  ((physicalLines content).map spec.restoreLine).flatten

section Restore

variable {spec : PamProviderFlagSpec}

theorem activeLine_concat_lf (h : lf ∉ line) :
    spec.activeLine (line ++ [lf]) = spec.activeLine line := by
  rw [PamProviderFlagSpec.activeLine, splitPhysicalLine_concat_lf h]
  rfl

theorem restoreLine_concat_lf (h : lf ∉ line) :
    spec.restoreLine (line ++ [lf]) = spec.restoreLine line ++ [lf] := by
  rw [PamProviderFlagSpec.restoreLine, PamProviderFlagSpec.restoreLine,
    activeLine_concat_lf h, splitPhysicalLine_concat_lf h]
  split_ifs
  · rw [List.append_assoc]
  · rfl

theorem activeLine_text_ne_nil (h : spec.activeLine line = true) :
    (splitPhysicalLine line).1.rdropWhile isLineEnd ≠ [] := by
  rw [PamProviderFlagSpec.activeLine, ← activeOccurrence_rdropWhile] at h
  exact activeOccurrence_ne_nil h

theorem restoreLine_ne_nil (h : line ≠ []) : spec.restoreLine line ≠ [] := by
  rw [PamProviderFlagSpec.restoreLine]
  split_ifs with hactive
  · simp [activeLine_text_ne_nil hactive]
  · exact h

theorem restoreLine_sublist (line : Bytes) : (spec.restoreLine line).Sublist line := by
  rw [PamProviderFlagSpec.restoreLine]
  split_ifs
  · conv_rhs => rw [← splitPhysicalLine_append line]
    exact (List.rdropWhile_prefix _ _).sublist.append (List.Sublist.refl _)
  · exact List.Sublist.refl _

theorem restoreLine_shaped (h : LineShaped lines) : LineShaped (lines.map spec.restoreLine) := by
  induction h with
  | nil => exact .nil
  | last hne hlf =>
    exact .last (restoreLine_ne_nil hne) fun hmem => hlf ((restoreLine_sublist _).subset hmem)
  | cons hlf hrest ih =>
    rw [List.map_cons, restoreLine_concat_lf hlf]
    exact .cons (fun hmem => hlf ((restoreLine_sublist _).subset hmem)) ih

theorem restoreLine_plain (h : mentionsReservedNamespace line = false) :
    mentionsReservedNamespace (spec.restoreLine line) = false := by
  rw [PamProviderFlagSpec.restoreLine]
  split_ifs
  · rw [mentionsReservedNamespace, Bytes.hasWord_eq_false_iff] at h ⊢
    have hword : ∀ c ∈ kPamProviderReservedMarkerNamespace, isLineEnd c = false := by
      intro c hc
      have hall : kPamProviderReservedMarkerNamespace.all (fun c => !isLineEnd c) = true := rfl
      simpa using List.all_eq_true.mp hall c hc
    intro hin
    -- the word lies in the text, which is a part of the line
    rw [← infix_rdropWhile_iff hword,
      rdropWhile_append_of_pos (List.all_eq_true.mp (splitPhysicalLine_terminator _)),
      infix_rdropWhile_iff hword, infix_rdropWhile_iff hword] at hin
    refine h (hin.trans ?_)
    conv_rhs => rw [← splitPhysicalLine_append line]
    exact (List.prefix_append _ _).isInfix
  · exact h

theorem restoreContent_plain (h : mentionsReservedNamespace content = false) :
    mentionsReservedNamespace (spec.restoreContent content) = false := by
  rw [mentionsReservedNamespace, Bytes.hasWord_eq_false_iff]
  refine not_infix_flatten (by decide) (restoreLine_shaped (lineShaped_physicalLines content))
    (by decide) ?_
  intro line hline
  obtain ⟨original, horiginal, rfl⟩ := List.mem_map.mp hline
  have hplain := mentionsReservedNamespace_of_part (infix_of_mem_physicalLines horiginal) h
  exact Bytes.hasWord_eq_false_iff.mp (restoreLine_plain hplain)

theorem restoreContent_ne_nil (h : content ≠ []) : spec.restoreContent content ≠ [] := by
  intro hnil
  have hlines : physicalLines (spec.restoreContent content) =
      (physicalLines content).map spec.restoreLine :=
    physicalLines_flatten (restoreLine_shaped (lineShaped_physicalLines content))
  rw [hnil] at hlines
  exact h (physicalLines_eq_nil.mp (List.map_eq_nil_iff.mp hlines.symm))

theorem activeLine_lf : spec.activeLine [lf] = false := by
  have hsplit : splitPhysicalLine [lf] = ([], [lf]) := rfl
  rw [PamProviderFlagSpec.activeLine, hsplit]
  simp [pamProviderFlagLineIsActiveOccurrence]

theorem restoreContent_concat_lf (content : Bytes) :
    spec.restoreContent (content ++ [lf]) = spec.restoreContent content ++ [lf] := by
  have hlf : spec.restoreLine [lf] = [lf] := by
    rw [PamProviderFlagSpec.restoreLine, activeLine_lf]
    rfl
  rw [PamProviderFlagSpec.restoreContent, PamProviderFlagSpec.restoreContent]
  rcases physicalLines_concat_lf content with heq | ⟨init, last, hlines, hnot, heq⟩ <;> rw [heq]
  · simp [hlf]
  · simp [hlines, restoreLine_concat_lf hnot]

theorem splitPhysicalLine_text_lf (h : line ∈ physicalLines content) :
    lf ∉ (splitPhysicalLine line).1 := by
  obtain ⟨text, hlf, hshape⟩ := (lineShaped_physicalLines content).mem h
  have htext : lf ∉ (splitPhysicalLine text).1 := by
    intro hmem
    refine hlf ?_
    rw [← splitPhysicalLine_append text]
    exact List.mem_append_left _ hmem
  rcases hshape with rfl | rfl
  · rw [splitPhysicalLine_concat_lf hlf]
    exact htext
  · exact htext

theorem restoreLine_eq_iff (hactive : spec.activeLine line = true)
    (hlf : lf ∉ (splitPhysicalLine line).1) :
    spec.restoreLine line = line ↔ (splitPhysicalLine line).1.getLast? ≠ some cr := by
  have hcancel : spec.restoreLine line = line ↔
      (splitPhysicalLine line).1.rdropWhile isLineEnd = (splitPhysicalLine line).1 := by
    rw [PamProviderFlagSpec.restoreLine, if_pos hactive]
    conv_lhs =>
      rhs
      rw [← splitPhysicalLine_append line]
    exact List.append_left_inj _
  rw [hcancel, List.rdropWhile_eq_self_iff]
  constructor
  · intro h hcr
    obtain ⟨text, htext⟩ := List.getLast?_eq_some_iff.mp hcr
    refine h (by simp [htext]) ?_
    simp only [htext, List.getLast_append_singleton]
    rfl
  · intro h hne hend
    simp only [isLineEnd, Bool.or_eq_true, beq_iff_eq] at hend
    rcases hend with hend | hend
    · exact hlf (hend ▸ List.getLast_mem hne)
    · exact h (by rw [List.getLast?_eq_some_getLast hne, hend])

/-- The release gives the file back exactly when no active text ends in a
carriage return. -/
theorem restoreContent_eq_iff :
    spec.restoreContent content = content ↔
      ∀ line ∈ physicalLines content, spec.activeLine line = true →
        (splitPhysicalLine line).1.getLast? ≠ some cr := by
  rw [PamProviderFlagSpec.restoreContent]
  constructor
  · intro h line hline hactive
    rw [← restoreLine_eq_iff hactive (splitPhysicalLine_text_lf hline)]
    refine map_eq_of_flatten_eq (fun x _ => (restoreLine_sublist x).length_le) ?_ line hline
    rw [h, flatten_physicalLines]
  · intro h
    have hsame : (physicalLines content).map spec.restoreLine = physicalLines content := by
      conv_rhs => rw [← List.map_id (physicalLines content)]
      refine List.map_congr_left fun line hline => ?_
      by_cases hactive : spec.activeLine line = true
      · exact (restoreLine_eq_iff hactive (splitPhysicalLine_text_lf hline)).mpr
          (h line hline hactive)
      · rw [PamProviderFlagSpec.restoreLine, if_neg hactive, id]
    rw [hsame, flatten_physicalLines]

end Restore

end Fic.Pam
