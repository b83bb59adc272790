import Fic.Sudo.DisabledRoundTrip

/-!
# Restored entries and their neighbours

A restored file is the file with each released wrapper replaced by its original
lines (`replaceWrappers`).  An original line that had no terminator is put back where
its wrapper stands, and when something follows the wrapper, the two run together.
This module says when every line of the restored file stays a line of its own.
-/

namespace Fic.Sudo

open Fic.Lib
open Fic.Journal (SudoScopedDefaultsWrapperProof kScopedDefaultsPolicyName)

variable {wrappers : List SudoDisabledWrapper} {before body : List SudoPhysicalLine}
  {w : SudoDisabledWrapper} {selects : SudoDisabledWrapper → Bool}
  {closing opening : SudoPhysicalLine}

/-! ## Lines that stay apart -/

/-- Joined and cut again, the lines are the same pieces. -/
def Apart (lines : List SudoPhysicalLine) : Prop :=
  LineShaped (lines.map SudoPhysicalLine.bytes)

/-- A line that can stand in a wrapper. -/
structure IsOriginal (line : SudoPhysicalLine) : Prop where
  noLf : lf ∉ line.text
  terminator : line.terminator = [lf] ∨ line.terminator = crLf ∨ line.terminator = []

variable {line : SudoPhysicalLine}

theorem IsLine.isOriginal (h : IsLine line) : IsOriginal line :=
  ⟨h.noLf, h.terminator_cases⟩

theorem IsOriginal.bytes_eq (h : IsOriginal line)
    (ht : line.terminator ≠ []) : ∃ raw, lf ∉ raw ∧ line.bytes = raw ++ [lf] := by
  rcases h.terminator with hterm | hterm | hterm
  · exact ⟨line.text, h.noLf, by rw [SudoPhysicalLine.bytes, hterm]⟩
  · refine ⟨line.text ++ [cr], ?_, by simp [SudoPhysicalLine.bytes, hterm, crLf]⟩
    simpa [h.noLf] using (show lf ≠ cr by decide)
  · exact absurd hterm ht

section Apart

variable {line : SudoPhysicalLine} {lines : List SudoPhysicalLine}

theorem apart_cons_terminated (h : IsOriginal line) (ht : line.terminator ≠ []) :
    Apart (line :: lines) ↔ Apart lines := by
  obtain ⟨raw, hlf, hraw⟩ := h.bytes_eq ht
  unfold Apart
  rw [List.map_cons, hraw]
  constructor
  · intro hshaped
    generalize hfirst : raw ++ [lf] = first at hshaped
    generalize lines.map SudoPhysicalLine.bytes = rest at hshaped ⊢
    cases hshaped with
    | last _ hnone => exact absurd (by simp [← hfirst]) hnone
    | cons _ hrest => exact hrest
  · exact .cons hlf

theorem apart_cons_unterminated (h : IsOriginal line) (ht : line.terminator = []) :
    Apart (line :: lines) ↔ lines = [] ∧ line.text ≠ [] := by
  have hbytes : line.bytes = line.text := by simp [SudoPhysicalLine.bytes, ht]
  unfold Apart
  rw [List.map_cons, hbytes]
  constructor
  · intro hshaped
    generalize hfirst : line.text = first at hshaped
    generalize hrest : lines.map SudoPhysicalLine.bytes = rest at hshaped
    cases hshaped with
    | last hne _ => exact ⟨List.map_eq_nil_iff.mp hrest, hne⟩
    | @cons text _ _ _ => exact absurd (by simp [hfirst]) h.noLf
  · rintro ⟨rfl, hne⟩
    exact .last hne h.noLf

theorem apart_append_terminated {a : List SudoPhysicalLine} (ha : ∀ line ∈ a, IsOriginal line)
    (ht : ∀ line ∈ a, line.terminator ≠ []) : Apart (a ++ lines) ↔ Apart lines := by
  induction a with
  | nil => rfl
  | cons first a ih =>
    obtain ⟨hfirst, ha⟩ := List.forall_mem_cons.mp ha
    obtain ⟨htfirst, ht⟩ := List.forall_mem_cons.mp ht
    rw [List.cons_append, apart_cons_terminated hfirst htfirst, ih ha ht]

theorem apart_originals {originals : List SudoPhysicalLine}
    (h : ∀ line ∈ originals, IsOriginal line) (hne : originals ≠ []) :
    Apart (originals ++ lines) ↔
      (∀ line ∈ originals.dropLast, line.terminator ≠ []) ∧
      (∀ line ∈ originals.getLast?, line.terminator ≠ [] ∨ lines = [] ∧ line.text ≠ []) ∧
      Apart lines := by
  induction originals with
  | nil => exact absurd rfl hne
  | cons first originals ih =>
    obtain ⟨hfirst, hrest⟩ := List.forall_mem_cons.mp h
    cases originals with
    | nil =>
      by_cases ht : first.terminator = []
      · rw [List.singleton_append, apart_cons_unterminated hfirst ht]
        simp only [List.dropLast_singleton, List.not_mem_nil, false_imp_iff, implies_true,
          List.getLast?_singleton, Option.mem_some, forall_eq', ht, ne_eq, not_true, false_or,
          true_and]
        constructor
        · rintro ⟨rfl, htext⟩
          exact ⟨⟨rfl, htext⟩, .nil⟩
        · exact And.left
      · rw [List.singleton_append, apart_cons_terminated hfirst ht]
        simp [ht]
    | cons second originals =>
      by_cases ht : first.terminator = []
      · rw [List.cons_append, apart_cons_unterminated hfirst ht]
        simp [ht]
      · rw [List.cons_append, apart_cons_terminated hfirst ht, ih hrest (by simp)]
        simp [ht]

end Apart

/-! ## What a wrapper puts back -/

theorem decodeSudoLineEol_cases {value terminator : Bytes}
    (h : decodeSudoLineEol value = some terminator) :
    terminator = [lf] ∨ terminator = crLf ∨ terminator = [] := by
  unfold decodeSudoLineEol at h
  split_ifs at h <;> simp_all

theorem isOriginal_parseDisabledLine {text : Bytes} {original : SudoPhysicalLine}
    (h : parseDisabledLine text = .ok original) (hlf : lf ∉ text) : IsOriginal original := by
  unfold parseDisabledLine at h
  dsimp only at h
  split_ifs at h
  split at h
  · cases h
  · rename_i terminator hdecode
    obtain rfl := (Except.ok.inj h).symm
    refine ⟨fun hmem => hlf ?_, decodeSudoLineEol_cases hdecode⟩
    have hcoded := List.mem_of_mem_drop hmem
    have hbody := List.mem_of_mem_drop ((List.dropWhile_suffix _).mem hcoded)
    exact List.mem_of_mem_drop hbody

theorem IsBlock.isOriginal (h : IsBlock w opening body closing)
    (hlines : ∀ line ∈ body, IsLine line) : ∀ line ∈ w.originalLines, IsOriginal line := by
  intro original horiginal
  obtain ⟨i, hi, rfl⟩ := List.mem_iff_getElem.mp horiginal
  have hi' : i < body.length := by rw [h.body_length]; exact hi
  have hparsed := h.body.get hi' hi
  exact isOriginal_parseDisabledLine hparsed (hlines _ (List.getElem_mem hi')).noLf

/-- The wrapper can be restored in a file of `total` lines: what it puts back is
terminated, unless it is the last line of the file. -/
structure Restorable (total : Nat) (w : SudoDisabledWrapper) : Prop where
  inner : ∀ line ∈ w.originalLines.dropLast, line.terminator ≠ []
  last : ∀ line ∈ w.originalLines.getLast?,
    line.terminator ≠ [] ∨ w.endLine + 1 = total ∧ line.text ≠ []

theorem restorable_iff {total : Nat} : Restorable total w ↔
    (∀ line ∈ w.originalLines.dropLast, line.terminator ≠ []) ∧
    (∀ line ∈ w.originalLines.getLast?,
      line.terminator ≠ [] ∨ w.endLine + 1 = total ∧ line.text ≠ []) :=
  ⟨fun h => ⟨h.inner, h.last⟩, fun h => ⟨h.1, h.2⟩⟩

instance (total : Nat) (w : SudoDisabledWrapper) : Decidable (Restorable total w) :=
  decidable_of_iff _ restorable_iff.symm

/-! ## The file without its wrappers -/

/-- What comes in place of the line with a number: the first line of a released
wrapper gives way to the original lines, the others go. -/
def inPlace (released : List SudoDisabledWrapper) (numbered : SudoPhysicalLine × Nat) :
    List SudoPhysicalLine :=
  match released.find? fun w => w.beginLine ≤ numbered.2 && numbered.2 ≤ w.endLine with
  | none => [numbered.1]
  | some w => if numbered.2 = w.beginLine then w.originalLines else []

/-- The lines from the number `index` on, each released wrapper replaced by its
original lines. -/
def replaceWrappers (released : List SudoDisabledWrapper) (index : Nat)
    (lines : List SudoPhysicalLine) : List SudoPhysicalLine :=
  (lines.zipIdx index).flatMap (inPlace released)

section Replace

variable {released : List SudoDisabledWrapper} {index : Nat} {lines : List SudoPhysicalLine}

theorem replaceWrappers_cons : replaceWrappers released index (line :: lines) =
    inPlace released (line, index) ++ replaceWrappers released (index + 1) lines := by
  simp [replaceWrappers, List.zipIdx_cons]

theorem replaceWrappers_append {a : List SudoPhysicalLine} :
    replaceWrappers released index (a ++ lines) =
      replaceWrappers released index a ++ replaceWrappers released (index + a.length) lines := by
  simp [replaceWrappers, List.zipIdx_append]

theorem inPlace_outside (h : ∀ w ∈ released, index < w.beginLine) :
    inPlace released (line, index) = [line] := by
  have hnone : (released.find? fun w => w.beginLine ≤ index && index ≤ w.endLine) = none := by
    refine List.find?_eq_none.mpr fun w hw => ?_
    have := h w hw
    simp
    omega
  simp only [inPlace, hnone]

theorem replaceWrappers_outside (h : ∀ w ∈ released, index + lines.length ≤ w.beginLine) :
    replaceWrappers released index lines = lines := by
  induction lines generalizing index with
  | nil => rfl
  | cons line lines ih =>
    simp only [List.length_cons] at h
    rw [replaceWrappers_cons, inPlace_outside fun w hw => by have := h w hw; omega,
      ih fun w hw => by have := h w hw; omega]
    rfl

/-- Behind a wrapper only the other ones matter. -/
theorem replaceWrappers_behind (h : w.endLine < index) :
    replaceWrappers (w :: released) index lines = replaceWrappers released index lines := by
  induction lines generalizing index with
  | nil => rfl
  | cons line lines ih =>
    have hnot : ¬ index ≤ w.endLine := by omega
    rw [replaceWrappers_cons, replaceWrappers_cons, ih (by omega)]
    simp [inPlace, hnot]

theorem replaceWrappers_inside (hbegin : w.beginLine < index)
    (hend : index + lines.length ≤ w.endLine + 1) :
    replaceWrappers (w :: released) index lines = [] := by
  induction lines generalizing index with
  | nil => rfl
  | cons line lines ih =>
    rw [List.length_cons] at hend
    have hinside : (decide (w.beginLine ≤ index) && decide (index ≤ w.endLine)) = true := by
      simp
      omega
    have hlater : index ≠ w.beginLine := by omega
    rw [replaceWrappers_cons, ih (by omega) (by omega)]
    simp [inPlace, hinside, hlater]

theorem replaceWrappers_block (h : IsBlock w opening body closing) :
    replaceWrappers (w :: released) w.beginLine ((opening :: (body ++ [closing])) ++ lines) =
      w.originalLines ++ replaceWrappers released (w.endLine + 1) lines := by
  have hbehind : w.beginLine + (opening :: (body ++ [closing])).length = w.endLine + 1 :=
    h.length []
  have hinside : w.beginLine + 1 + (body ++ [closing]).length ≤ w.endLine + 1 := by
    rw [List.length_cons] at hbehind
    omega
  have hfirst : inPlace (w :: released) (opening, w.beginLine) = w.originalLines := by
    have hle : w.beginLine ≤ w.endLine := by omega
    simp [inPlace, hle]
  rw [replaceWrappers_append, hbehind, replaceWrappers_behind (Nat.lt_succ_self _),
    replaceWrappers_cons, hfirst, replaceWrappers_inside (Nat.lt_succ_self _) hinside,
    List.append_nil]

end Replace

theorem Layout.le_beginLine {index : Nat} {lines : List SudoPhysicalLine}
    (h : Layout index lines wrappers) : ∀ w ∈ wrappers, index ≤ w.beginLine := by
  induction h with
  | nil => simp
  | foreign _ _ ih => exact fun w hw => (Nat.le_succ _).trans (ih w hw)
  | @block w _ _ _ _ _ hblock _ ih =>
    have hlines := hblock.lines
    refine List.forall_mem_cons.mpr ⟨le_rfl, fun w' hw' => ?_⟩
    have := ih w' hw'
    omega

/-! ## Restoring along a layout -/

/-- What restoring the selected wrappers makes of the lines from a place on. -/
structure Restored (index : Nat) (lines : List SudoPhysicalLine)
    (wrappers : List SudoDisabledWrapper) (selects : SudoDisabledWrapper → Bool)
    (before result : List SudoPhysicalLine) : Prop where
  eq : (wrappers.filter selects).foldr (fun w lines => unwrap lines w) (before ++ lines) =
    before ++ result
  replaced : result = replaceWrappers (wrappers.filter selects) index lines
  nil_iff : result = [] ↔ lines = []
  apart_iff : Apart result ↔
    ∀ w ∈ wrappers, selects w = true → Restorable (index + lines.length) w

variable {lines : List SudoPhysicalLine}

theorem unwrap_block (h : IsBlock w opening body closing) (hbefore : before.length = w.beginLine) :
    unwrap (before ++ (opening :: (body ++ [closing])) ++ lines) w =
      before ++ (w.originalLines ++ lines) := by
  have htake : (before ++ (opening :: (body ++ [closing])) ++ lines).take w.beginLine = before := by
    rw [List.append_assoc]
    exact List.take_left' hbefore
  have hdrop : (before ++ (opening :: (body ++ [closing])) ++ lines).drop (w.endLine + 1) =
      lines := by
    refine List.drop_left' ?_
    have hlength := h.length []
    simp only [List.length_append, List.length_cons, List.length_nil] at hlength ⊢
    omega
  unfold unwrap
  rw [htake, hdrop, List.append_assoc]

variable {result : List SudoPhysicalLine}

theorem Restored.of_foreign {index : Nat} (hshaped : Shaped (line :: lines))
    (hbegin : ∀ w ∈ wrappers, index + 1 ≤ w.beginLine)
    (h : Restored (index + 1) lines wrappers selects (before ++ [line]) result) :
    Restored index (line :: lines) wrappers selects before (line :: result) := by
  have hline := (hshaped.isLine line List.mem_cons_self).isOriginal
  have hreplaced : line :: result =
      replaceWrappers (wrappers.filter selects) index (line :: lines) := by
    rw [replaceWrappers_cons, inPlace_outside fun w hw => hbegin w (List.mem_filter.mp hw).1,
      ← h.replaced, List.singleton_append]
  refine ⟨by simpa using h.eq, hreplaced, by simp, ?_⟩
  have htotal : index + (line :: lines).length = index + 1 + lines.length := by
    simp only [List.length_cons]
    omega
  rw [htotal, ← h.apart_iff]
  by_cases hnil : lines = []
  · -- Nothing follows, so nothing is restored behind the line.
    subst hnil
    rw [h.nil_iff.mpr rfl]
    exact iff_of_true hshaped.lineShaped .nil
  · have ht := Shaped.terminated (a := [line]) hshaped hnil line List.mem_cons_self
    exact apart_cons_terminated hline ht

theorem Restored.of_block (hblock : IsBlock w opening body closing)
    (hshaped : Shaped ((opening :: (body ++ [closing])) ++ lines))
    (hbefore : before.length = w.beginLine) (hbegin : ∀ v ∈ wrappers, w.endLine + 1 ≤ v.beginLine)
    (h : Restored (w.endLine + 1) lines wrappers selects
      (before ++ (opening :: (body ++ [closing]))) result) :
    ∃ all, Restored w.beginLine ((opening :: (body ++ [closing])) ++ lines) (w :: wrappers)
      selects before all := by
  have htotal : w.beginLine + ((opening :: (body ++ [closing])) ++ lines).length =
      w.endLine + 1 + lines.length := by
    rw [← hblock.length lines]
    simp
  have hblockLines : ∀ line ∈ opening :: (body ++ [closing]), IsOriginal line := fun line hline =>
    (hshaped.isLine line (List.mem_append_left _ hline)).isOriginal
  have heq := h.eq
  by_cases hselected : selects w = true
  · refine ⟨w.originalLines ++ result, ?_, ?_, by simp [hblock.nonempty], ?_⟩
    · rw [List.filter_cons_of_pos hselected, List.foldr_cons, ← List.append_assoc, heq,
        unwrap_block hblock hbefore]
    · rw [List.filter_cons_of_pos hselected, replaceWrappers_block hblock, ← h.replaced]
    · have horiginals := hblock.isOriginal fun line hline =>
        hshaped.isLine line (by simp [hline])
      have hlast : result = [] ↔ w.endLine + 1 = w.endLine + 1 + lines.length := by
        rw [h.nil_iff, ← List.length_eq_zero_iff]
        omega
      rw [apart_originals horiginals hblock.nonempty, htotal, List.forall_mem_cons, hlast,
        h.apart_iff, restorable_iff]
      simp only [hselected, true_imp_iff, and_assoc]
  · have hblockLength : w.beginLine + (opening :: (body ++ [closing])).length = w.endLine + 1 :=
      hblock.length []
    refine ⟨(opening :: (body ++ [closing])) ++ result, ?_, ?_, by simp, ?_⟩
    · rw [List.filter_cons_of_neg hselected, ← List.append_assoc, heq, List.append_assoc]
    · rw [List.filter_cons_of_neg hselected, replaceWrappers_append, hblockLength, ← h.replaced,
        replaceWrappers_outside]
      intro v hv
      rw [hblockLength]
      exact hbegin v (List.mem_filter.mp hv).1
    · rw [htotal, List.forall_mem_cons, ← h.apart_iff]
      simp only [hselected, Bool.false_eq_true, false_imp_iff, true_and]
      by_cases hnil : lines = []
      · subst hnil
        rw [h.nil_iff.mpr rfl]
        exact iff_of_true hshaped.lineShaped .nil
      · exact apart_append_terminated hblockLines (hshaped.terminated hnil)

/-- Restoring goes through the layout from its end, one piece after the other. -/
theorem Layout.restored {index : Nat} (h : Layout index lines wrappers) (hshaped : Shaped lines)
    (selects : SudoDisabledWrapper → Bool) (before : List SudoPhysicalLine)
    (hbefore : before.length = index) :
    ∃ result, Restored index lines wrappers selects before result := by
  induction h generalizing before with
  | nil => exact ⟨[], by simp, rfl, by simp, iff_of_true .nil (by simp)⟩
  | @foreign index line lines wrappers _ hrest ih =>
    obtain ⟨result, hresult⟩ := ih (Shaped.of_append_right (a := [line]) hshaped)
      (before ++ [line]) (by simp [hbefore])
    exact ⟨_, hresult.of_foreign hshaped hrest.le_beginLine⟩
  | @block w opening closing body lines wrappers hblock hrest ih =>
    have hlines : opening :: (body ++ closing :: lines) =
        (opening :: (body ++ [closing])) ++ lines := by simp
    rw [hlines] at hshaped ⊢
    have hlength := hblock.length []
    obtain ⟨result, hresult⟩ := ih hshaped.of_append_right
      (before ++ (opening :: (body ++ [closing]))) (by
        simp only [List.length_append, List.length_cons, List.length_nil] at hlength ⊢
        omega)
    exact hresult.of_block hblock hshaped hbefore hrest.le_beginLine

/-! ## Both restoring functions -/

/-- Every restored line is cut off again as a line of its own, and a line of the file
before is still the same line. -/
def KeepsLines (lines restored : List SudoPhysicalLine) : Prop :=
  List.Forall₂ (fun line cut => cut.bytes = line.bytes ∧ (line ∈ lines → cut = line))
    restored (splitPhysicalLines (joinPhysicalLines restored))

variable {restored : List SudoPhysicalLine}

theorem keepsLines_iff (h : Shaped lines) :
    KeepsLines lines restored ↔ Apart restored := by
  constructor
  · intro hkeeps
    have hbytes : restored.map SudoPhysicalLine.bytes =
        (splitPhysicalLines (joinPhysicalLines restored)).map SudoPhysicalLine.bytes := by
      rw [← List.forall₂_eq_eq_eq, List.forall₂_map_left_iff, List.forall₂_map_right_iff]
      exact hkeeps.imp fun _ _ hline => hline.1.symm
    unfold Apart
    rw [hbytes]
    exact (shaped_split _).lineShaped
  · intro hapart
    unfold KeepsLines
    rw [split_join_recut hapart, List.forall₂_map_right_iff, List.forall₂_same]
    exact fun line _ =>
      ⟨bytes_cutTerminator _, fun hline => cutTerminator_bytes (h.isLine line hline)⟩

theorem restoreWrappers_keepsLines {prim : ProofPrimitives} {path policy content : Bytes}
    {proofs : List SudoScopedDefaultsWrapperProof}
    {changed : Bool}
    (hparse : parseSudoDisabledWrappers (splitPhysicalLines content) = .ok wrappers)
    (h : restoreWrappers prim (splitPhysicalLines content) path policy proofs selects =
      .ok (restored, changed)) :
    restored = replaceWrappers (wrappers.filter fun w => w.policy = policy && selects w) 0
        (splitPhysicalLines content) ∧
      (KeepsLines (splitPhysicalLines content) restored ↔
        ∀ w ∈ wrappers, w.policy = policy → selects w = true →
          Restorable (splitPhysicalLines content).length w) := by
  unfold restoreWrappers at h
  rw [hparse] at h
  dsimp only at h
  split_ifs at h
  have hresult := (Prod.mk.inj (Except.ok.inj h)).1
  have hshaped := shaped_split content
  obtain ⟨result, hrestored⟩ := (parseSudoDisabledWrappers_eq_ok_iff.mp hparse).restored hshaped
    (fun w => w.policy = policy && selects w) [] rfl
  have hsame : restored = result := by
    rw [← hresult]
    exact hrestored.eq
  refine ⟨hsame.trans hrestored.replaced, ?_⟩
  rw [keepsLines_iff hshaped, hsame, hrestored.apart_iff, Nat.zero_add]
  simp only [Bool.and_eq_true, decide_eq_true_eq, and_imp]

/-- Restoring replaces each wrapper that is restored by its original lines and keeps
everything else.  Every line stays a line of its own exactly when each of these wrappers
puts back terminated lines, or is the last thing in the file. -/
theorem restoreSudoDisabledEntries_keepsLines_iff (prim : ProofPrimitives)
    (path policy content : Bytes) (proofs : List SudoScopedDefaultsWrapperProof)
    (wrappers : List SudoDisabledWrapper)
    (hparse : parseSudoDisabledWrappers (splitPhysicalLines content) = .ok wrappers) :
    (∀ restored changed,
      restoreSudoDisabledEntries prim (splitPhysicalLines content) path policy proofs =
        .ok (restored, changed) →
      restored = replaceWrappers (wrappers.filter (·.policy = policy)) 0
          (splitPhysicalLines content) ∧
        (KeepsLines (splitPhysicalLines content) restored ↔
          ∀ w ∈ wrappers, w.policy = policy →
            Restorable (splitPhysicalLines content).length w)) ∧
    ∀ ids restored changed,
      restoreSelectedSudoDisabledEntries prim (splitPhysicalLines content) path policy proofs ids =
        .ok (restored, changed) →
      restored = replaceWrappers
          (wrappers.filter fun w => w.policy = policy && ids.contains w.mutationId) 0
          (splitPhysicalLines content) ∧
        (KeepsLines (splitPhysicalLines content) restored ↔
          ∀ w ∈ wrappers, w.policy = policy → w.mutationId ∈ ids →
            Restorable (splitPhysicalLines content).length w) := by
  constructor
  · intro restored changed h
    simpa only [Bool.and_true, true_imp_iff] using restoreWrappers_keepsLines hparse h
  · intro ids restored changed h
    simpa only [List.contains_iff_mem] using restoreWrappers_keepsLines hparse h

/-- A file that ended in a suppressed entry without a terminator, with what an
administrator has added behind it. -/
def appendedFile (added : Bytes) : Bytes :=
  suppressed (lit "Defaults:u requiretty") (sampleEntry (lit "Defaults:u requiretty"))
    sampleWrapperId ++ added

def appendedProofs : List SudoScopedDefaultsWrapperProof :=
  [⟨sampleWrapperId, lit "/etc/sudoers", lit "Defaults:u requiretty"⟩]

def appendedWrapper : SudoDisabledWrapper :=
  { policy := kScopedDefaultsPolicyName
    mutationId := sampleWrapperId
    originalLines := [⟨lit "Defaults:u requiretty", []⟩]
    beginLine := 0
    endLine := 2 }

theorem restoreSudoDisabledEntries_keepsLines_sample :
    restoreSudoDisabledEntries plainProofs (splitPhysicalLines (appendedFile []))
        (lit "/etc/sudoers") kScopedDefaultsPolicyName appendedProofs =
      .ok (appendedWrapper.originalLines, true) ∧
    KeepsLines (splitPhysicalLines (appendedFile [])) appendedWrapper.originalLines := by
  have hparse : parseSudoDisabledWrappers (splitPhysicalLines (appendedFile [])) =
      .ok [appendedWrapper] := by decide +kernel
  have hrestored : restoreSudoDisabledEntries plainProofs (splitPhysicalLines (appendedFile []))
      (lit "/etc/sudoers") kScopedDefaultsPolicyName appendedProofs =
        .ok (appendedWrapper.originalLines, true) := by decide +kernel
  refine ⟨hrestored, ?_⟩
  exact ((restoreSudoDisabledEntries_keepsLines_iff plainProofs (lit "/etc/sudoers")
    kScopedDefaultsPolicyName (appendedFile []) appendedProofs [appendedWrapper] hparse).1 _ _
    hrestored).2.mpr (by decide +kernel)

/-- A rule added behind the wrapper is joined with the restored line. -/
theorem restoreSudoDisabledEntries_merges :
    ∃ restored, restoreSudoDisabledEntries plainProofs
        (splitPhysicalLines (appendedFile (lit "u ALL=(ALL) ALL\n")))
        (lit "/etc/sudoers") kScopedDefaultsPolicyName appendedProofs = .ok (restored, true) ∧
      joinPhysicalLines restored = lit "Defaults:u requirettyu ALL=(ALL) ALL\n" ∧
      ¬ KeepsLines (splitPhysicalLines (appendedFile (lit "u ALL=(ALL) ALL\n"))) restored := by
  refine ⟨[⟨lit "Defaults:u requiretty", []⟩, ⟨lit "u ALL=(ALL) ALL", [lf]⟩], by decide +kernel,
    by decide +kernel, ?_⟩
  intro h
  have hlength := h.length_eq
  revert hlength
  decide +kernel

end Fic.Sudo
