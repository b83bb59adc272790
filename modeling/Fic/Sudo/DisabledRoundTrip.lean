import Fic.Sudo.DisabledLayout

/-!
# Suppressing an entry and restoring it

A suppressed line is written with a line feed behind it, whatever terminator the
original line had, and is cut again when the file is read.  A text that ends in a
carriage return loses it there: the reader takes it for a part of the terminator.
So suppressing and restoring an entry gives the file back exactly when no line of
the entry has such a text.
-/

namespace Fic.Sudo

open Fic.Lib
open Fic.Journal (SudoScopedDefaultsWrapperProof isCanonicalSudoWrapperId
  kScopedDefaultsPolicyName)

variable {key terminator value : Bytes} {earlier later : List SudoDisabledWrapper}
  {line : SudoPhysicalLine}
  {path policy text : Bytes} {originals : List SudoPhysicalLine}
  {proofs : List SudoScopedDefaultsWrapperProof} {prim : ProofPrimitives} {b : UInt8}

/-! ## Reading what was written -/

theorem parseField_eq (hkey : equalsSign ∉ key) (hne : key ≠ []) (hvalue : value ≠ []) :
    parseField (key ++ equalsSign :: value) = some (key, value) := by
  unfold parseField
  rw [takeWhile_cut hkey, dropWhile_cut hkey]
  simp [hne, hvalue]

/-- A value that a marker can hold. -/
structure IsFieldValue (value : Bytes) : Prop where
  nonempty : value ≠ []
  noBlank : blank ∉ value
  noLf : lf ∉ value

theorem field_noBlank (hkey : blank ∉ key) (hvalue : blank ∉ value) :
    ∀ b ∈ key ++ equalsSign :: value, (b == blank) = false := by
  intro b hb
  have hne : b ≠ blank := by
    refine ne_of_mem_of_not_mem hb ?_
    simpa [hkey, hvalue] using (show blank ≠ equalsSign by decide)
  simpa using hne

theorem markerFields_eq (policy id : Bytes) : markerFields policy id =
    ((lit "policy" ++ equalsSign :: policy) ++
      blank :: (lit "mutation" ++ equalsSign :: id)) ++ [atSign] := by
  have hpolicy : lit "policy=" = lit "policy" ++ [equalsSign] := by decide
  have hmutation : lit " mutation=" = blank :: (lit "mutation" ++ [equalsSign]) := by decide
  have hat : lit "@" = [atSign] := by decide
  simp [markerFields, hpolicy, hmutation, hat]

variable {id : Bytes}

theorem parseMarkerFields_markerFields (hpolicy : IsFieldValue policy) (hid : IsFieldValue id) :
    parseMarkerFields (markerFields policy id) =
      some [(lit "policy", policy), (lit "mutation", id)] := by
  have hfirst := field_noBlank (show blank ∉ lit "policy" by decide) hpolicy.noBlank
  have hsecond := field_noBlank (show blank ∉ lit "mutation" by decide) hid.noBlank
  have hlast : (lit "policy" ++ equalsSign :: policy ++
      blank :: (lit "mutation" ++ equalsSign :: id)).getLast? ≠ some blank := by
    intro hlast
    rw [List.getLast?_append_of_ne_nil _ (by simp),
      List.getLast?_cons_of_ne_nil (by simp)] at hlast
    have hblank := hsecond _ (List.mem_of_getLast? hlast)
    simp at hblank
  unfold parseMarkerFields
  rw [markerFields_eq, List.getLast?_concat, List.dropLast_concat]
  have hsplit : (lit "policy" ++ equalsSign :: policy ++
      blank :: (lit "mutation" ++ equalsSign :: id)).splitOn blank =
        [lit "policy" ++ equalsSign :: policy, lit "mutation" ++ equalsSign :: id] := by
    show List.splitOnP _ _ = _
    rw [List.splitOnP_append_cons_of_forall_mem hfirst _ (by simp),
      List.splitOnP_eq_singleton hsecond]
  have hpolicyField := parseField_eq (show equalsSign ∉ lit "policy" by decide) (by decide)
    hpolicy.nonempty
  have hidField := parseField_eq (show equalsSign ∉ lit "mutation" by decide) (by decide)
    hid.nonempty
  simp only [hsplit, hlast, decide_false, Bool.or_false]
  rw [if_neg (by simp), if_neg (by simp)]
  simp [parseFields, hpolicyField, hidField]

theorem parseWrapperMarker_markerFields (markerPrefix : Bytes)
    (hpolicy : IsFieldValue policy) (hid : IsFieldValue id) :
    parseWrapperMarker (markerPrefix ++ markerFields policy id) markerPrefix =
      .ok (policy, id) := by
  unfold parseWrapperMarker
  rw [List.drop_left, parseMarkerFields_markerFields hpolicy hid]
  rfl

theorem decode_encodeSudoLineEol (h : terminator = [lf] ∨ terminator = crLf ∨ terminator = []) :
    decodeSudoLineEol (encodeSudoLineEol terminator) = some terminator ∧
      atSign ∉ encodeSudoLineEol terminator := by
  rcases h with rfl | rfl | rfl <;> decide

theorem IsLine.terminator_cases (h : IsLine line) :
    line.terminator = [lf] ∨ line.terminator = crLf ∨ line.terminator = [] := by
  cases h <;> simp

/-- The text of a suppressed line, with the carriage return it may lose. -/
def disabledText (terminator text : Bytes) : Bytes :=
  kSudoDisabledLinePrefix ++ kSudoLineEolPrefix ++ encodeSudoLineEol terminator ++ lit "@" ++ text

theorem parseDisabledLine_disabledText (text : Bytes)
    (h : terminator = [lf] ∨ terminator = crLf ∨ terminator = []) :
    parseDisabledLine (disabledText terminator text) = .ok { text, terminator } := by
  obtain ⟨hdecode, hat⟩ := decode_encodeSudoLineEol h
  have htext : disabledText terminator text = kSudoDisabledLinePrefix ++
      (kSudoLineEolPrefix ++ (encodeSudoLineEol terminator ++ atSign :: text)) := by
    have hsign : lit "@" = [atSign] := by decide
    simp [disabledText, hsign]
  unfold parseDisabledLine
  simp only [htext, List.drop_left, takeWhile_cut hat, dropWhile_cut hat, hdecode]
  simp

theorem mem_intercalate_singleton {sep : UInt8} {parts : List Bytes}
    (h : b ∈ [sep].intercalate parts) : b = sep ∨ ∃ part ∈ parts, b ∈ part := by
  obtain ⟨piece, hpiece, hb⟩ := List.mem_flatten.mp h
  obtain ⟨i, hi⟩ := List.mem_iff_getElem?.mp hpiece
  rw [List.getElem?_intersperse] at hi
  split_ifs at hi
  · exact .inr ⟨piece, List.mem_of_getElem? hi, hb⟩
  · rw [← Option.some.inj hi] at hb
    exact .inl (List.mem_singleton.mp hb)

section

variable (h : isCanonicalSudoWrapperId id = true)

include h

theorem canonicalId_bytes :
    lit "FIC-SUDO-" <+: id ∧ ∀ b ∈ id.drop 9, b = '-'.toUInt8 ∨ isDigit b = true := by
  unfold isCanonicalSudoWrapperId at h
  simp only [Bool.and_eq_true, decide_eq_true_eq, List.all_eq_true] at h
  obtain ⟨hstarts, -, hgroups⟩ := h
  refine ⟨hstarts, fun b hb => ?_⟩
  have hparts : ['-'.toUInt8].intercalate ((id.drop 9).splitOn '-'.toUInt8) = id.drop 9 :=
    List.intercalate_splitOn _
  rw [← hparts] at hb
  rcases mem_intercalate_singleton hb with hsep | ⟨part, hpart, hb⟩
  · exact .inl hsep
  · have hgroup : part ∈ (if ((id.drop 9).splitOn '-'.toUInt8).getLast? = some [] then
        ((id.drop 9).splitOn '-'.toUInt8).dropLast else (id.drop 9).splitOn '-'.toUInt8) := by
      split_ifs with hlast
      · rw [← List.dropLast_append_getLast? _ hlast] at hpart
        rcases List.mem_append.mp hpart with hpart | hpart
        · exact hpart
        · rw [List.mem_singleton.mp hpart] at hb
          cases hb
      · exact hpart
    exact .inr ((hgroups part hgroup).2 b hb)

theorem not_mem_canonicalId {c : UInt8}
    (hstarts : c ∉ lit "FIC-SUDO-") (hc : ¬(c = '-'.toUInt8 ∨ isDigit c = true)) : c ∉ id := by
  obtain ⟨⟨rest, rfl⟩, hbytes⟩ := canonicalId_bytes h
  intro hmem
  rcases List.mem_append.mp hmem with hmem | hmem
  · exact hstarts hmem
  · exact hc (hbytes c hmem)

theorem isFieldValue_canonicalId : IsFieldValue id := by
  have hne : id ≠ [] := by
    obtain ⟨⟨rest, rfl⟩, -⟩ := canonicalId_bytes h
    exact List.append_ne_nil_of_left_ne_nil (by decide) rest
  exact ⟨hne, not_mem_canonicalId h (by decide) (by decide),
    not_mem_canonicalId h (by decide) (by decide)⟩

end

theorem isFieldValue_policyName : IsFieldValue kScopedDefaultsPolicyName :=
  ⟨by decide, by decide, by decide⟩

/-! ## The block of a suppressed entry -/

/-- What is left of a text in front of a line feed. -/
def dropCr (text : Bytes) : Bytes :=
  if text.getLast? = some cr then text.dropLast else text

theorem dropCr_eq_self : dropCr text = text ↔ text.getLast? ≠ some cr := by
  unfold dropCr
  split_ifs with hcr
  · refine iff_of_false (fun h => ?_) (fun h => h hcr)
    have hlength := congrArg List.length h
    have hpos : 0 < text.length := List.length_pos_of_mem (List.mem_of_getLast? hcr)
    rw [List.length_dropLast] at hlength
    omega
  · simpa using hcr

theorem recut_markerLine_text (text : Bytes) : (recut (markerLine text)).text = dropCr text := by
  simp only [recut, markerLine, SudoPhysicalLine.bytes, cutTerminator, dropCr,
    List.getLast?_concat, List.dropLast_concat, if_true]
  split_ifs <;> rfl

theorem dropCr_append_singleton (h : b ≠ cr) : dropCr (text ++ [b]) = text ++ [b] := by
  rw [dropCr_eq_self, List.getLast?_concat]
  simpa using h

theorem dropCr_append_cons {before : Bytes} (h : b ≠ cr) :
    dropCr (before ++ b :: text) = before ++ b :: dropCr text := by
  by_cases hne : text = []
  · subst hne
    exact dropCr_append_singleton h
  · unfold dropCr
    rw [List.getLast?_append_of_ne_nil _ (by simp), List.getLast?_cons_of_ne_nil hne]
    split_ifs
    · rw [List.dropLast_append_of_ne_nil (by simp), List.dropLast_cons_of_ne_nil hne]
    · rfl

theorem recut_markerFields (markerPrefix policy id : Bytes) :
    (recut (markerLine (markerPrefix ++ markerFields policy id))).text =
      markerPrefix ++ markerFields policy id := by
  rw [recut_markerLine_text, markerFields_eq, ← List.append_assoc]
  exact dropCr_append_singleton (by decide)

theorem dropCr_disabledText (terminator text : Bytes) :
    dropCr (disabledText terminator text) = disabledText terminator (dropCr text) := by
  have hsign : lit "@" = [atSign] := by decide
  simp only [disabledText, hsign, List.append_assoc, List.singleton_append]
  simp only [← List.append_assoc]
  exact dropCr_append_cons (by decide)

/-- A suppressed line as it is read again. -/
def reread (line : SudoPhysicalLine) : SudoPhysicalLine := { line with text := dropCr line.text }

/-- What is written for an entry is a block, and holds the lines as they are read
again. -/
theorem isBlock_wrapperLines (hpolicy : IsFieldValue policy) (hid : IsFieldValue id)
    (hne : originals ≠ []) (hlines : ∀ line ∈ originals, IsLine line) (index : Nat) :
    IsBlock ⟨policy, id, originals.map reread, index, index + originals.length + 1⟩
      (recut (markerLine (kSudoDisabledBeginPrefix ++ markerFields policy id)))
      ((originals.map disabledLine).map recut)
      (recut (markerLine (kSudoDisabledEndPrefix ++ markerFields policy id))) where
  begins := by
    rw [recut_markerFields]
    exact List.prefix_append _ _
  opens := by
    rw [recut_markerFields]
    exact parseWrapperMarker_markerFields _ hpolicy hid
  body := by
    rw [List.map_map, List.forall₂_map_left_iff, List.forall₂_map_right_iff, List.forall₂_same]
    intro line hline
    have htext : (recut (disabledLine line)).text =
        disabledText line.terminator (dropCr line.text) := by
      rw [← dropCr_disabledText]
      exact recut_markerLine_text _
    rw [Function.comp_apply, htext]
    exact parseDisabledLine_disabledText _ (hlines line hline).terminator_cases
  nonempty := by simpa using hne
  ends := by
    rw [recut_markerFields]
    exact List.prefix_append _ _
  closes := by
    rw [recut_markerFields]
    exact parseWrapperMarker_markerFields _ hpolicy hid
  lines := by simp

/-! ## Ownership -/

variable {wrappers : List SudoDisabledWrapper}

theorem mem_fileIds :
    id ∈ fileIds wrappers policy ↔ ∃ w ∈ wrappers, w.policy = policy ∧ w.mutationId = id := by
  simp [fileIds, List.mem_insertionSort, and_assoc]

theorem isUnknownId_eq_false : isUnknownId prim path proofs id = false ↔
      ∃ proof, proofOf proofs id = some proof ∧
        proof.canonicalPath = prim.canonicalizeSudoProofPath path := by
  unfold isUnknownId
  cases proofOf proofs id <;> simp

/-- Every wrapper of the policy has its proof. -/
structure Proven (prim : ProofPrimitives) (wrappers : List SudoDisabledWrapper)
    (path policy : Bytes) (proofs : List SudoScopedDefaultsWrapperProof) : Prop where
  distinctProofs : (proofs.map (·.wrapperId)).Nodup
  distinctIds : ((wrappers.filter fun w => w.policy = policy).map (·.mutationId)).Nodup
  proof : ∀ w ∈ wrappers, w.policy = policy → ∃ proof, proofOf proofs w.mutationId = some proof ∧
    proof.canonicalPath = prim.canonicalizeSudoProofPath path ∧
    proof.payloadDigest = w.payloadDigest prim

/-- The check passes exactly when every wrapper of the policy has its proof. -/
theorem safeToRelease_iff :
    (checkSudoWrapperProvenance prim wrappers path policy proofs).safeToRelease = true ↔
      Proven prim wrappers path policy proofs := by
  simp only [SudoWrapperProvenanceCheck.safeToRelease, checkSudoWrapperProvenance,
    Bool.not_not, Bool.and_eq_true, decide_eq_true_eq, List.isEmpty_iff, List.filter_eq_nil_iff,
    mem_fileIds, Bool.not_eq_true, forall_exists_index, and_imp]
  constructor
  · rintro ⟨⟨⟨hproofs, hids⟩, hknown⟩, hsame⟩
    refine ⟨hproofs, hids, fun w hw hpolicy => ?_⟩
    have hunknown := hknown w.mutationId w hw hpolicy rfl
    obtain ⟨proof, hproof, hpath⟩ := isUnknownId_eq_false.mp hunknown
    refine ⟨proof, hproof, hpath, ?_⟩
    have hdrift := hsame w.mutationId w hw hpolicy rfl
    simp only [isDriftedId, hunknown, hproof, Bool.not_false, Bool.true_and, Option.any_some,
      List.any_eq_false] at hdrift
    have hdigest : w.payloadDigest prim = proof.payloadDigest := by
      simpa [hpolicy] using hdrift w hw
    exact hdigest.symm
  · intro h
    refine ⟨⟨⟨h.distinctProofs, h.distinctIds⟩, ?_⟩, ?_⟩
    · rintro _ w hw hpolicy rfl
      obtain ⟨proof, hproof, hpath, -⟩ := h.proof w hw hpolicy
      exact isUnknownId_eq_false.mpr ⟨proof, hproof, hpath⟩
    · rintro _ w hw hpolicy rfl
      obtain ⟨proof, hproof, hpath, -⟩ := h.proof w hw hpolicy
      simp only [isDriftedId, hproof, isUnknownId_eq_false.mpr ⟨proof, hproof, hpath⟩,
        Bool.not_false, Bool.true_and, Option.any_some, List.any_eq_false]
      intro v hv hdrift
      simp only [Bool.and_eq_true, decide_eq_true_eq] at hdrift
      obtain ⟨⟨hvpolicy, hvid⟩, hdigest⟩ := hdrift
      obtain ⟨other, hother, -, hsame⟩ := h.proof v hv hvpolicy
      rw [hvid, hproof] at hother
      obtain rfl := Option.some.inj hother
      exact hdigest hsame.symm

variable {proof : SudoScopedDefaultsWrapperProof}

theorem proofOf_append_left {more : List SudoScopedDefaultsWrapperProof}
    (h : proofOf proofs id = some proof) :
    proofOf (proofs ++ more) id = some proof := by
  unfold proofOf at h ⊢
  rw [List.find?_append, h, Option.some_or]

theorem proofOf_append_new (h : proof.wrapperId ∉ proofs.map (·.wrapperId)) :
    proofOf (proofs ++ [proof]) proof.wrapperId = some proof := by
  have hnone : proofs.find? (fun p => p.wrapperId = proof.wrapperId) = none := by
    rw [List.find?_eq_none]
    intro p hp he
    have he' : p.wrapperId = proof.wrapperId := by simpa using he
    exact h (he' ▸ List.mem_map_of_mem hp)
  unfold proofOf
  rw [List.find?_append, hnone]
  simp

/-- A new wrapper with its proof joins proven ones. -/
theorem Proven.insert (h : Proven prim (earlier ++ later) path policy proofs)
    (new : SudoDisabledWrapper) (hpolicy : new.policy = policy)
    (hfresh : ∀ w ∈ earlier ++ later, w.mutationId ≠ new.mutationId)
    (hunused : new.mutationId ∉ proofs.map (·.wrapperId)) (k : Nat) :
    Proven prim (earlier ++ new :: later.map (SudoDisabledWrapper.shift k)) path policy
      (proofs ++ [⟨new.mutationId, prim.canonicalizeSudoProofPath path,
        new.payloadDigest prim⟩]) := by
  constructor
  · rw [List.map_append, List.nodup_append]
    refine ⟨h.distinctProofs, by simp, ?_⟩
    intro id hid other hother
    obtain rfl : other = new.mutationId := by simpa using hother
    exact fun e => hunused (e ▸ hid)
  · have hids : ((later.map (SudoDisabledWrapper.shift k)).filter fun w => w.policy = policy).map
        (·.mutationId) = (later.filter fun w => w.policy = policy).map (·.mutationId) := by
      rw [List.filter_map, List.map_map]
      rfl
    have hperm : List.Perm
        (((earlier ++ new :: later.map (SudoDisabledWrapper.shift k)).filter
          fun w => w.policy = policy).map (·.mutationId))
        (new.mutationId ::
          ((earlier ++ later).filter fun w => w.policy = policy).map (·.mutationId)) := by
      simp only [List.filter_append, List.map_append, List.filter_cons, hpolicy, decide_true,
        if_true, List.map_cons, hids]
      exact List.perm_middle
    rw [hperm.nodup_iff, List.nodup_cons]
    refine ⟨?_, h.distinctIds⟩
    intro hmem
    obtain ⟨w, hw, hid⟩ := List.mem_map.mp hmem
    exact hfresh w (List.mem_of_mem_filter hw) hid
  · intro w hw hwpolicy
    rcases List.mem_append.mp hw with hw | hw
    · obtain ⟨proof, hproof, hrest⟩ := h.proof w (List.mem_append_left _ hw) hwpolicy
      exact ⟨proof, proofOf_append_left hproof, hrest⟩
    · rcases List.mem_cons.mp hw with rfl | hw
      · exact ⟨_, proofOf_append_new hunused, rfl, rfl⟩
      · obtain ⟨v, hv, rfl⟩ := List.mem_map.mp hw
        obtain ⟨proof, hproof, hrest⟩ := h.proof v (List.mem_append_right _ hv) hwpolicy
        exact ⟨proof, proofOf_append_left hproof, hrest⟩

/-! ## The round trip -/

theorem noLf_markerFields {markerPrefix : Bytes} (hstarts : lf ∉ markerPrefix)
    (hpolicy : IsFieldValue policy) (hid : IsFieldValue id) :
    lf ∉ markerPrefix ++ markerFields policy id := by
  have hfields : lf ∉ lit "policy=" ∧ lf ∉ lit " mutation=" ∧ lf ∉ lit "@" := by decide
  simp [markerFields, hstarts, hpolicy.noLf, hid.noLf, hfields]

theorem noLf_disabledLine (h : IsLine line) : lf ∉ (disabledLine line).text := by
  have heol : lf ∉ encodeSudoLineEol line.terminator := by
    rcases h.terminator_cases with ht | ht | ht <;> rw [ht] <;> decide
  have hfixed : lf ∉ kSudoDisabledLinePrefix ∧ lf ∉ kSudoLineEolPrefix ∧ lf ∉ lit "@" := by decide
  simp [disabledLine, markerLine, hfixed, heol, h.noLf]

theorem wrapperLines_bytes (hpolicy : IsFieldValue policy) (hid : IsFieldValue id)
    (hlines : ∀ line ∈ originals, IsLine line) :
    ∀ line ∈ wrapperLines originals policy id, ∃ text, lf ∉ text ∧ line.bytes = text ++ [lf] := by
  intro line hline
  simp only [wrapperLines, List.mem_cons, List.mem_append, List.mem_map, List.mem_nil_iff,
    or_false] at hline
  rcases hline with rfl | ⟨original, horiginal, rfl⟩ | rfl
  · exact ⟨_, noLf_markerFields (by decide) hpolicy hid, rfl⟩
  · exact ⟨_, noLf_disabledLine (hlines original horiginal), rfl⟩
  · exact ⟨_, noLf_markerFields (by decide) hpolicy hid, rfl⟩

theorem split_wrapped {before after : List SudoPhysicalLine}
    (hpolicy : IsFieldValue policy) (hid : IsFieldValue id)
    (h : Shaped (before ++ (originals ++ after))) (hne : originals ≠ []) :
    splitPhysicalLines (joinPhysicalLines
        (before ++ wrapperLines originals policy id ++ after)) =
      before ++ (wrapperLines originals policy id).map recut ++ after := by
  refine split_replaced h hne (wrapperLines_bytes hpolicy hid fun line hline => ?_)
  exact h.isLine line (List.mem_append_right _ (List.mem_append_left _ hline))

def OutsideWrappers (entry : SudoLogicalEntry) (wrappers : List SudoDisabledWrapper) : Prop :=
  ∀ w ∈ wrappers, entry.firstPhysicalLine + entry.lineCount ≤ w.beginLine ∨
    w.endLine < entry.firstPhysicalLine

instance (entry : SudoLogicalEntry) (wrappers : List SudoDisabledWrapper) :
    Decidable (OutsideWrappers entry wrappers) :=
  inferInstanceAs (Decidable (∀ w ∈ wrappers, _ ∨ _))

def suppressed (content : Bytes) (entry : SudoLogicalEntry) (id : Bytes) : Bytes :=
  joinPhysicalLines (disableSudoEntry (splitPhysicalLines content) entry.firstPhysicalLine
    entry.lineCount kScopedDefaultsPolicyName id)

section Suppressed

variable {content id : Bytes} {entry : SudoLogicalEntry} {wrappers : List SudoDisabledWrapper}

def linesBefore (content : Bytes) (entry : SudoLogicalEntry) : List SudoPhysicalLine :=
  (splitPhysicalLines content).take entry.firstPhysicalLine

def linesAfter (content : Bytes) (entry : SudoLogicalEntry) : List SudoPhysicalLine :=
  (splitPhysicalLines content).drop (entry.firstPhysicalLine + entry.lineCount)

def originalsOf (content : Bytes) (entry : SudoLogicalEntry) : List SudoPhysicalLine :=
  entry.linesOf (splitPhysicalLines content)

theorem lines_eq (content : Bytes) (entry : SudoLogicalEntry) :
    splitPhysicalLines content =
      linesBefore content entry ++ (originalsOf content entry ++ linesAfter content entry) := by
  unfold linesBefore originalsOf linesAfter SudoLogicalEntry.linesOf
  rw [← List.drop_drop, List.take_append_drop, List.take_append_drop]

section

variable (h : entry ∈ assembleSudoLogicalEntries (splitPhysicalLines content))

include h

theorem linesBefore_length :
    (linesBefore content entry).length = entry.firstPhysicalLine := by
  have hrange := assemble_range h
  simp only [linesBefore, List.length_take]
  omega

theorem originalsOf_length :
    (originalsOf content entry).length = entry.lineCount := by
  have hrange := assemble_range h
  simp only [originalsOf, SudoLogicalEntry.linesOf, List.length_take, List.length_drop]
  omega

theorem originalsOf_ne_nil :
    originalsOf content entry ≠ [] := by
  have hlength := originalsOf_length h
  have hrange := assemble_range h
  intro hnil
  rw [hnil] at hlength
  simp only [List.length_nil] at hlength
  omega

end

theorem isLine_originalsOf : ∀ line ∈ originalsOf content entry, IsLine line := by
  intro line hline
  refine (shaped_split content).isLine line ?_
  exact List.mem_of_mem_drop (List.mem_of_mem_take hline)

theorem split_suppressed (h : entry ∈ assembleSudoLogicalEntries (splitPhysicalLines content))
    (hid : isCanonicalSudoWrapperId id = true) :
    splitPhysicalLines (suppressed content entry id) =
      linesBefore content entry ++
        (wrapperLines (originalsOf content entry) kScopedDefaultsPolicyName id).map recut ++
        linesAfter content entry := by
  have hshaped := shaped_split content
  rw [lines_eq content entry] at hshaped
  exact split_wrapped isFieldValue_policyName (isFieldValue_canonicalId hid) hshaped
    (originalsOf_ne_nil h)

def newWrapper (content : Bytes) (entry : SudoLogicalEntry) (id : Bytes) : SudoDisabledWrapper :=
  { policy := kScopedDefaultsPolicyName
    mutationId := id
    originalLines := (originalsOf content entry).map reread
    beginLine := entry.firstPhysicalLine
    endLine := entry.firstPhysicalLine + entry.lineCount + 1 }

/-- The old wrappers are read again, those behind the entry two lines further
down, and the new one between them. -/
theorem parse_suppressed
    (hparse : parseSudoDisabledWrappers (splitPhysicalLines content) = .ok wrappers)
    (h : entry ∈ assembleSudoLogicalEntries (splitPhysicalLines content))
    (houtside : OutsideWrappers entry wrappers) (hid : isCanonicalSudoWrapperId id = true) :
    ∃ earlier later, wrappers = earlier ++ later ∧
      parseSudoDisabledWrappers (splitPhysicalLines (suppressed content entry id)) =
        .ok (earlier ++ newWrapper content entry id ::
          later.map (SudoDisabledWrapper.shift 2)) := by
  have hfirst := linesBefore_length h
  have hcount := originalsOf_length h
  have hblocks := layout_iff_blocks.mp (parseSudoDisabledWrappers_eq_ok_iff.mp hparse)
  rw [lines_eq content entry] at hblocks
  have hblock := isBlock_wrapperLines isFieldValue_policyName (isFieldValue_canonicalId hid)
    (originalsOf_ne_nil h) isLine_originalsOf entry.firstPhysicalLine
  rw [hcount] at hblock
  obtain ⟨earlier, later, hwrappers, hnew⟩ := hblocks.replace
    (w := newWrapper content entry id) (k := 2)
    (by rw [Nat.zero_add, hfirst, hcount]; exact houtside)
    ⟨_, _, _, rfl, hblock⟩ (by simp [hfirst, disabledReader, newWrapper])
    (by simp [hfirst, hcount, disabledReader, newWrapper])
  refine ⟨earlier, later, hwrappers, ?_⟩
  rw [parseSudoDisabledWrappers_eq_ok_iff, split_suppressed h hid, List.append_assoc,
    layout_iff_blocks]
  simp only [wrapperLines, List.map_cons, List.map_append, List.map_nil]
  exact hnew

theorem length_join_reread (lines : List SudoPhysicalLine) :
    (joinPhysicalLines (lines.map reread)).length +
        lines.countP (fun line => line.text.getLast? = some cr) =
      (joinPhysicalLines lines).length := by
  induction lines with
  | nil => rfl
  | cons line lines ih =>
    have hline : (reread line).bytes.length +
        (if line.text.getLast? = some cr then 1 else 0) = line.bytes.length := by
      simp only [reread, dropCr, SudoPhysicalLine.bytes, List.length_append]
      split_ifs with hcr
      · have hpos : 0 < line.text.length := List.length_pos_of_mem (List.mem_of_getLast? hcr)
        rw [List.length_dropLast]
        omega
      · rfl
    simp only [joinPhysicalLines, List.map_cons, List.flatten_cons, List.length_append,
      List.countP_cons, decide_eq_true_eq] at ih ⊢
    omega

theorem join_reread_eq_iff {lines : List SudoPhysicalLine} :
    joinPhysicalLines (lines.map reread) = joinPhysicalLines lines ↔
      ∀ line ∈ lines, line.text.getLast? ≠ some cr := by
  constructor
  · intro h
    have hlength := length_join_reread lines
    rw [h] at hlength
    have hcount : lines.countP (fun line => line.text.getLast? = some cr) = 0 := by omega
    simpa using List.countP_eq_zero.mp hcount
  · intro h
    have hmap : lines.map reread = lines.map id := by
      refine List.map_congr_left fun line hline => ?_
      simp [reread, dropCr_eq_self.mpr (h line hline)]
    rw [hmap, List.map_id]

/-- Suppressing the entry under a fresh id loses nothing: the file is read with the
old wrappers and one that holds the bytes of the entry, and restoring that one
gives the content back, whatever proofs the old wrappers have. -/
structure RoundTrips (prim : ProofPrimitives) (path content : Bytes) (entry : SudoLogicalEntry)
    (id : Bytes) (wrappers : List SudoDisabledWrapper) : Prop where
  read : ∃ earlier later new, wrappers = earlier ++ later ∧
    parseSudoDisabledWrappers (splitPhysicalLines (suppressed content entry id)) =
      .ok (earlier ++ new :: later.map (SudoDisabledWrapper.shift 2)) ∧
    new.policy = kScopedDefaultsPolicyName ∧ new.mutationId = id ∧
    suppressedEntryBytes new.originalLines = suppressedEntryBytes (originalsOf content entry) ∧
    new.payloadDigest prim = prim.sha256Hex (suppressedEntryBytes (originalsOf content entry))
  restored : ∀ proofs,
    (checkSudoWrapperProvenance prim wrappers path kScopedDefaultsPolicyName
      proofs).safeToRelease = true → id ∉ proofs.map (·.wrapperId) →
    ∃ lines, restoreSelectedSudoDisabledEntries prim
        (splitPhysicalLines (suppressed content entry id)) path kScopedDefaultsPolicyName
        (proofs ++ [⟨id, prim.canonicalizeSudoProofPath path,
          prim.sha256Hex (suppressedEntryBytes (originalsOf content entry))⟩]) [id] =
      .ok (lines, true) ∧ joinPhysicalLines lines = content

theorem filter_selected (new : SudoDisabledWrapper)
    (hpolicy : new.policy = kScopedDefaultsPolicyName) (hnew : new.mutationId = id)
    (hfresh : ∀ w ∈ earlier ++ later, w.mutationId ≠ id) (k : Nat) :
    (earlier ++ new :: later.map (SudoDisabledWrapper.shift k)).filter (fun w =>
      w.policy = kScopedDefaultsPolicyName && [id].contains w.mutationId) = [new] := by
  have hearlier : earlier.filter (fun w =>
      w.policy = kScopedDefaultsPolicyName && [id].contains w.mutationId) = [] := by
    refine List.filter_eq_nil_iff.mpr fun w hw => ?_
    simp [hfresh w (List.mem_append_left _ hw)]
  have hlater : (later.map (SudoDisabledWrapper.shift k)).filter (fun w =>
      w.policy = kScopedDefaultsPolicyName && [id].contains w.mutationId) = [] := by
    refine List.filter_eq_nil_iff.mpr fun w hw => ?_
    obtain ⟨v, hv, rfl⟩ := List.mem_map.mp hw
    simp [SudoDisabledWrapper.shift, hfresh v (List.mem_append_right _ hv)]
  rw [List.filter_append, List.filter_cons, hearlier, hlater]
  simp [hpolicy, hnew]

/-- Restoring the new wrapper leaves the lines as they are read again. -/
theorem unwrap_suppressed (h : entry ∈ assembleSudoLogicalEntries (splitPhysicalLines content))
    (hid : isCanonicalSudoWrapperId id = true) :
    unwrap (splitPhysicalLines (suppressed content entry id)) (newWrapper content entry id) =
      linesBefore content entry ++ (originalsOf content entry).map reread ++
        linesAfter content entry := by
  have hfirst := linesBefore_length h
  have hblock : (wrapperLines (originalsOf content entry) kScopedDefaultsPolicyName id).length =
      entry.lineCount + 2 := by
    simp [wrapperLines, originalsOf_length h]
  have htake : ∀ block : List SudoPhysicalLine,
      (linesBefore content entry ++ block ++ linesAfter content entry).take
        entry.firstPhysicalLine = linesBefore content entry := by
    intro block
    rw [List.append_assoc, List.take_left' hfirst]
  have hdrop : (linesBefore content entry ++
      (wrapperLines (originalsOf content entry) kScopedDefaultsPolicyName id).map recut ++
        linesAfter content entry).drop (entry.firstPhysicalLine + entry.lineCount + 1 + 1) =
      linesAfter content entry := by
    refine List.drop_left' ?_
    rw [List.length_append, List.length_map, hfirst, hblock]
    omega
  rw [split_suppressed h hid]
  unfold unwrap newWrapper
  rw [htake, hdrop]

/-- Suppressing and restoring an entry loses nothing exactly when no line of the
entry has a text that ends in a carriage return. -/
theorem disableSudoEntry_roundTrips_iff (prim : ProofPrimitives) (path content id : Bytes)
    (wrappers : List SudoDisabledWrapper) (entry : SudoLogicalEntry)
    (hparse : parseSudoDisabledWrappers (splitPhysicalLines content) = .ok wrappers)
    (hentry : entry ∈ assembleSudoLogicalEntries (splitPhysicalLines content))
    (houtside : OutsideWrappers entry wrappers) (hid : isCanonicalSudoWrapperId id = true)
    (hfresh : ∀ w ∈ wrappers, w.mutationId ≠ id) :
    RoundTrips prim path content entry id wrappers ↔
      ∀ line ∈ originalsOf content entry, line.text.getLast? ≠ some cr := by
  obtain ⟨earlier, later, rfl, hread⟩ := parse_suppressed hparse hentry houtside hid
  rw [← join_reread_eq_iff]
  constructor
  · intro h
    obtain ⟨earlier', later', new, -, hread', hpolicy, hnew, hbytes, -⟩ := h.read
    -- Among the wrappers that are read, only one has the fresh id.
    have hsame : newWrapper content entry id = new := by
      have hmem : new ∈ earlier ++ newWrapper content entry id ::
          later.map (SudoDisabledWrapper.shift 2) := by
        rw [← Except.ok.inj (hread.symm.trans hread').symm]
        simp
      have hselected : new ∈ [newWrapper content entry id] := by
        rw [← filter_selected (newWrapper content entry id) rfl rfl hfresh 2]
        exact List.mem_filter.mpr ⟨hmem, by simp [hpolicy, hnew, newWrapper]⟩
      exact (List.mem_singleton.mp hselected).symm
    rw [← hsame] at hbytes
    exact hbytes
  · intro hsame
    have hdigest : (newWrapper content entry id).payloadDigest prim =
        prim.sha256Hex (suppressedEntryBytes (originalsOf content entry)) :=
      congrArg prim.sha256Hex hsame
    refine ⟨⟨earlier, later, _, rfl, hread, rfl, rfl, hsame, hdigest⟩, ?_⟩
    intro proofs hsafe hunused
    have hproven := (safeToRelease_iff.mp hsafe).insert (newWrapper content entry id) rfl hfresh
      hunused 2
    rw [hdigest, ← safeToRelease_iff] at hproven
    have hselected := filter_selected (newWrapper content entry id) rfl (Eq.refl id) hfresh 2
    refine ⟨unwrap (splitPhysicalLines (suppressed content entry id))
      (newWrapper content entry id), ?_, ?_⟩
    · unfold restoreSelectedSudoDisabledEntries restoreWrappers
      rw [hread]
      dsimp only
      rw [if_neg (by simpa [newWrapper] using hproven), hselected]
      rfl
    · rw [unwrap_suppressed hentry hid]
      calc joinPhysicalLines (linesBefore content entry ++
            (originalsOf content entry).map reread ++ linesAfter content entry)
          = joinPhysicalLines (splitPhysicalLines content) := by
            rw [lines_eq content entry]
            simp [hsame]
        _ = content := join_split content

end Suppressed

/-- A digest that tells all payloads apart. -/
def plainProofs : ProofPrimitives :=
  { sha256Hex := fun bytes => bytes, canonicalizeSudoProofPath := fun path => path }

def sampleWrapperId : Bytes := lit "FIC-SUDO-1-2-3-4-5"

def sampleEntry (content : Bytes) : SudoLogicalEntry :=
  ((assembleSudoLogicalEntries (splitPhysicalLines content)).head?).getD
    (startEntry 0 (markerLine []))

def sampleRules : Bytes := lit "Defaults:v requiretty\nDefaults:u requiretty\r\n"

/-- The first entry is suppressed already. -/
theorem disableSudoEntry_roundTrips_crLf :
    RoundTrips plainProofs (lit "/etc/sudoers")
      (suppressed sampleRules (sampleEntry sampleRules) (lit "FIC-SUDO-1-1-1-1-1"))
      (startEntry 3 ⟨lit "Defaults:u requiretty", crLf⟩) sampleWrapperId
      [newWrapper sampleRules (sampleEntry sampleRules) (lit "FIC-SUDO-1-1-1-1-1")] :=
  (disableSudoEntry_roundTrips_iff _ _ _ _ _ _ (by decide +kernel) (by decide +kernel)
    (by decide +kernel) (by decide +kernel) (by decide +kernel)).mpr (by decide +kernel)

/-- A text that ends in a carriage return is not given back: its wrapper does not
match the digest of the entry any more. -/
theorem disableSudoEntry_loses_cr :
    ¬ RoundTrips plainProofs (lit "/etc/sudoers") (lit "Defaults:u requiretty\r\r\n")
      (sampleEntry (lit "Defaults:u requiretty\r\r\n")) sampleWrapperId [] := by
  intro h
  obtain ⟨lines, hrestored, -⟩ := h.restored [] (by decide) (by decide)
  have hfails : (restoreSelectedSudoDisabledEntries plainProofs
      (splitPhysicalLines (suppressed (lit "Defaults:u requiretty\r\r\n")
        (sampleEntry (lit "Defaults:u requiretty\r\r\n")) sampleWrapperId))
      (lit "/etc/sudoers") kScopedDefaultsPolicyName
      [⟨sampleWrapperId, lit "/etc/sudoers", lit "Defaults:u requiretty\r\r\n"⟩]
      [sampleWrapperId]).toOption = none := by decide +kernel
  have hsame : [(⟨sampleWrapperId, lit "/etc/sudoers", lit "Defaults:u requiretty\r\r\n"⟩ :
      SudoScopedDefaultsWrapperProof)] = [] ++ [⟨sampleWrapperId,
        plainProofs.canonicalizeSudoProofPath (lit "/etc/sudoers"),
        plainProofs.sha256Hex (suppressedEntryBytes (originalsOf
          (lit "Defaults:u requiretty\r\r\n")
          (sampleEntry (lit "Defaults:u requiretty\r\r\n"))))⟩] := by decide +kernel
  rw [hsame, hrestored] at hfails
  cases hfails

end Fic.Sudo
