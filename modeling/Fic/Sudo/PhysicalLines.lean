import Fic.Lib.Lines

/-!
# Physical lines of a sudoers file

`splitPhysicalLines` cuts a file into lines that remember their terminator, and
`joinPhysicalLines` puts them together again.  A line keeps its terminator only
if nothing in its text belongs to it: a text that ends in a carriage return
loses it to a line feed put behind it.  `IsLine` says that a line is one that a
cut can give, `Shaped` that a list of lines is.
-/

namespace Fic.Sudo

open Fic.Lib

/-- A line with the terminator it has in the file. -/
structure SudoPhysicalLine where
  text : Bytes
  terminator : Bytes
  deriving DecidableEq, Repr

variable {a b lines : List SudoPhysicalLine} {line : SudoPhysicalLine}

def crLf : Bytes := [cr, lf]

def SudoPhysicalLine.bytes (line : SudoPhysicalLine) : Bytes := line.text ++ line.terminator

/-- Cuts the terminator off; a carriage return in front of the line feed belongs
to it. -/
def cutTerminator (raw : Bytes) : SudoPhysicalLine :=
  if raw.getLast? = some lf then
    if raw.dropLast.getLast? = some cr then
      { text := raw.dropLast.dropLast, terminator := crLf }
    else { text := raw.dropLast, terminator := [lf] }
  else { text := raw, terminator := [] }

def splitPhysicalLines (content : Bytes) : List SudoPhysicalLine :=
  (physicalLines content).map cutTerminator

def joinPhysicalLines (lines : List SudoPhysicalLine) : Bytes :=
  (lines.map SudoPhysicalLine.bytes).flatten

def suppressedEntryBytes (lines : List SudoPhysicalLine) : Bytes := joinPhysicalLines lines

/-! ## One line -/

/-- A line that a cut can give. -/
inductive IsLine : SudoPhysicalLine → Prop
  | plain {text : Bytes} (hlf : lf ∉ text) (hcr : text.getLast? ≠ some cr) :
      IsLine { text, terminator := [lf] }
  | returned {text : Bytes} (hlf : lf ∉ text) : IsLine { text, terminator := crLf }
  | unterminated {text : Bytes} (hlf : lf ∉ text) (hne : text ≠ []) :
      IsLine { text, terminator := [] }

variable {text : Bytes}

theorem getLast?_ne_lf (h : lf ∉ text) : text.getLast? ≠ some lf := by
  intro hlast
  exact h (List.mem_of_getLast? hlast)

theorem IsLine.noLf (h : IsLine line) : lf ∉ line.text := by
  cases h <;> assumption

theorem cutTerminator_bytes (h : IsLine line) : cutTerminator line.bytes = line := by
  cases h with
  | plain hlf hcr => simp [cutTerminator, SudoPhysicalLine.bytes, hcr]
  | @returned text hlf =>
    have hraw : text ++ crLf = (text ++ [cr]) ++ [lf] := by simp [crLf]
    simp [cutTerminator, SudoPhysicalLine.bytes, hraw]
  | unterminated hlf hne => simp [cutTerminator, SudoPhysicalLine.bytes, getLast?_ne_lf hlf]

theorem bytes_cutTerminator (raw : Bytes) : (cutTerminator raw).bytes = raw := by
  unfold cutTerminator
  split_ifs with hlf hcr
  · have hbody : raw.dropLast ++ [lf] = raw := List.dropLast_append_getLast? _ hlf
    have htext : raw.dropLast.dropLast ++ [cr] = raw.dropLast := List.dropLast_append_getLast? _ hcr
    calc raw.dropLast.dropLast ++ [cr, lf] = (raw.dropLast.dropLast ++ [cr]) ++ [lf] := by simp
      _ = raw := by rw [htext, hbody]
  · exact List.dropLast_append_getLast? _ hlf
  · simp [SudoPhysicalLine.bytes]

theorem isLine_cutTerminator_lf (h : lf ∉ text) :
    IsLine (cutTerminator (text ++ [lf])) := by
  unfold cutTerminator
  simp only [List.getLast?_concat, List.dropLast_concat, if_true]
  split_ifs with hcr
  · exact .returned fun hmem => h (List.dropLast_subset _ hmem)
  · exact .plain h hcr

theorem isLine_cutTerminator_last (h : lf ∉ text) (hne : text ≠ []) :
    IsLine (cutTerminator text) := by
  unfold cutTerminator
  rw [if_neg (getLast?_ne_lf h)]
  exact .unterminated h hne

/-! ## Lists of lines -/

/-- The lines of a file: only the last one may have no terminator. -/
inductive Shaped : List SudoPhysicalLine → Prop
  | nil : Shaped []
  | last {line : SudoPhysicalLine} (hline : IsLine line) : Shaped [line]
  | cons {line : SudoPhysicalLine} {lines : List SudoPhysicalLine} (hline : IsLine line)
      (hterminated : line.terminator ≠ []) (hrest : Shaped lines) : Shaped (line :: lines)

theorem Shaped.isLine (h : Shaped lines) : ∀ line ∈ lines, IsLine line := by
  induction h with
  | nil => simp
  | last hline => simpa using hline
  | cons hline _ _ ih => exact List.forall_mem_cons.mpr ⟨hline, ih⟩

theorem IsLine.bytes_eq (h : IsLine line) (ht : line.terminator ≠ []) :
    ∃ raw, lf ∉ raw ∧ line.bytes = raw ++ [lf] := by
  cases h with
  | plain hlf hcr => exact ⟨_, hlf, rfl⟩
  | @returned text hlf =>
    refine ⟨text ++ [cr], ?_, by simp [SudoPhysicalLine.bytes, crLf]⟩
    simpa [hlf] using (show lf ≠ cr by decide)
  | unterminated hlf hne => exact absurd rfl ht

theorem Shaped.lineShaped (h : Shaped lines) : LineShaped (lines.map SudoPhysicalLine.bytes) := by
  induction h with
  | nil => exact .nil
  | @last line hline =>
    by_cases ht : line.terminator = []
    · cases hline with
      | unterminated hlf hne => simpa [SudoPhysicalLine.bytes] using LineShaped.last hne hlf
      | _ => cases ht
    · obtain ⟨raw, hlf, hraw⟩ := hline.bytes_eq ht
      simpa [hraw] using LineShaped.cons hlf .nil
  | @cons line lines hline ht hrest ih =>
    obtain ⟨raw, hlf, hraw⟩ := hline.bytes_eq ht
    simpa [hraw] using LineShaped.cons hlf ih

/-- What a line is when it is cut again. -/
def recut (line : SudoPhysicalLine) : SudoPhysicalLine := cutTerminator line.bytes

theorem split_join_recut (h : LineShaped (lines.map SudoPhysicalLine.bytes)) :
    splitPhysicalLines (joinPhysicalLines lines) = lines.map recut := by
  unfold splitPhysicalLines joinPhysicalLines
  rw [physicalLines_flatten h, List.map_map]
  rfl

theorem map_recut (h : ∀ line ∈ lines, IsLine line) : lines.map recut = lines := by
  calc lines.map recut = lines.map id :=
        List.map_congr_left fun line hline => cutTerminator_bytes (h line hline)
    _ = lines := List.map_id lines

theorem split_join (h : Shaped lines) : splitPhysicalLines (joinPhysicalLines lines) = lines := by
  rw [split_join_recut h.lineShaped, map_recut h.isLine]

theorem join_split (content : Bytes) :
    joinPhysicalLines (splitPhysicalLines content) = content := by
  unfold splitPhysicalLines joinPhysicalLines
  rw [List.map_map]
  have hid : SudoPhysicalLine.bytes ∘ cutTerminator = id := funext bytes_cutTerminator
  rw [hid, List.map_id, flatten_physicalLines]

theorem shaped_split (content : Bytes) : Shaped (splitPhysicalLines content) := by
  have h := lineShaped_physicalLines content
  unfold splitPhysicalLines
  generalize physicalLines content = raws at h
  induction h with
  | nil => exact .nil
  | last hne hlf => exact .last (isLine_cutTerminator_last hlf hne)
  | @cons text lines hlf hrest ih =>
    refine .cons (isLine_cutTerminator_lf hlf) ?_ ih
    unfold cutTerminator
    simp only [List.getLast?_concat, List.dropLast_concat, if_true]
    split_ifs <;> simp [crLf]

@[simp] theorem joinPhysicalLines_append (a b : List SudoPhysicalLine) :
    joinPhysicalLines (a ++ b) = joinPhysicalLines a ++ joinPhysicalLines b := by
  simp [joinPhysicalLines]

theorem shaped_append (ha : ∀ line ∈ a, IsLine line)
    (hterminated : ∀ line ∈ a, line.terminator ≠ []) (hb : Shaped b) : Shaped (a ++ b) := by
  induction a with
  | nil => exact hb
  | cons line a ih =>
    obtain ⟨hline, ha⟩ := List.forall_mem_cons.mp ha
    obtain ⟨ht, hterminated⟩ := List.forall_mem_cons.mp hterminated
    exact .cons hline ht (ih ha hterminated)

theorem Shaped.of_append_right (h : Shaped (a ++ b)) : Shaped b := by
  induction a with
  | nil => exact h
  | cons line a ih =>
    rw [List.cons_append] at h
    generalize hab : a ++ b = rest at h
    cases h with
    | last hline =>
      rw [(List.append_eq_nil_iff.mp hab).2]
      exact .nil
    | cons hline ht hrest => exact ih (hab ▸ hrest)

theorem Shaped.terminated (h : Shaped (a ++ b)) (hb : b ≠ []) :
    ∀ line ∈ a, line.terminator ≠ [] := by
  induction a with
  | nil => simp
  | cons line a ih =>
    rw [List.cons_append] at h
    generalize hab : a ++ b = rest at h
    cases h with
    | last hline => simp_all
    | cons hline ht hrest =>
      subst hab
      exact List.forall_mem_cons.mpr ⟨ht, ih hrest⟩

/-- Some lines of a file are replaced by others that are lines of their own. -/
theorem split_replaced {before old new after : List SudoPhysicalLine}
    (h : Shaped (before ++ (old ++ after))) (hne : old ≠ [])
    (hnew : ∀ line ∈ new, ∃ text, lf ∉ text ∧ line.bytes = text ++ [lf]) :
    splitPhysicalLines (joinPhysicalLines (before ++ new ++ after)) =
      before ++ new.map recut ++ after := by
  have hbefore : ∀ line ∈ before, IsLine line := fun line hline =>
    h.isLine line (List.mem_append_left _ hline)
  have hafter : Shaped after := h.of_append_right.of_append_right
  have hterminated := h.terminated (by simp [hne])
  have hshaped : LineShaped ((before ++ new ++ after).map SudoPhysicalLine.bytes) := by
    rw [List.map_append]
    refine lineShaped_append ?_ hafter.lineShaped
    intro raw hraw
    obtain ⟨line, hline, rfl⟩ := List.mem_map.mp hraw
    rcases List.mem_append.mp hline with hline | hline
    · exact (hbefore line hline).bytes_eq (hterminated line hline)
    · exact hnew line hline
  rw [split_join_recut hshaped, List.map_append, List.map_append, map_recut hbefore,
    map_recut hafter.isLine]

end Fic.Sudo
