import Fic.Lib.Cushioned
import Fic.Sudo.LogicalEntries

/-!
# Entries with their source

An entry keeps its text and, beside it, the place of every byte.  Here the two are
one list of marked bytes, and the assembly of entries is a function on such lists
(`Marked.assemble`).  Two facts about it do the work.  The texts it gives depend on the
texts of the lines only (`text_assemble`); and it commutes with leaving bytes out, when
none of them is a blank or a backslash or stands in front of one (`assemble_filter`).
-/

namespace Fic.Sudo

open Fic.Lib

abbrev Marked := List (UInt8 × Option SourcePosition)

variable {l : Marked} {current : Option Marked}

namespace Marked

def text (l : Marked) : Bytes := l.map (·.1)

def positions (l : Marked) : List (Option SourcePosition) := l.map (·.2)

def isBlank (x : UInt8 × Option SourcePosition) : Bool := isSpace x.1

def isSlash (x : UInt8 × Option SourcePosition) : Bool := x.1 = backslash

/-- A byte that ends neither a text nor a line. -/
def isSolid (x : UInt8 × Option SourcePosition) : Bool := !isBlank x && !isSlash x

/-- The blank that is put in for a continuation. -/
def separator : UInt8 × Option SourcePosition := (' '.toUInt8, none)

def trim (l : Marked) : Marked := (l.dropWhile isBlank).rdropWhile isBlank

def continues (l : Marked) : Bool := (l.trim.rtakeWhile isSlash).length % 2 = 1

def continued (l line : Marked) : Marked := l.trim.dropLast ++ separator :: line.trim

def assemble (current : Option Marked) : List Marked → List Marked
  | [] => current.toList
  | line :: lines =>
    match current with
    | none => assemble (some line) lines
    | some l =>
      if l.continues then assemble (some (l.continued line)) lines
      else l :: assemble (some line) lines

/-! ## Texts -/

@[simp] theorem text_append (a b : Marked) : text (a ++ b) = text a ++ text b := by
  simp [text]

theorem text_dropWhile (l : Marked) : text (l.dropWhile isBlank) = (text l).dropWhile isSpace := by
  unfold text
  rw [List.dropWhile_map]
  rfl

theorem text_rdropWhile (l : Marked) :
    text (l.rdropWhile isBlank) = (text l).rdropWhile isSpace := by
  unfold text List.rdropWhile
  rw [← List.map_reverse, List.dropWhile_map, List.map_reverse]
  rfl

theorem text_trim (l : Marked) : text (trim l) = trimLogicalCopy (text l) := by
  rw [trim, text_rdropWhile, text_dropWhile]
  rfl

theorem continues_eq (l : Marked) : continues l = hasContinuation (text l) := by
  have hslashes : ((text (trim l)).rtakeWhile (· = backslash)).length =
      ((trim l).rtakeWhile isSlash).length := by
    unfold text List.rtakeWhile
    rw [← List.map_reverse, List.takeWhile_map, List.length_reverse, List.length_map,
      List.length_reverse]
    rfl
  unfold continues hasContinuation
  rw [← text_trim, hslashes]

theorem text_continued (l line : Marked) : text (continued l line) =
    (trimLogicalCopy (text l)).dropLast ++ lit " " ++ trimLogicalCopy (text line) := by
  have hblank : lit " " = [' '.toUInt8] := by decide
  rw [← text_trim, ← text_trim, hblank]
  simp [continued, text, separator, List.map_dropLast]

/-- Only the texts of the lines decide the texts of the entries. -/
theorem text_assemble {current' : Option Marked} {lines lines' : List Marked}
    (hcurrent : current.map text = current'.map text) (hlines : lines.map text = lines'.map text) :
    (assemble current lines).map text = (assemble current' lines').map text := by
  induction lines generalizing current current' lines' with
  | nil =>
    obtain rfl : lines' = [] := by simpa using hlines.symm
    cases current <;> cases current' <;> simp_all [assemble]
  | cons line lines ih =>
    cases lines' with
    | nil => cases hlines
    | cons line' lines' =>
      obtain ⟨hline, htail⟩ := List.cons.inj hlines
      have hstart : (some line).map text = (some line').map text := congrArg some hline
      cases current with
      | none =>
        cases current' with
        | none =>
          rw [assemble, assemble]
          exact ih hstart htail
        | some l' => cases hcurrent
      | some l =>
        cases current' with
        | none => cases hcurrent
        | some l' =>
          have htext : text l = text l' := Option.some.inj hcurrent
          have hcontinues : continues l = continues l' := by rw [continues_eq, continues_eq, htext]
          rw [assemble, assemble, hcontinues]
          split_ifs
          · refine ih (congrArg some ?_) htail
            rw [text_continued, text_continued, htext, hline]
          · rw [List.map_cons, List.map_cons, htext, ih hstart htail]

/-! ## Leaving bytes out -/

theorem isBlank_not_solid (x : UInt8 × Option SourcePosition) (h : isBlank x = true) :
    isSolid x = false := by
  simp [isSolid, h]

theorem isSlash_not_solid (x : UInt8 × Option SourcePosition) (h : isSlash x = true) :
    isSolid x = false := by
  simp [isSolid, h]

section Filter

variable {keep : UInt8 × Option SourcePosition → Bool}

theorem cushioned_trim (h : Cushioned isSolid keep l) : Cushioned isSolid keep (trim l) :=
  (h.dropWhile isBlank).rdropWhile isBlank_not_solid

theorem trim_filter (h : Cushioned isSolid keep l) :
    trim (l.filter keep) = (trim l).filter keep := by
  unfold trim
  rw [h.filter_dropWhile isBlank_not_solid,
    (h.dropWhile isBlank).filter_rdropWhile isBlank_not_solid]

theorem continues_filter (h : Cushioned isSolid keep l) :
    continues (l.filter keep) = continues l := by
  unfold continues
  rw [trim_filter h, (cushioned_trim h).filter_rtakeWhile isSlash_not_solid]

theorem trim_of_continues (h : continues l = true) :
    ∃ a x, trim l = a ++ [x] ∧ isSlash x = true := by
  unfold continues at h
  rcases List.eq_nil_or_concat (trim l) with hnil | ⟨a, x, ha⟩
  · rw [hnil] at h
    cases h
  · refine ⟨a, x, by simpa using ha, ?_⟩
    by_contra hx
    rw [ha, List.concat_eq_append, List.rtakeWhile_concat_neg _ _ _ hx] at h
    cases h

/-- The backslash goes and the text in front of it stays as it is. -/
theorem continued_filter {line : Marked} (h : Cushioned isSolid keep l)
    (hline : Cushioned isSolid keep line) (hcontinues : continues l = true)
    (hseparator : keep separator = true) :
    continued (l.filter keep) (line.filter keep) = (continued l line).filter keep ∧
      Cushioned isSolid keep (continued l line) := by
  obtain ⟨a, x, ha, hx⟩ := trim_of_continues hcontinues
  have htrim : Cushioned isSolid keep (a ++ [x]) := ha ▸ cushioned_trim h
  unfold continued
  rw [trim_filter h, trim_filter hline, ha]
  constructor
  · simp [List.filter_append, htrim.keep_last, hseparator]
  · rw [List.dropLast_concat, List.append_cons]
    refine ((htrim.left ?_).append (cushioned_singleton hseparator)).append (cushioned_trim hline)
    simpa using isSlash_not_solid x hx

/-- Bytes left out of the lines are left out of the entries. -/
theorem assemble_filter {lines : List Marked} (hcurrent : ∀ l ∈ current, Cushioned isSolid keep l)
    (hlines : ∀ l ∈ lines, Cushioned isSolid keep l) (hseparator : keep separator = true) :
    assemble (current.map (List.filter keep)) (lines.map (List.filter keep)) =
      (assemble current lines).map (List.filter keep) := by
  induction lines generalizing current with
  | nil => cases current <;> rfl
  | cons line lines ih =>
    obtain ⟨hline, hlines⟩ := List.forall_mem_cons.mp hlines
    have hstart : ∀ l ∈ some line, Cushioned isSolid keep l := by simpa using hline
    cases current with
    | none => exact ih hstart hlines
    | some l =>
      have hl : Cushioned isSolid keep l := hcurrent l rfl
      rw [Option.map_some, List.map_cons, assemble, assemble, continues_filter hl]
      by_cases hcontinues : continues l = true
      · obtain ⟨hfilter, hnext⟩ := continued_filter hl hline hcontinues hseparator
        have hcurrent' : ∀ m ∈ some (continued l line), Cushioned isSolid keep m := by
          simpa using hnext
        rw [if_pos hcontinues, if_pos hcontinues, hfilter]
        exact ih hcurrent' hlines
      · rw [if_neg hcontinues, if_neg hcontinues, List.map_cons]
        exact congrArg _ (ih hstart hlines)

end Filter

/-- Trimming as an entry does it: from where the text starts, as many bytes as are left. -/
theorem trim_eq (l : Marked) :
    trim l = (l.drop (trimStart (text l))).take (trimLogicalCopy (text l)).length := by
  have hlength : trimStart (text l) = (l.takeWhile isBlank).length := by
    unfold trimStart text
    rw [List.takeWhile_map, List.length_map]
    rfl
  have hdrop : l.drop (l.takeWhile isBlank).length = l.dropWhile isBlank := by
    have hcut : (l.takeWhile isBlank ++ l.dropWhile isBlank).drop (l.takeWhile isBlank).length =
        l.dropWhile isBlank := List.drop_left
    rwa [List.takeWhile_append_dropWhile] at hcut
  have hleft : (trimLogicalCopy (text l)).length = (trim l).length := by
    rw [← text_trim, text, List.length_map]
  rw [hlength, hdrop, hleft]
  exact List.prefix_iff_eq_take.mp (List.rdropWhile_prefix isBlank _)

end Marked

/-! ## The marked text of an entry -/

/-- The bytes of a line from a column on. -/
def markFrom (line column : Nat) : Bytes → Marked
  | [] => []
  | b :: text => (b, some { physicalLine := line, column }) :: markFrom line (column + 1) text

def markLines (index : Nat) : List SudoPhysicalLine → List Marked
  | [] => []
  | line :: lines => markFrom index 0 line.text :: markLines (index + 1) lines

theorem text_markFrom (line column : Nat) (text : Bytes) :
    Marked.text (markFrom line column text) = text := by
  induction text generalizing column with
  | nil => rfl
  | cons b text ih => simpa [markFrom, Marked.text] using ih (column + 1)

theorem text_markLines (index : Nat) (lines : List SudoPhysicalLine) :
    (markLines index lines).map Marked.text = lines.map SudoPhysicalLine.text := by
  induction lines generalizing index with
  | nil => rfl
  | cons line lines ih => rw [markLines, List.map_cons, List.map_cons, text_markFrom, ih]

theorem positionsFrom_succ (line column count : Nat) :
    positionsFrom line column (count + 1) =
      some { physicalLine := line, column } :: positionsFrom line (column + 1) count := by
  simp only [positionsFrom, List.range_succ_eq_map, List.map_cons, List.map_map]
  refine congrArg _ (List.map_congr_left fun k _ => ?_)
  simp only [Function.comp_apply, Nat.succ_eq_add_one]
  congr 2
  omega

theorem positions_markFrom (line column : Nat) (text : Bytes) :
    Marked.positions (markFrom line column text) = positionsFrom line column text.length := by
  induction text generalizing column with
  | nil => rfl
  | cons b text ih =>
    rw [List.length_cons, positionsFrom_succ, ← ih]
    rfl

theorem markFrom_append (line column : Nat) (a b : Bytes) :
    markFrom line column (a ++ b) =
      markFrom line column a ++ markFrom line (column + a.length) b := by
  induction a generalizing column with
  | nil => rfl
  | cons c a ih =>
    have hcolumn : column + (c :: a).length = column + 1 + a.length := by
      simp only [List.length_cons]
      omega
    rw [hcolumn, List.cons_append, markFrom, ih]
    rfl

theorem getElem?_markFrom (line column : Nat) (text : Bytes) (k : Nat) :
    (markFrom line column text)[k]? =
      text[k]?.map fun b => (b, some { physicalLine := line, column := column + k }) := by
  induction text generalizing column k with
  | nil => rfl
  | cons b text ih =>
    cases k with
    | zero => rfl
    | succ k =>
      have hcolumn : column + (k + 1) = column + 1 + k := by omega
      rw [hcolumn]
      exact ih (column + 1) k

structure Marks (entry : SudoLogicalEntry) (l : Marked) : Prop where
  text : entry.text = Marked.text l
  positions : entry.sourcePositions = Marked.positions l

theorem marks_start (index : Nat) (line : SudoPhysicalLine) :
    Marks (startEntry index line) (markFrom index 0 line.text) :=
  ⟨(text_markFrom _ _ _).symm, (positions_markFrom _ _ _).symm⟩

theorem trim_length_le (value : Bytes) :
    trimStart value + (trimLogicalCopy value).length ≤ value.length := by
  have hcut : (value.takeWhile isSpace).length + (value.dropWhile isSpace).length =
      value.length := by
    rw [← List.length_append, List.takeWhile_append_dropWhile]
  have hcopy : (trimLogicalCopy value).length ≤ (value.dropWhile isSpace).length :=
    (List.rdropWhile_prefix isSpace _).length_le
  unfold trimStart
  omega

theorem positionsFrom_cut (line column : Nat) {count start length : Nat}
    (h : start + length ≤ count) :
    ((positionsFrom line column count).drop start).take length =
      positionsFrom line (column + start) length := by
  unfold positionsFrom
  refine List.ext_getElem? fun k => ?_
  rw [List.getElem?_take, List.getElem?_drop, List.getElem?_map, List.getElem?_map]
  by_cases hk : k < length
  · rw [if_pos hk, List.getElem?_range (by omega), List.getElem?_range hk]
    simp only [Option.map_some]
    congr 3
    omega
  · rw [if_neg hk, List.getElem?_eq_none (by simpa using hk)]
    rfl

theorem positions_trim_markFrom (index : Nat) (text : Bytes) :
    Marked.positions (Marked.trim (markFrom index 0 text)) =
      positionsFrom index (trimStart text) (trimLogicalCopy text).length := by
  rw [Marked.trim_eq, text_markFrom, Marked.positions, List.map_take, List.map_drop]
  have hmark := positions_markFrom index 0 text
  unfold Marked.positions at hmark
  rw [hmark, positionsFrom_cut _ _ (trim_length_le text), Nat.zero_add]

theorem Marks.continue {entry : SudoLogicalEntry} (h : Marks entry l) (index : Nat)
    (line : SudoPhysicalLine) :
    Marks (continueEntry entry index line) (Marked.continued l (markFrom index 0 line.text)) := by
  constructor
  · rw [Marked.text_continued, text_markFrom, ← h.text]
    rfl
  · have hfront : (entry.sourcePositions.drop (trimStart entry.text)).take
        ((trimLogicalCopy entry.text).length - 1) = Marked.positions (Marked.trim l).dropLast := by
      have hlength : (trimLogicalCopy entry.text).length = (Marked.trim l).length := by
        rw [h.text, ← Marked.text_trim, Marked.text, List.length_map]
      rw [List.dropLast_eq_take, ← hlength, Marked.trim_eq, ← h.text, List.take_take,
        min_eq_left (Nat.sub_le _ 1), h.positions, Marked.positions, Marked.positions,
        List.map_take, List.map_drop]
    unfold continueEntry Marked.continued
    dsimp only
    rw [hfront, ← positions_trim_markFrom]
    simp [Marked.positions, Marked.separator]

/-- The entries and their marked texts are assembled alike. -/
theorem marks_assembleFrom {current : Option SudoLogicalEntry} {current' : Option Marked}
    (h : Option.Rel Marks current current') (index : Nat) (lines : List SudoPhysicalLine) :
    List.Forall₂ Marks (assembleFrom current index lines)
      (Marked.assemble current' (markLines index lines)) := by
  induction lines generalizing current current' index with
  | nil =>
    cases h with
    | none => exact .nil
    | some hentry => exact .cons hentry .nil
  | cons line lines ih =>
    have hstart := ih (.some (marks_start index line)) (index + 1)
    cases h with
    | none => exact hstart
    | @some entry l hentry =>
      rw [assembleFrom, markLines, Marked.assemble, Marked.continues_eq, ← hentry.text]
      split_ifs
      · exact ih (.some (hentry.continue index line)) (index + 1)
      · exact .cons hentry hstart

theorem Marks.texts {entries : List SudoLogicalEntry} {ls : List Marked}
    (h : List.Forall₂ Marks entries ls) :
    entries.map SudoLogicalEntry.text = ls.map Marked.text := by
  induction h with
  | nil => rfl
  | cons hentry _ ih => rw [List.map_cons, List.map_cons, hentry.text, ih]

/-- The marked texts of the entries of a file. -/
def markedEntries (lines : List SudoPhysicalLine) : List Marked :=
  Marked.assemble none (markLines 0 lines)

theorem marks_assemble (lines : List SudoPhysicalLine) :
    List.Forall₂ Marks (assembleSudoLogicalEntries lines) (markedEntries lines) :=
  marks_assembleFrom .none 0 lines

/-! ## Places in order -/

/-- One place is in front of another. -/
def SourcePosition.Before (p q : SourcePosition) : Prop :=
  p.physicalLine < q.physicalLine ∨ p.physicalLine = q.physicalLine ∧ p.column < q.column

namespace Marked

/-- The places come in the order of the file. -/
def Ordered (l : Marked) : Prop :=
  l.Pairwise fun x y => ∀ p ∈ x.2, ∀ q ∈ y.2, SourcePosition.Before p q

def Below (index : Nat) (l : Marked) : Prop := ∀ x ∈ l, ∀ p ∈ x.2, p.physicalLine < index

theorem trim_sublist (l : Marked) : (trim l).Sublist l :=
  (List.rdropWhile_prefix isBlank _).sublist.trans (List.dropWhile_sublist _)

end Marked

theorem mem_markFrom {line column : Nat} {text : Bytes} {x : UInt8 × Option SourcePosition}
    (h : x ∈ markFrom line column text) :
    ∃ k < text.length, x.2 = some { physicalLine := line, column := column + k } := by
  obtain ⟨k, hk⟩ := List.getElem?_of_mem h
  rw [getElem?_markFrom, Option.map_eq_some_iff] at hk
  obtain ⟨b, hb, rfl⟩ := hk
  exact ⟨k, (List.getElem?_eq_some_iff.mp hb).1, rfl⟩

theorem ordered_markFrom (line column : Nat) (text : Bytes) :
    Marked.Ordered (markFrom line column text) := by
  induction text generalizing column with
  | nil => exact .nil
  | cons b text ih =>
    refine .cons (fun y hy p hp q hq => ?_) (ih (column + 1))
    obtain ⟨k, -, hk⟩ := mem_markFrom hy
    rw [hk] at hq
    cases hp
    cases hq
    right
    exact ⟨rfl, by dsimp only; omega⟩

theorem below_markFrom (line column : Nat) (text : Bytes) :
    Marked.Below (line + 1) (markFrom line column text) := by
  intro x hx p hp
  obtain ⟨k, -, hk⟩ := mem_markFrom hx
  rw [hk] at hp
  cases hp
  exact Nat.lt_succ_self line

theorem ordered_continued {index : Nat} (hordered : Marked.Ordered l)
    (hbelow : Marked.Below index l) (text : Bytes) :
    Marked.Ordered (Marked.continued l (markFrom index 0 text)) ∧
      Marked.Below (index + 1) (Marked.continued l (markFrom index 0 text)) := by
  have hfront : ((Marked.trim l).dropLast).Sublist l :=
    (List.dropLast_sublist _).trans (Marked.trim_sublist l)
  have hback := Marked.trim_sublist (markFrom index 0 text)
  constructor
  · refine List.pairwise_append.mpr ⟨hordered.sublist hfront, ?_, ?_⟩
    · refine .cons (fun y _ p hp => ?_) ((ordered_markFrom index 0 text).sublist hback)
      cases hp
    · intro x hx y hy p hp q hq
      rcases List.mem_cons.mp hy with rfl | hy
      · cases hq
      · obtain ⟨k, -, hk⟩ := mem_markFrom (hback.subset hy)
        rw [hk] at hq
        cases hq
        exact .inl (hbelow x (hfront.subset hx) p hp)
  · intro x hx p hp
    rcases List.mem_append.mp hx with hx | hx
    · exact (hbelow x (hfront.subset hx) p hp).trans (Nat.lt_succ_self index)
    · rcases List.mem_cons.mp hx with rfl | hx
      · cases hp
      · exact below_markFrom index 0 text x (hback.subset hx) p hp

theorem ordered_assembleFrom {index : Nat}
    (h : ∀ l ∈ current, Marked.Ordered l ∧ Marked.Below index l) (lines : List SudoPhysicalLine) :
    ∀ l ∈ Marked.assemble current (markLines index lines), Marked.Ordered l := by
  induction lines generalizing current index with
  | nil => exact fun l hl => (h l (by simpa [markLines, Marked.assemble] using hl)).1
  | cons line lines ih =>
    have hstart : ∀ l ∈ some (markFrom index 0 line.text),
        Marked.Ordered l ∧ Marked.Below (index + 1) l := by
      intro l hl
      cases hl
      exact ⟨ordered_markFrom _ _ _, below_markFrom _ _ _⟩
    cases current with
    | none => exact ih hstart
    | some l =>
      obtain ⟨hordered, hbelow⟩ := h l rfl
      rw [markLines, Marked.assemble]
      split_ifs
      · refine ih fun m hm => ?_
        cases hm
        exact ordered_continued hordered hbelow line.text
      · exact List.forall_mem_cons.mpr ⟨hordered, ih hstart⟩

/-- The bytes of an entry come in the order of the file. -/
theorem ordered_markedEntries (lines : List SudoPhysicalLine) :
    ∀ l ∈ markedEntries lines, Marked.Ordered l :=
  ordered_assembleFrom (by simp) lines

end Fic.Sudo
