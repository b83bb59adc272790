import Fic.Lib.Blocks
import Fic.Sudo.DisabledWrapper

/-!
# The layout of a file with suppressed entries

`Layout` says what a file is made of when `parseSudoDisabledWrappers` accepts it:
foreign lines that are no markers, and one block for each wrapper that is
reported, at the position that is reported.  The reader accepts a file exactly
when it has a layout, so everything about rewriting such a file is said about
layouts: they can be put together, cut between two blocks and moved.
-/

namespace Fic.Sudo

open Fic.Lib

variable {a b : List SudoPhysicalLine} {original : SudoPhysicalLine}
  {current w : SudoDisabledWrapper} {opening : SudoPhysicalLine}

/-! ## Blocks -/

/-- The lines `block` are what stands in the file for a wrapper. -/
structure IsBlock (w : SudoDisabledWrapper) (opening : SudoPhysicalLine)
    (body : List SudoPhysicalLine) (closing : SudoPhysicalLine) : Prop where
  begins : kSudoDisabledBeginPrefix <+: opening.text
  opens : parseWrapperMarker opening.text kSudoDisabledBeginPrefix = .ok (w.policy, w.mutationId)
  body : List.Forall₂ (fun line original => parseDisabledLine line.text = .ok original)
    body w.originalLines
  nonempty : w.originalLines ≠ []
  ends : kSudoDisabledEndPrefix <+: closing.text
  closes : parseWrapperMarker closing.text kSudoDisabledEndPrefix = .ok (w.policy, w.mutationId)
  lines : w.endLine = w.beginLine + w.originalLines.length + 1

/-- What a file is made of from the line `index` on. -/
inductive Layout : Nat → List SudoPhysicalLine → List SudoDisabledWrapper → Prop
  | nil (index : Nat) : Layout index [] []
  | foreign {index : Nat} {line : SudoPhysicalLine} {lines : List SudoPhysicalLine}
      {wrappers : List SudoDisabledWrapper} (hline : ¬ kSudoMarkerIntroducer <+: line.text)
      (hrest : Layout (index + 1) lines wrappers) : Layout index (line :: lines) wrappers
  | block {w : SudoDisabledWrapper} {opening closing : SudoPhysicalLine}
      {body lines : List SudoPhysicalLine} {wrappers : List SudoDisabledWrapper}
      (hblock : IsBlock w opening body closing)
      (hrest : Layout (w.endLine + 1) lines wrappers) :
      Layout w.beginLine (opening :: (body ++ closing :: lines)) (w :: wrappers)

/-! ## Which marker a line is -/

variable {text : Bytes}

theorem not_prefix_of_prefix {a b : Bytes} (hab : ¬ a <+: b) (hba : ¬ b <+: a)
    (ha : a <+: text) : ¬ b <+: text := by
  intro hb
  rcases List.prefix_or_prefix_of_prefix ha hb with h | h
  · exact hab h
  · exact hba h

theorem introducer_of_begin (h : kSudoDisabledBeginPrefix <+: text) :
    kSudoMarkerIntroducer <+: text :=
  List.IsPrefix.trans (by decide) h

theorem introducer_of_end (h : kSudoDisabledEndPrefix <+: text) : kSudoMarkerIntroducer <+: text :=
  List.IsPrefix.trans (by decide) h

theorem not_begin_of_end (h : kSudoDisabledEndPrefix <+: text) :
    ¬ kSudoDisabledBeginPrefix <+: text :=
  not_prefix_of_prefix (by decide) (by decide) h

theorem linePrefix_of_parseDisabledLine (h : parseDisabledLine text = .ok original) :
    kSudoDisabledLinePrefix <+: text := by
  by_contra hstarts
  simp [parseDisabledLine, hstarts] at h

theorem not_begin_of_line (h : kSudoDisabledLinePrefix <+: text) :
    ¬ kSudoDisabledBeginPrefix <+: text :=
  not_prefix_of_prefix (by decide) (by decide) h

theorem not_end_of_line (h : kSudoDisabledLinePrefix <+: text) :
    ¬ kSudoDisabledEndPrefix <+: text :=
  not_prefix_of_prefix (by decide) (by decide) h

/-! ## What reading one line does -/

def SudoDisabledWrapper.addOriginals (w : SudoDisabledWrapper)
    (originals : List SudoPhysicalLine) : SudoDisabledWrapper :=
  { w with originalLines := w.originalLines ++ originals }

@[simp] theorem SudoDisabledWrapper.addOriginals_nil (w : SudoDisabledWrapper) :
    w.addOriginals [] = w := by
  simp [SudoDisabledWrapper.addOriginals]

@[simp] theorem SudoDisabledWrapper.addOriginals_addOriginals (w : SudoDisabledWrapper)
    (a b : List SudoPhysicalLine) :
    (w.addOriginals a).addOriginals b = w.addOriginals (a ++ b) := by
  simp [SudoDisabledWrapper.addOriginals]

section ScanLine

variable {index : Nat} {wrappers : List SudoDisabledWrapper} {text : Bytes}

theorem scanLine_foreign (h : ¬ kSudoMarkerIntroducer <+: text) :
    scanLine index { wrappers, current := none } text = .ok { wrappers, current := none } := by
  have hbegin : ¬ kSudoDisabledBeginPrefix <+: text := fun hb => h (introducer_of_begin hb)
  have hend : ¬ kSudoDisabledEndPrefix <+: text := fun he => h (introducer_of_end he)
  simp [scanLine, hbegin, hend, h]

theorem scanLine_begin {policy mutationId : Bytes} (h : kSudoDisabledBeginPrefix <+: text)
    (hmarker : parseWrapperMarker text kSudoDisabledBeginPrefix = .ok (policy, mutationId)) :
    scanLine index { wrappers, current := none } text =
      .ok { wrappers, current := some { policy, mutationId, beginLine := index } } := by
  simp [scanLine, h, hmarker, bind, Except.bind]

theorem scanLine_body (h : parseDisabledLine text = .ok original) :
    scanLine index { wrappers, current := some current } text =
      .ok { wrappers, current := current.addOriginals [original] } := by
  have hline := linePrefix_of_parseDisabledLine h
  simp [scanLine, not_begin_of_line hline, not_end_of_line hline, h, bind, Except.bind,
    SudoDisabledWrapper.addOriginals]

theorem scanLine_end (h : kSudoDisabledEndPrefix <+: text)
    (hmarker : parseWrapperMarker text kSudoDisabledEndPrefix =
      .ok (current.policy, current.mutationId)) (hne : current.originalLines ≠ []) :
    scanLine index { wrappers, current := some current } text =
      .ok { wrappers := wrappers ++ [{ current with endLine := index }], current := none } := by
  simp [scanLine, not_begin_of_end h, h, hmarker, hne, bind, Except.bind]

variable {scan : WrapperScan}

theorem scanLine_outside (h : scanLine index { wrappers, current := none } text = .ok scan) :
    (¬ kSudoMarkerIntroducer <+: text ∧ scan = { wrappers, current := none }) ∨
      ∃ policy mutationId, kSudoDisabledBeginPrefix <+: text ∧
        parseWrapperMarker text kSudoDisabledBeginPrefix = .ok (policy, mutationId) ∧
        scan = { wrappers, current := some { policy, mutationId, beginLine := index } } := by
  unfold scanLine at h
  dsimp only at h
  split_ifs at h with hbegin hend hintro
  · obtain ⟨⟨policy, mutationId⟩, hmarker, hscan⟩ := except_bind_eq_ok.mp h
    exact .inr ⟨policy, mutationId, hbegin, hmarker, (Except.ok.inj hscan).symm⟩
  · exact .inl ⟨hintro, (Except.ok.inj h).symm⟩

theorem scanLine_inside (h : scanLine index { wrappers, current := some current } text = .ok scan) :
    (∃ original, parseDisabledLine text = .ok original ∧
      scan = { wrappers, current := current.addOriginals [original] }) ∨
      (kSudoDisabledEndPrefix <+: text ∧
        parseWrapperMarker text kSudoDisabledEndPrefix =
          .ok (current.policy, current.mutationId) ∧
        current.originalLines ≠ [] ∧
        scan =
          { wrappers := wrappers ++ [{ current with endLine := index }], current := none }) := by
  unfold scanLine at h
  dsimp only at h
  split at h
  · cases h
  split at h
  · rename_i hend
    obtain ⟨⟨policy, mutationId⟩, hmarker, hscan⟩ := except_bind_eq_ok.mp h
    dsimp only at hscan
    split_ifs at hscan with hsame hempty
    push Not at hsame
    obtain ⟨rfl, rfl⟩ := hsame
    exact .inr ⟨hend, hmarker, by simpa using hempty, (Except.ok.inj hscan).symm⟩
  · obtain ⟨original, hline, hscan⟩ := except_bind_eq_ok.mp h
    exact .inl ⟨original, hline, (Except.ok.inj hscan).symm⟩

end ScanLine

/-! ## The reader accepts exactly the layouts -/

theorem scanLines_cons (index : Nat) (scan : WrapperScan) (line : SudoPhysicalLine)
    (lines : List SudoPhysicalLine) :
    scanLines index scan (line :: lines) =
      scanLine index scan line.text >>= fun scan => scanLines (index + 1) scan lines :=
  rfl

variable {body : List SudoPhysicalLine}

/-- The body of a block adds its original lines to the open wrapper. -/
theorem scanLines_body {originals : List SudoPhysicalLine}
    (h : List.Forall₂ (fun line original => parseDisabledLine line.text = .ok original)
      body originals) (index : Nat) (wrappers : List SudoDisabledWrapper)
    (current : SudoDisabledWrapper) (lines : List SudoPhysicalLine) :
    scanLines index { wrappers, current := some current } (body ++ lines) =
      scanLines (index + originals.length)
        { wrappers, current := current.addOriginals originals } lines := by
  induction h generalizing index current with
  | nil => simp
  | @cons line original body originals hline _ ih =>
    rw [List.cons_append, scanLines_cons, scanLine_body hline]
    show scanLines (index + 1) _ (body ++ lines) = _
    rw [ih]
    have hindex : index + 1 + originals.length = index + (original :: originals).length := by
      simp only [List.length_cons]
      omega
    simp [hindex]

variable {lines : List SudoPhysicalLine} {wrappers : List SudoDisabledWrapper}

/-- A file with a layout is read to its end. -/
theorem Layout.scan {index : Nat} (h : Layout index lines wrappers)
    (earlier : List SudoDisabledWrapper) :
    scanLines index { wrappers := earlier, current := none } lines =
      .ok { wrappers := earlier ++ wrappers, current := none } := by
  induction h generalizing earlier with
  | nil => simp [scanLines]
  | foreign hline _ ih =>
    rw [scanLines_cons, scanLine_foreign hline]
    exact ih earlier
  | @block w opening closing body lines wrappers hblock _ ih =>
    rw [scanLines_cons, scanLine_begin hblock.begins hblock.opens]
    show scanLines (w.beginLine + 1) _ (body ++ closing :: lines) = _
    have hopen : ({ policy := w.policy, mutationId := w.mutationId, beginLine := w.beginLine } :
        SudoDisabledWrapper).addOriginals w.originalLines = { w with endLine := 0 } := rfl
    have hclosed : scanLine (w.beginLine + 1 + w.originalLines.length)
        { wrappers := earlier, current := some { w with endLine := 0 } } closing.text =
          .ok { wrappers := earlier ++ [{ w with endLine := _ }], current := none } :=
      scanLine_end hblock.ends hblock.closes hblock.nonempty
    rw [scanLines_body hblock.body, scanLines_cons, hopen, hclosed]
    have hend : w.beginLine + 1 + w.originalLines.length = w.endLine := by
      have := hblock.lines
      omega
    show scanLines (w.beginLine + 1 + w.originalLines.length + 1) _ lines = _
    rw [hend]
    rw [ih]
    simp

/-- What is left of a file when the reader stands inside an open wrapper. -/
inductive Closes (index : Nat) (current : SudoDisabledWrapper) :
    List SudoPhysicalLine → List SudoDisabledWrapper → Prop
  | mk {body originals after : List SudoPhysicalLine} {closing : SudoPhysicalLine}
      {later : List SudoDisabledWrapper}
      (hbody : List.Forall₂ (fun line original => parseDisabledLine line.text = .ok original)
        body originals)
      (nonempty : current.originalLines ++ originals ≠ [])
      (ends : kSudoDisabledEndPrefix <+: closing.text)
      (closes : parseWrapperMarker closing.text kSudoDisabledEndPrefix =
        .ok (current.policy, current.mutationId))
      (rest : Layout (index + originals.length + 1) after later) :
      Closes index current (body ++ closing :: after)
        ({ current.addOriginals originals with endLine := index + originals.length } :: later)

/-- A file that is read to its end has a layout; the two cases are the two states
of the reader. -/
theorem layout_of_scan {all : List SudoDisabledWrapper} : ∀ (index : Nat) (scan : WrapperScan),
      scanLines index scan lines = .ok { wrappers := all, current := none } →
      ∃ wrappers, all = scan.wrappers ++ wrappers ∧
        match scan.current with
        | none => Layout index lines wrappers
        | some current => Closes index current lines wrappers := by
  induction lines with
  | nil =>
    intro index scan h
    obtain rfl : scan = { wrappers := all, current := none } := Except.ok.inj h
    exact ⟨[], by simp, .nil index⟩
  | cons line lines ih =>
    intro index ⟨earlier, current⟩ h
    rw [scanLines_cons, except_bind_eq_ok] at h
    obtain ⟨scan, hline, h⟩ := h
    obtain ⟨wrappers, hall, hrest⟩ := ih (index + 1) scan h
    cases current with
    | none =>
      rcases scanLine_outside hline with ⟨hforeign, rfl⟩ | ⟨policy, id, hbegin, hmarker, rfl⟩
      · exact ⟨wrappers, hall, .foreign hforeign hrest⟩
      · obtain @⟨body, originals, after, closing, later, hbody, hne, hend, hclose, hafter⟩ := hrest
        have hblock : IsBlock ⟨policy, id, originals, index, index + 1 + originals.length⟩
            line body closing :=
          ⟨hbegin, hmarker, hbody, hne, hend, hclose, Nat.add_right_comm ..⟩
        exact ⟨_, hall, .block hblock hafter⟩
    | some current =>
      rcases scanLine_inside hline with ⟨original, horiginal, rfl⟩ | ⟨hend, hmarker, hne, rfl⟩
      · obtain @⟨body, originals, after, closing, later, hbody, hne, hend, hclose, hafter⟩ := hrest
        have hindex : index + 1 + originals.length = index + (original :: originals).length := by
          simp only [List.length_cons]
          omega
        rw [hindex] at hafter
        have hcloses : Closes index current (line :: body ++ closing :: after) _ :=
          .mk (.cons horiginal hbody) (by simp) hend hclose hafter
        refine ⟨_, hall, ?_⟩
        simpa [hindex] using hcloses
      · have hcloses : Closes index current ([] ++ line :: lines) _ :=
          .mk .nil (by simpa using hne) hend hmarker hrest
        refine ⟨{ current with endLine := index } :: wrappers, by simp [hall], ?_⟩
        simpa using hcloses

/-- The reader accepts a file exactly when it has a layout. -/
theorem parseSudoDisabledWrappers_eq_ok_iff :
    parseSudoDisabledWrappers lines = .ok wrappers ↔ Layout 0 lines wrappers := by
  constructor
  · intro h
    unfold parseSudoDisabledWrappers at h
    rw [except_bind_eq_ok] at h
    obtain ⟨⟨all, current⟩, hscan, h⟩ := h
    cases current with
    | some current => cases h
    | none =>
      obtain rfl : all = wrappers := Except.ok.inj h
      obtain ⟨rest, hall, hlayout⟩ := layout_of_scan 0 {} hscan
      rw [hall]
      exact hlayout
  · intro h
    have hscan := h.scan []
    unfold parseSudoDisabledWrappers
    rw [show ({} : WrapperScan) = { wrappers := [], current := none } from rfl, hscan]
    simp [bind, Except.bind]

/-! ## Putting together, cutting and moving -/

variable {closing : SudoPhysicalLine}

section

variable (h : IsBlock w opening body closing)

include h

theorem IsBlock.body_length : body.length = w.originalLines.length :=
  h.body.length_eq

theorem IsBlock.length (lines : List SudoPhysicalLine) :
    w.beginLine + (opening :: (body ++ closing :: lines)).length =
      w.endLine + 1 + lines.length := by
  have hlines := h.lines
  simp only [List.length_cons, List.length_append, h.body_length]
  omega

def SudoDisabledWrapper.shift (k : Nat) (w : SudoDisabledWrapper) : SudoDisabledWrapper :=
  { w with beginLine := w.beginLine + k, endLine := w.endLine + k }

theorem IsBlock.shift (k : Nat) : IsBlock (w.shift k) opening body closing := by
  refine ⟨h.begins, h.opens, h.body, h.nonempty, h.ends, h.closes, ?_⟩
  have hlines := h.lines
  simp only [SudoDisabledWrapper.shift]
  omega

end

/-- Suppressed entries as blocks of a list. -/
def disabledReader : BlockReader SudoPhysicalLine SudoDisabledWrapper where
  foreign line := ¬ kSudoMarkerIntroducer <+: line.text
  isBlock w block := ∃ opening body closing, block = opening :: (body ++ [closing]) ∧
    IsBlock w opening body closing
  first := SudoDisabledWrapper.beginLine
  last := SudoDisabledWrapper.endLine
  shift := SudoDisabledWrapper.shift
  last_eq := by
    rintro w block ⟨opening, body, closing, rfl, hblock⟩
    exact (hblock.length []).symm
  first_lt := by
    rintro w block ⟨opening, body, closing, rfl, hblock⟩
    have hlines := hblock.lines
    omega
  first_shift _ _ := rfl
  last_shift _ _ := rfl
  isBlock_shift := by
    rintro k w block ⟨opening, body, closing, rfl, hblock⟩
    exact ⟨opening, body, closing, rfl, hblock.shift k⟩

theorem layout_iff_blocks {index : Nat} :
    Layout index lines wrappers ↔ Blocks disabledReader index lines wrappers := by
  constructor
  · intro h
    induction h with
    | nil index => exact .nil index
    | foreign hline _ ih => exact .foreign hline ih
    | @block w opening closing body lines wrappers hblock _ ih =>
      have hlines : opening :: (body ++ closing :: lines) =
          opening :: (body ++ [closing]) ++ lines := by simp
      rw [hlines]
      exact .block ⟨opening, body, closing, rfl, hblock⟩ ih
  · intro h
    induction h with
    | nil index => exact .nil index
    | foreign hline _ ih => exact .foreign hline ih
    | block hblock _ ih =>
      obtain ⟨opening, body, closing, rfl, hblock⟩ := hblock
      have hlines : ∀ lines, opening :: (body ++ [closing]) ++ lines =
          opening :: (body ++ closing :: lines) := by simp
      rw [hlines]
      exact .block hblock ih

end Fic.Sudo
