import Fic.Sudo.AuthenticationScan
import Fic.Sudo.MarkedEntries

/-!
# Replaced tokens in the lines

A token is replaced by its own end, so that a replacement leaves bytes out.  `Tokens`
says where the checked edits of an entry stand in its marked text.  Leaving their bytes
out of the text makes the edits (`Tokens.filter`), and leaving them out of the lines is
what `replaceSudoLogicalTokens` does (`Tokens.foldr_replaceToken`).  The lines are
assembled to the edited text (`Tokens.assemble`).
-/

namespace Fic.Sudo

open Fic.Lib

variable {text token : Bytes} {after b : Marked} {previousEnd : Nat} {entry : SudoLogicalEntry}
  {new old result : Bytes} {lines : List SudoPhysicalLine} {a l : Marked} {first : SourcePosition}
  {line : SudoPhysicalLine} {edit : SudoTokenReplacement} {x : UInt8 × Option SourcePosition}

abbrev PlacedEdit := SourcePosition × SudoTokenReplacement

variable {checked : List PlacedEdit}

/-- How many bytes of a token go. -/
def SudoTokenReplacement.cutLength (edit : SudoTokenReplacement) : Nat :=
  edit.expected.length - edit.replacement.length

/-- The place is one of a byte that goes. -/
def PlacedEdit.cuts (item : PlacedEdit) (p : SourcePosition) : Bool :=
  item.1.physicalLine = p.physicalLine ∧ item.1.column ≤ p.column ∧
    p.column < item.1.column + item.2.cutLength

def keeps (checked : List PlacedEdit) (x : UInt8 × Option SourcePosition) : Bool :=
  x.2.all fun p => !checked.any (·.cuts p)

theorem keeps_separator (checked : List PlacedEdit) : keeps checked Marked.separator = true := rfl

theorem filter_keeps_nil (l : Marked) : l.filter (keeps []) = l :=
  List.filter_eq_self.mpr fun x _ => by rcases x with ⟨b, - | p⟩ <;> rfl

theorem keeps_cons (item : PlacedEdit) (checked : List PlacedEdit)
    (x : UInt8 × Option SourcePosition) :
    keeps (item :: checked) x = (keeps [item] x && keeps checked x) := by
  rcases x with ⟨b, - | p⟩
  · rfl
  · simp [keeps]

theorem IsRetag.cut (h : IsRetag old new) : ∃ cut, old = cut ++ new := by
  cases h with
  | tag => exact ⟨lit "NO", by decide⟩
  | option => exact ⟨lit "!", by decide⟩

theorem IsRetag.new_ne_nil (h : IsRetag old new) : new ≠ [] := by
  cases h <;> decide

theorem IsRetag.old_ne_nil (h : IsRetag old new) : old ≠ [] := by
  cases h <;> decide

theorem IsRetag.solid (h : IsRetag old new) : ∀ b ∈ old, isSpace b = false ∧ b ≠ backslash := by
  obtain ⟨a, -, last, rfl, -, hplain, -⟩ := h.plain
  intro b hb
  have hb' := List.all_eq_true.mp hplain b hb
  exact ⟨isPlain_not_space hb', isPlain_ne hb' (by decide)⟩

/-! ## Where the tokens stand -/

/-- The tokens of the edits stand in the text, one behind the other, and each of them
in its line; the last text is the one with the edits made. -/
inductive Tokens (lines : List SudoPhysicalLine) : Marked → List PlacedEdit → Bytes → Prop
  | done (l : Marked) : Tokens lines l [] (Marked.text l)
  | token (front : Marked) {after : Marked} {first : SourcePosition} {edit : SudoTokenReplacement}
      {line : SudoPhysicalLine} {checked : List PlacedEdit} {result : Bytes}
      (htoken : IsRetag edit.expected edit.replacement)
      (hline : lines[first.physicalLine]? = some line)
      (hplace : edit.expected <+: line.text.drop first.column)
      (hafter : Tokens lines after checked result) :
      Tokens lines (front ++ (markFrom first.physicalLine first.column edit.expected ++ after))
        ((first, edit) :: checked) (Marked.text front ++ edit.replacement ++ result)

theorem checkEdit_eq_ok (h : checkEdit entry lines previousEnd edit = .ok first) :
    entry.sourcePositions[edit.logicalOffset]? = some (some first) ∧
    ∃ line, lines[first.physicalLine]? = some line ∧
      edit.expected <+: line.text.drop first.column ∧
      (entry.sourcePositions.drop edit.logicalOffset).take edit.expected.length =
        positionsFrom first.physicalLine first.column edit.expected.length := by
  unfold checkEdit at h
  split_ifs at h
  split at h
  · rename_i hplace
    split at h
    · cases h
    · split_ifs at h with hcross hsnapshot
      obtain rfl := Except.ok.inj h
      exact ⟨hplace, _, ‹_›, hsnapshot, by simpa using hcross⟩
  · cases h

theorem marked_ext (htext : Marked.text a = Marked.text b)
    (hpositions : Marked.positions a = Marked.positions b) : a = b := by
  induction a generalizing b with
  | nil =>
    cases b with
    | nil => rfl
    | cons y b => cases htext
  | cons x a ih =>
    cases b with
    | nil => cases htext
    | cons y b =>
      obtain ⟨hbyte, htext⟩ := List.cons.inj htext
      obtain ⟨hplace, hpositions⟩ := List.cons.inj hpositions
      rw [Prod.ext hbyte hplace, ih htext hpositions]

theorem tokens_of_checkEdits {base : Nat} {pre : Marked} {edits : List SudoTokenReplacement}
    (hmarks : Marks entry (pre ++ l)) (hbase : pre.length = base) (htext : text = Marked.text l)
    (hedited : EditedTo base text edits result)
    (hchecked : checkEdits entry lines previousEnd edits = .ok checked) :
    Tokens lines l checked result := by
  induction hedited generalizing previousEnd pre l checked with
  | done base text =>
    subst htext
    obtain rfl := Except.ok.inj hchecked
    exact .done l
  | @edit base before expected replacement after result edits htoken hafter ih =>
    rw [checkEdits, except_bind_eq_ok] at hchecked
    obtain ⟨first, hfirst, hrest⟩ := hchecked
    rw [except_bind_eq_ok] at hrest
    obtain ⟨rest, hrest, hok⟩ := hrest
    obtain rfl := Except.ok.inj hok
    obtain ⟨-, line, hline, hplace, hpositions⟩ := checkEdit_eq_ok hfirst
    -- the text in front of the token, the token and the text behind it
    obtain ⟨lbe, la, rfl, hbe, rfl⟩ := List.map_eq_append_iff.mp htext.symm
    obtain ⟨lb, le, rfl, rfl, hle⟩ := List.map_eq_append_iff.mp hbe
    have hlength : le.length = expected.length := by rw [← hle, List.length_map]
    have hoffset : (pre ++ lb).length = base + (Marked.text lb).length := by
      rw [List.length_append, hbase, Marked.text, List.length_map]
    have hmark : le = markFrom first.physicalLine first.column expected := by
      refine marked_ext (by rw [text_markFrom]; exact hle) ?_
      rw [positions_markFrom, ← hpositions, hmarks.positions, Marked.positions, Marked.positions,
        ← List.map_drop, ← List.map_take]
      have hsplit : pre ++ (lb ++ le ++ la) = (pre ++ lb) ++ (le ++ la) := by simp
      change _ = List.map _ (List.take _ (List.drop (base + (Marked.text lb).length) _))
      rw [hsplit, ← hoffset, List.drop_left, ← hlength, List.take_left]
    have hnext : pre ++ lb ++ le ++ la = pre ++ (lb ++ le ++ la) := by simp
    have hend : (pre ++ lb ++ le).length = base + (Marked.text lb).length + expected.length := by
      rw [List.length_append, hoffset, hlength]
    rw [List.append_assoc, hmark]
    exact .token lb htoken hline hplace (ih (hnext ▸ hmarks) hend rfl hrest)

/-! ## Leaving the bytes out of the text -/

theorem not_keeps_iff :
    keeps checked x = false ↔ ∃ p, x.2 = some p ∧ ∃ item ∈ checked,
      PlacedEdit.cuts item p = true := by
  rcases x with ⟨b, - | p⟩
  · simp [keeps]
  · simp [keeps]

theorem mem_markFrom_of_cuts {item : PlacedEdit} {p : SourcePosition}
    (h : PlacedEdit.cuts item p = true) (hlength : item.2.cutLength ≤ text.length) :
    ∃ x ∈ markFrom item.1.physicalLine item.1.column text, x.2 = some p := by
  obtain ⟨hline, hfrom, hto⟩ := of_decide_eq_true h
  have hk : p.column - item.1.column < text.length := by omega
  refine ⟨(text[p.column - item.1.column], some p),
    List.mem_of_getElem? (i := p.column - item.1.column) ?_, rfl⟩
  rw [getElem?_markFrom, List.getElem?_eq_getElem hk, Option.map_some, hline,
    Nat.add_sub_cancel' hfrom]

theorem Tokens.mem_of_not_keeps (h : Tokens lines l checked result) (hx : keeps checked x = false) :
    ∃ y ∈ l, y.2 = x.2 ∧ x.2.isSome := by
  induction h with
  | done l => simp [keeps] at hx
  | @token front after first edit line checked result htoken hline hplace hafter ih =>
    obtain ⟨p, hp, item, hitem, hcuts⟩ := not_keeps_iff.mp hx
    rw [hp]
    rcases List.mem_cons.mp hitem with rfl | hitem
    · obtain ⟨y, hy, hplace⟩ := mem_markFrom_of_cuts hcuts (Nat.sub_le _ _)
      exact ⟨y, by simp [hy], hplace, rfl⟩
    · obtain ⟨y, hy, hplace, -⟩ := ih (not_keeps_iff.mpr ⟨p, hp, item, hitem, hcuts⟩)
      exact ⟨y, by simp [hy], by rw [hplace, hp], rfl⟩

theorem Before.irrefl (p : SourcePosition) : ¬p.Before p := by
  unfold SourcePosition.Before
  omega

theorem ordered_apart (h : Marked.Ordered (a ++ b)) {y : UInt8 × Option SourcePosition}
    (hx : x ∈ a) (hy : y ∈ b) (hsome : x.2.isSome) : y.2 ≠ x.2 := by
  intro heq
  obtain ⟨p, hp⟩ := Option.isSome_iff_exists.mp hsome
  exact Before.irrefl p ((List.pairwise_append.mp h).2.2 x hx y hy p hp p (heq.trans hp))

theorem keeps_item {item : PlacedEdit} {column : Nat}
    (hx : x.2 = some { physicalLine := item.1.physicalLine, column }) :
    keeps [item] x = true ↔ column < item.1.column ∨ item.1.column + item.2.cutLength ≤ column := by
  rw [keeps, hx]
  simp [PlacedEdit.cuts]

theorem filter_keeps_apart (edit : SudoTokenReplacement) {column : Nat}
    (hl : l ⊆ markFrom first.physicalLine column text)
    (h : column + text.length ≤ first.column ∨ first.column + edit.cutLength ≤ column) :
    l.filter (keeps [(first, edit)]) = l := by
  refine List.filter_eq_self.mpr fun x hx => ?_
  obtain ⟨k, hk, hplace⟩ := mem_markFrom (hl hx)
  rw [keeps_item hplace]
  dsimp only
  omega

theorem filter_keeps_markFrom {cut : Bytes} (hcut : edit.expected = cut ++ edit.replacement) :
    (markFrom first.physicalLine first.column edit.expected).filter (keeps [(first, edit)]) =
      markFrom first.physicalLine (first.column + cut.length) edit.replacement := by
  have hlength : edit.cutLength = cut.length := by
    rw [SudoTokenReplacement.cutLength, hcut, List.length_append, Nat.add_sub_cancel]
  have hgone : (markFrom first.physicalLine first.column cut).filter
      (keeps [(first, edit)]) = [] := by
    refine List.filter_eq_nil_iff.mpr fun x hx => ?_
    obtain ⟨k, hk, hplace⟩ := mem_markFrom hx
    rw [keeps_item hplace]
    dsimp only
    omega
  rw [hcut, markFrom_append, List.filter_append, hgone, List.nil_append]
  exact filter_keeps_apart edit (List.Subset.refl _) (by omega)

theorem filter_keeps_cons (item : PlacedEdit) (checked : List PlacedEdit) (l : Marked) :
    l.filter (keeps (item :: checked)) = (l.filter (keeps checked)).filter (keeps [item]) := by
  rw [List.filter_filter]
  exact List.filter_congr fun x _ => keeps_cons item checked x

/-- Nothing goes from a text that stands in front of the tokens. -/
theorem Tokens.filter_front (h : Tokens lines l checked result)
    (hordered : Marked.Ordered (a ++ l)) : a.filter (keeps checked) = a := by
  refine List.filter_eq_self.mpr fun x hx => ?_
  by_contra hkeeps
  obtain ⟨y, hy, hplace, hsome⟩ := h.mem_of_not_keeps (by simpa using hkeeps)
  exact ordered_apart hordered hx hy hsome hplace

theorem filter_behind
    (hordered : Marked.Ordered (markFrom first.physicalLine first.column edit.expected ++ l)) :
    l.filter (keeps [(first, edit)]) = l := by
  refine List.filter_eq_self.mpr fun x hx => ?_
  by_contra hkeeps
  obtain ⟨p, hp, item, hitem, hcuts⟩ := not_keeps_iff.mp (by simpa using hkeeps)
  obtain rfl : item = (first, edit) := by simpa using hitem
  obtain ⟨y, hy, hplace⟩ : ∃ y ∈ markFrom first.physicalLine first.column edit.expected,
      y.2 = some p := mem_markFrom_of_cuts hcuts (Nat.sub_le _ _)
  exact ordered_apart hordered hy hx (by rw [hplace]; rfl) (hp.trans hplace.symm)

/-- Leaving the bytes out makes the edits. -/
theorem Tokens.filter (h : Tokens lines l checked result) (hordered : Marked.Ordered l) :
    Marked.text (l.filter (keeps checked)) = result := by
  induction h with
  | done l => rw [filter_keeps_nil]
  | @token front after first edit line checked result htoken hline hplace hafter ih =>
    obtain ⟨cut, hcut⟩ := htoken.cut
    have htail := (List.pairwise_append.mp hordered).2.1
    have hafter' := (List.pairwise_append.mp htail).2.1
    have hfront : front.filter (keeps ((first, edit) :: checked)) = front :=
      (Tokens.token [] htoken hline hplace hafter).filter_front hordered
    have htoken' : (markFrom first.physicalLine first.column edit.expected).filter
        (keeps ((first, edit) :: checked)) =
          markFrom first.physicalLine (first.column + cut.length) edit.replacement := by
      rw [filter_keeps_cons, hafter.filter_front htail, filter_keeps_markFrom hcut]
    have hbehind : after.filter (keeps ((first, edit) :: checked)) =
        after.filter (keeps checked) := by
      rw [filter_keeps_cons]
      exact filter_behind (List.Pairwise.sublist (by simp) htail)
    rw [List.filter_append, List.filter_append, hfront, htoken', hbehind, Marked.text_append,
      Marked.text_append, text_markFrom, ih hafter', List.append_assoc]

/-! ## Leaving the bytes out of the lines -/

/-- The line without the bytes that go. -/
def removeLine (checked : List PlacedEdit) (index : Nat) (line : SudoPhysicalLine) :
    SudoPhysicalLine :=
  { line with text := Marked.text ((markFrom index 0 line.text).filter (keeps checked)) }

def removeTokens (checked : List PlacedEdit) (lines : List SudoPhysicalLine) :
    List SudoPhysicalLine :=
  lines.mapIdx (removeLine checked)

theorem removeLine_other {item : PlacedEdit} {index : Nat} (h : item.1.physicalLine ≠ index)
    (checked : List PlacedEdit) (line : SudoPhysicalLine) :
    removeLine (item :: checked) index line = removeLine checked index line := by
  unfold removeLine
  have hall : ∀ x ∈ (markFrom index 0 line.text).filter (keeps checked), keeps [item] x = true := by
    intro x hx
    obtain ⟨k, -, hplace⟩ := mem_markFrom (List.mem_of_mem_filter hx)
    simp [keeps, hplace, PlacedEdit.cuts, h]
  rw [filter_keeps_cons, List.filter_eq_self.mpr hall]

theorem last_markFrom (line column : Nat) (hne : token ≠ []) :
    ∃ x ∈ markFrom line column token,
      x.2 = some { physicalLine := line, column := column + (token.length - 1) } := by
  have hlast : (markFrom line column token)[token.length - 1]? = some (token.getLast hne, some
      { physicalLine := line, column := column + (token.length - 1) }) := by
    rw [getElem?_markFrom, ← List.getLast?_eq_getElem?, List.getLast?_eq_some_getLast hne]
    rfl
  exact ⟨_, List.mem_of_getElem? hlast, rfl⟩

/-- The bytes of the line up to the end of the token are kept by the later edits. -/
theorem Tokens.filter_until (h : Tokens lines l checked result) (hne : token ≠ [])
    (hordered : Marked.Ordered (markFrom first.physicalLine first.column token ++ l)) (a : Bytes)
    (ha : a.length ≤ first.column + token.length) :
    (markFrom first.physicalLine 0 a).filter (keeps checked) = markFrom first.physicalLine 0 a := by
  refine List.filter_eq_self.mpr fun x hx => ?_
  by_contra hkeeps
  obtain ⟨k, hk, hx⟩ := mem_markFrom hx
  obtain ⟨y, hy, hplace, -⟩ := h.mem_of_not_keeps (by simpa using hkeeps)
  -- the last byte of the token is in front of the one that goes
  obtain ⟨last, hlast, hplaceLast⟩ := last_markFrom first.physicalLine first.column hne
  have hbefore := (List.pairwise_append.mp hordered).2.2 last hlast y hy _ hplaceLast _
    (hplace.trans hx)
  have hpos : 0 < token.length := List.length_pos_of_ne_nil hne
  simp only [SourcePosition.Before] at hbefore
  omega

/-- The line of an edit: what is in front of the token, the token, and what the later
edits leave behind it. -/
theorem Tokens.removeLine_at (htoken : IsRetag edit.expected edit.replacement)
    (hplace : edit.expected <+: line.text.drop first.column)
    (hafter : Tokens lines after checked result)
    (hordered : Marked.Ordered (markFrom first.physicalLine first.column edit.expected ++ after)) :
    ∃ a b, a.length = first.column ∧
      (removeLine checked first.physicalLine line).text = a ++ edit.expected ++ b ∧
      (removeLine ((first, edit) :: checked) first.physicalLine line).text =
        a ++ edit.replacement ++ b := by
  obtain ⟨rest, hrest⟩ := hplace
  obtain ⟨cut, hcut⟩ := htoken.cut
  have hne : edit.expected ≠ [] := htoken.old_ne_nil
  have hcutLength : edit.cutLength ≤ edit.expected.length := Nat.sub_le _ _
  have hlength : (line.text.take first.column).length = first.column := by
    have hdrop := congrArg List.length hrest
    have hpos : 0 < edit.expected.length := List.length_pos_of_ne_nil hne
    rw [List.length_append, List.length_drop] at hdrop
    rw [List.length_take]
    omega
  have htext : line.text = line.text.take first.column ++ edit.expected ++ rest := by
    rw [List.append_assoc, hrest, List.take_append_drop]
  generalize line.text.take first.column = a at hlength htext
  have hmark : markFrom first.physicalLine 0 line.text =
      markFrom first.physicalLine 0 (a ++ edit.expected) ++
        markFrom first.physicalLine (first.column + edit.expected.length) rest := by
    rw [htext, markFrom_append, List.length_append, hlength, Nat.zero_add]
  have hlater : (markFrom first.physicalLine 0 line.text).filter (keeps checked) =
      markFrom first.physicalLine 0 (a ++ edit.expected) ++
        (markFrom first.physicalLine (first.column + edit.expected.length) rest).filter
          (keeps checked) := by
    rw [hmark, List.filter_append,
      hafter.filter_until hne hordered (a ++ edit.expected) (by rw [List.length_append, hlength])]
  have hfront := filter_keeps_apart edit
    (List.Subset.refl (markFrom first.physicalLine 0 a)) (by omega)
  have hbehind := filter_keeps_apart edit (List.filter_subset_self (p := keeps checked)
    (markFrom first.physicalLine (first.column + edit.expected.length) rest)) (by omega)
  refine ⟨a, Marked.text ((markFrom first.physicalLine (first.column + edit.expected.length)
    rest).filter (keeps checked)), hlength, ?_, ?_⟩
  · unfold removeLine
    rw [hlater, Marked.text_append, text_markFrom]
  · unfold removeLine
    dsimp only
    rw [filter_keeps_cons, hlater, markFrom_append, hlength, Nat.zero_add, List.filter_append,
      List.filter_append, hfront, filter_keeps_markFrom hcut, hbehind, Marked.text_append,
      Marked.text_append, text_markFrom, text_markFrom]

theorem getElem?_removeTokens (checked : List PlacedEdit) (lines : List SudoPhysicalLine)
    (k : Nat) :
    (removeTokens checked lines)[k]? = lines[k]?.map (removeLine checked k) :=
  List.getElem?_mapIdx

theorem removeTokens_nil (lines : List SudoPhysicalLine) : removeTokens [] lines = lines := by
  have hline : ∀ index line, removeLine [] index line = line := by
    intro index line
    unfold removeLine
    rw [filter_keeps_nil, text_markFrom]
  refine List.ext_getElem? fun k => ?_
  rw [getElem?_removeTokens, funext (hline k)]
  exact Option.map_id'

/-- One more edit, made in front of the others. -/
theorem replaceToken_removeTokens (htoken : IsRetag edit.expected edit.replacement)
    (hline : lines[first.physicalLine]? = some line)
    (hplace : edit.expected <+: line.text.drop first.column)
    (hafter : Tokens lines after checked result)
    (hordered : Marked.Ordered (markFrom first.physicalLine first.column edit.expected ++ after)) :
    replaceToken (removeTokens checked lines) first edit =
      removeTokens ((first, edit) :: checked) lines := by
  refine List.ext_getElem? fun k => ?_
  rw [replaceToken, List.getElem?_modify, getElem?_removeTokens, getElem?_removeTokens]
  by_cases hk : first.physicalLine = k
  · subst hk
    obtain ⟨a, b, hlength, hold, hnew⟩ := Tokens.removeLine_at htoken hplace hafter hordered
    rw [hline]
    simp only [Option.map_some, if_true, Option.map_eq_map]
    refine congrArg some (congrArg (SudoPhysicalLine.mk · line.terminator) ?_)
    change _ = (removeLine ((first, edit) :: checked) first.physicalLine line).text
    rw [hold, hnew, List.append_assoc a, ← hlength, List.take_left, ← List.append_assoc a,
      ← List.length_append, List.drop_left]
  · simp only [if_neg hk, Option.map_eq_map]
    cases lines[k]? with
    | none => rfl
    | some line =>
      have hother : removeLine ((first, edit) :: checked) k line = removeLine checked k line :=
        removeLine_other hk checked line
      simp [hother]

/-- The lines with the edits made are the lines without the bytes that go. -/
theorem Tokens.foldr_replaceToken (h : Tokens lines l checked result)
    (hordered : Marked.Ordered l) :
    checked.foldr (fun item lines => replaceToken lines item.1 item.2) lines =
      removeTokens checked lines := by
  induction h with
  | done l => exact (removeTokens_nil lines).symm
  | @token front after first edit line checked result htoken hline hplace hafter ih =>
    have htail := (List.pairwise_append.mp hordered).2.1
    rw [List.foldr_cons, ih (List.pairwise_append.mp htail).2.1]
    exact replaceToken_removeTokens htoken hline hplace hafter htail

/-! ## The lines that are left -/

theorem Tokens.item (h : Tokens lines l checked result) : ∀ item ∈ checked,
      IsRetag item.2.expected item.2.replacement ∧ ∃ line,
        lines[item.1.physicalLine]? = some line ∧
          item.2.expected <+: line.text.drop item.1.column := by
  induction h with
  | done l => simp
  | token front htoken hline hplace hafter ih =>
    exact List.forall_mem_cons.mpr ⟨⟨htoken, _, hline, hplace⟩, ih⟩

/-- The bytes that go stand in front of bytes of their token. -/
theorem Tokens.cushioned (h : Tokens lines l checked result) {k : Nat}
    (hline : lines[k]? = some line) :
    Cushioned Marked.isSolid (keeps checked) (markFrom k 0 line.text) := by
  intro j x hx hkeeps
  rw [getElem?_markFrom, Option.map_eq_some_iff] at hx
  obtain ⟨b, hb, rfl⟩ := hx
  obtain ⟨p, hp, item, hitem, hcuts⟩ := not_keeps_iff.mp hkeeps
  obtain rfl := Option.some.inj hp
  obtain ⟨htoken, line', hline', rest, hrest⟩ := h.item item hitem
  obtain ⟨rfl, hfrom, hto⟩ := of_decide_eq_true hcuts
  unfold SudoTokenReplacement.cutLength at hto
  dsimp only at hfrom hto hline
  obtain rfl : line = line' := Option.some.inj (hline.symm.trans hline')
  have hnew : 0 < item.2.replacement.length := List.length_pos_of_ne_nil htoken.new_ne_nil
  -- the bytes of the line at the columns of the token are those of the token
  have htext : ∀ i < item.2.expected.length,
      line.text[item.1.column + i]? = item.2.expected[i]? := by
    intro i hi
    rw [← List.getElem?_drop, ← hrest, List.getElem?_append_left hi]
  have hsolid : ∀ {i : Nat} {c : UInt8} (q : Option SourcePosition),
      item.2.expected[i]? = some c → Marked.isSolid (c, q) = true := by
    intro i c q hc
    obtain ⟨hspace, hslash⟩ := htoken.solid c (List.mem_of_getElem? hc)
    simp [Marked.isSolid, Marked.isBlank, Marked.isSlash, hspace, hslash]
  obtain ⟨i, rfl⟩ : ∃ i, j = item.1.column + i := ⟨j - item.1.column, by omega⟩
  have hi : i + 1 < item.2.expected.length := by omega
  rw [htext i (by omega)] at hb
  refine ⟨hsolid _ hb, (item.2.expected[i + 1], some
    { physicalLine := item.1.physicalLine, column := 0 + (item.1.column + i + 1) }), ?_,
    hsolid _ (List.getElem?_eq_getElem hi)⟩
  rw [getElem?_markFrom, Nat.add_assoc item.1.column, htext (i + 1) hi,
    List.getElem?_eq_getElem hi]
  rfl

theorem getElem?_markLines (index : Nat) (lines : List SudoPhysicalLine) (k : Nat) :
    (markLines index lines)[k]? = lines[k]?.map fun line => markFrom (index + k) 0 line.text := by
  induction lines generalizing index k with
  | nil => rfl
  | cons line lines ih =>
    cases k with
    | zero => rfl
    | succ k =>
      have hindex : index + (k + 1) = index + 1 + k := by omega
      rw [hindex]
      exact ih (index + 1) k

/-- Leaving bytes out of the lines leaves them out of the marked lines. -/
theorem texts_removeTokens (checked : List PlacedEdit) (lines : List SudoPhysicalLine) :
    (markLines 0 (removeTokens checked lines)).map Marked.text =
      ((markLines 0 lines).map (List.filter (keeps checked))).map Marked.text := by
  rw [text_markLines]
  refine List.ext_getElem? fun k => ?_
  rw [List.getElem?_map, getElem?_removeTokens, List.map_map, List.getElem?_map, getElem?_markLines,
    Nat.zero_add, Option.map_map, Option.map_map]
  rfl

/-- The lines without the bytes are assembled to the text with the edits made. -/
theorem Tokens.assemble (hentry : markedEntries lines = [l]) (h : Tokens lines l checked result) :
    (assembleSudoLogicalEntries (removeTokens checked lines)).map SudoLogicalEntry.text =
      [result] := by
  have hordered : Marked.Ordered l := ordered_markedEntries lines l (by simp [hentry])
  have hcushioned : ∀ m ∈ markLines 0 lines, Cushioned Marked.isSolid (keeps checked) m := by
    intro m hm
    obtain ⟨k, hk⟩ := List.getElem?_of_mem hm
    rw [getElem?_markLines, Option.map_eq_some_iff, Nat.zero_add] at hk
    obtain ⟨line, hline, rfl⟩ := hk
    exact h.cushioned hline
  have hfilter : Marked.assemble none ((markLines 0 lines).map (List.filter (keeps checked))) =
      (markedEntries lines).map (List.filter (keeps checked)) := by
    have hnone : ∀ m ∈ (none : Option Marked), Cushioned Marked.isSolid (keeps checked) m := by simp
    exact Marked.assemble_filter hnone hcushioned (keeps_separator checked)
  calc (assembleSudoLogicalEntries (removeTokens checked lines)).map SudoLogicalEntry.text
      = (markedEntries (removeTokens checked lines)).map Marked.text :=
        Marks.texts (marks_assemble _)
    _ = (Marked.assemble none ((markLines 0 lines).map (List.filter (keeps checked)))).map
          Marked.text := Marked.text_assemble rfl (texts_removeTokens checked lines)
    _ = ((markedEntries lines).map (List.filter (keeps checked))).map Marked.text :=
        congrArg _ hfilter
    _ = [result] := by rw [hentry, List.map_singleton, List.map_singleton, h.filter hordered]

end Fic.Sudo
