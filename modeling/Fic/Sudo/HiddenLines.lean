import Fic.Sudo.SemanticCheck

/-!
# Lines behind a comment

Sudoers ends a comment with its physical line: a backslash at the end of a comment
continues nothing.  `assembleSudoLogicalEntries` looks at the backslash before anything
is known about comments.  This module reads a file both ways (`lexicalEntries` is
the reading of sudo) and compares the results: as long as nothing but comments stands
behind a comment that ends in a backslash, every entry of sudo's reading that is no
comment is an entry of the code's reading (`grouped_lexicalEntries`), up to more comment
at its end.  Otherwise the code's reading hides a line.
-/

namespace Fic.Sudo

open Fic.Lib

variable {rest : List SudoPhysicalLine} {comment : SudoLogicalEntry} {lexical text : Bytes}
  {codes entries : List SudoLogicalEntry} {lines : List SudoPhysicalLine} {index : Nat}
  {code entry : SudoLogicalEntry} {line : SudoPhysicalLine}

/-! ## Comments -/

/-- A line that is nothing but a comment: a hash that starts neither a numeric id nor an
include directive. -/
def isCommentLine (text : Bytes) : Bool :=
  startsComment (skipBlanks text) && !includeDirectives.any (startsWithWord · (skipBlanks text))

/-- A rule that says where the comment of a text starts. -/
structure CommentRule where
  /-- What stands in front of the comment, if there is one. -/
  body : Bytes → Option Bytes
  body_spec : ∀ {text b : Bytes}, body text = some b →
    ∃ rest, text = b ++ hash :: rest ∧ rest.head?.any isDigit = false
  body_line : ∀ {text : Bytes}, isCommentLine text = true → (body text).isSome = true

variable {rule : CommentRule}

namespace CommentRule

/-- The text without its comment. -/
def active (rule : CommentRule) (text : Bytes) : Bytes := (rule.body text).getD text

/-- A comment is never continued. -/
def continues (rule : CommentRule) (text : Bytes) : Bool :=
  hasContinuation text && (rule.body text).isNone

end CommentRule

/-- The entries from a line on, as sudo reads them. -/
def lexicalFrom (rule : CommentRule) (current : Option SudoLogicalEntry) (index : Nat) :
    List SudoPhysicalLine → List SudoLogicalEntry
  | [] => current.toList
  | line :: lines =>
    match current with
    | none => lexicalFrom rule (some (startEntry index line)) (index + 1) lines
    | some entry =>
      if rule.continues entry.text then
        lexicalFrom rule (some (continueEntry entry index line)) (index + 1) lines
      else entry :: lexicalFrom rule (some (startEntry index line)) (index + 1) lines

def lexicalEntries (rule : CommentRule) (lines : List SudoPhysicalLine) : List SudoLogicalEntry :=
  lexicalFrom rule none 0 lines

/-! ## What a continuation keeps -/

theorem trim_comment (b rest : Bytes) : trimLogicalCopy (b ++ hash :: rest) =
    skipBlanks b ++ hash :: rest.rdropWhile isSpace := by
  show (skipBlanks (b ++ hash :: rest)).rdropWhile isSpace = _
  rw [skipBlanks_comment, rdropWhile_append_cons (by decide)]

theorem continueEntry_comment {b rest : Bytes} (hrest : rest.head?.any isDigit = false)
    (htext : entry.text = b ++ hash :: rest) (hcontinues : hasContinuation entry.text = true)
    (index : Nat) (line : SudoPhysicalLine) :
    ∃ rest', rest'.head?.any isDigit = false ∧
      (continueEntry entry index line).text = skipBlanks b ++ hash :: rest' := by
  have htrim := trim_comment b rest
  -- the backslash that is taken away stands behind the hash
  have hne : rest.rdropWhile isSpace ≠ [] := by
    intro hnil
    rw [hasContinuation, htext, htrim, hnil, rtakeWhile_append_cons (by decide)] at hcontinues
    cases hcontinues
  obtain ⟨behind, hbehind⟩ := List.rdropWhile_prefix isSpace rest
  refine ⟨(rest.rdropWhile isSpace).dropLast ++ lit " " ++ trimLogicalCopy line.text, ?_, ?_⟩
  · match hdropped : rest.rdropWhile isSpace, hne with
    | [c], _ => rfl
    | c :: d :: more, _ =>
      rw [hdropped] at hbehind
      rw [← hbehind] at hrest
      exact hrest
  · simp only [continueEntry]
    rw [htext, htrim, List.dropLast_append_cons, List.dropLast_cons_of_ne_nil hne]
    simp

theorem hasContinuation_continueEntry (entry : SudoLogicalEntry) (index : Nat)
    (hline : trimLogicalCopy line.text ≠ []) :
    hasContinuation (continueEntry entry index line).text = hasContinuation line.text := by
  have hback : (trimLogicalCopy line.text).rdropWhile isSpace = trimLogicalCopy line.text :=
    List.rdropWhile_idempotent _ _
  have hfront : (trimLogicalCopy line.text).dropWhile isSpace = trimLogicalCopy line.text := by
    refine (dropWhile_rdropWhile _).trans ?_
    rw [List.dropWhile_idempotent]
    rfl
  have htrim : ∀ x : Bytes,
      (trimLogicalCopy (x ++ ' '.toUInt8 :: trimLogicalCopy line.text)).rtakeWhile
      (· = backslash) = (trimLogicalCopy line.text).rtakeWhile (· = backslash) := by
    intro x
    change (((x ++ ' '.toUInt8 :: trimLogicalCopy line.text).dropWhile isSpace).rdropWhile
      isSpace).rtakeWhile (· = backslash) = _
    rw [List.dropWhile_append, List.dropWhile_cons_of_pos (by decide), hfront]
    split_ifs
    · rw [hback]
    · have hlast : (x.dropWhile isSpace ++ ' '.toUInt8 :: trimLogicalCopy line.text).rdropWhile
          isSpace = x.dropWhile isSpace ++ ' '.toUInt8 :: trimLogicalCopy line.text := by
        rw [List.rdropWhile_eq_self_iff] at hback ⊢
        intro _
        rw [List.getLast_append_of_ne_nil (by simp) (by simp), List.getLast_cons hline]
        exact hback hline
      rw [hlast, rtakeWhile_append_cons (by decide)]
  refine congrArg (fun slashes : Bytes => decide (slashes.length % 2 = 1)) ?_
  rw [← htrim ((trimLogicalCopy entry.text).dropLast)]
  simp only [continueEntry, List.append_assoc]
  rfl

/-! ## Both readings side by side -/

/-- The text of the code's entry: the one of sudo's entry, or, behind its comment, more. -/
def CommentRule.Reads (rule : CommentRule) (lexical text : Bytes) : Prop :=
  text = lexical ∨ ∃ b rest, rule.body lexical = some b ∧ rest.head?.any isDigit = false ∧
    text = skipBlanks b ++ hash :: rest

/-- Sudo's entries in groups: an entry of the code and the comments it swallows. -/
inductive Grouped (rule : CommentRule) (lines : List SudoPhysicalLine) :
    List SudoLogicalEntry → List SudoLogicalEntry → Prop
  | nil : Grouped rule lines [] []
  | group {entry code : SudoLogicalEntry} {swallowed entries codes : List SudoLogicalEntry}
      (hfirst : code.firstPhysicalLine = entry.firstPhysicalLine)
      (hreads : rule.Reads entry.text code.text)
      (hswallowed : ∀ comment ∈ swallowed, ∃ line, lines[comment.firstPhysicalLine]? = some line ∧
        isCommentLine line.text = true)
      (hrest : Grouped rule lines entries codes) :
      Grouped rule lines (entry :: (swallowed ++ entries)) (code :: codes)

/-- Nothing but a comment stands behind a comment that ends in a backslash. -/
def CommentsEnd (rule : CommentRule) (lines : List SudoPhysicalLine)
    (entries : List SudoLogicalEntry) : Prop :=
  ∀ entry ∈ entries, (rule.body entry.text).isSome = true → hasContinuation entry.text = true →
    ∀ next, lines[entry.firstPhysicalLine + entry.lineCount]? = some next →
      isCommentLine next.text = true

theorem trim_ne_nil_of_comment (h : isCommentLine text = true) : trimLogicalCopy text ≠ [] := by
  have hhead : (skipBlanks text).head? = some hash := by
    simp only [isCommentLine, startsComment, Bool.and_eq_true, decide_eq_true_eq] at h
    exact h.1.1
  obtain ⟨rest, hrest⟩ := List.head?_eq_some_iff.mp hhead
  show (skipBlanks text).rdropWhile isSpace ≠ []
  rw [hrest, show hash :: rest = [] ++ hash :: rest from rfl, rdropWhile_append_cons (by decide)]
  simp

/-- An entry of the code that goes on in a comment reads the same entry of sudo. -/
theorem CommentRule.Reads.continueEntry (h : rule.Reads lexical code.text)
    (hcomment : (rule.body lexical).isSome = true) (hcontinues : hasContinuation code.text = true)
    (index : Nat) (line : SudoPhysicalLine) :
    rule.Reads lexical (continueEntry code index line).text := by
  obtain ⟨b, hb⟩ := Option.isSome_iff_exists.mp hcomment
  right
  rcases h with h | ⟨b', rest, hb', hrest, h⟩
  · obtain ⟨rest, htext, hrest⟩ := rule.body_spec hb
    obtain ⟨rest', hrest', hnew⟩ :=
      continueEntry_comment hrest (h.trans htext) hcontinues index line
    exact ⟨b, rest', hb, hrest', hnew⟩
  · obtain ⟨rest', hrest', hnew⟩ := continueEntry_comment hrest h hcontinues index line
    rw [skipBlanks_skipBlanks] at hnew
    exact ⟨b', rest', hb', hrest', hnew⟩

/-- A comment of sudo's reading inside an entry of the code. -/
structure Swallowed (rule : CommentRule) (comment code : SudoLogicalEntry) : Prop where
  isComment : isCommentLine comment.text = true
  continuation : hasContinuation code.text = hasContinuation comment.text

theorem Swallowed.start (h : isCommentLine line.text = true) (code : SudoLogicalEntry)
    (index : Nat) : Swallowed rule (startEntry index line) (continueEntry code index line) :=
  ⟨h, hasContinuation_continueEntry code index (trim_ne_nil_of_comment h)⟩

theorem CommentRule.not_continues (h : (rule.body text).isSome = true) :
    ¬rule.continues text = true := by
  simp [continues, Option.isNone_eq_false_iff.mpr h]

/-- A group whose entry `lexical` has been read already. -/
def OpenGroup (rule : CommentRule) (lines : List SudoPhysicalLine) (first : Nat) (lexical : Bytes)
    (entries codes : List SudoLogicalEntry) : Prop :=
  ∃ swallowed rest code more, entries = swallowed ++ rest ∧ codes = code :: more ∧
    code.firstPhysicalLine = first ∧ rule.Reads lexical code.text ∧
    (∀ comment ∈ swallowed, ∃ line, lines[comment.firstPhysicalLine]? = some line ∧
      isCommentLine line.text = true) ∧
    Grouped rule lines rest more

theorem OpenGroup.close
    (h : OpenGroup rule lines entry.firstPhysicalLine entry.text entries codes) :
    Grouped rule lines (entry :: entries) codes := by
  obtain ⟨swallowed, rest, code, more, rfl, rfl, hfirst, hreads, hswallowed, hrest⟩ := h
  exact .group hfirst hreads hswallowed hrest

theorem OpenGroup.swallow {first : Nat} (h : OpenGroup rule lines first lexical entries codes)
    (hcomment : ∃ line, lines[comment.firstPhysicalLine]? = some line ∧
      isCommentLine line.text = true) :
    OpenGroup rule lines first lexical (comment :: entries) codes := by
  obtain ⟨swallowed, rest, code, more, rfl, rfl, hfirst, hreads, hswallowed, hrest⟩ := h
  exact ⟨comment :: swallowed, rest, code, more, rfl, rfl, hfirst, hreads,
    List.forall_mem_cons.mpr ⟨hcomment, hswallowed⟩, hrest⟩

/-- The entry ends in front of the line `index`. -/
def SudoLogicalEntry.EndsAt (entry : SudoLogicalEntry) (index : Nat) : Prop :=
  0 < entry.lineCount ∧ entry.firstPhysicalLine + entry.lineCount = index

theorem endsAt_startEntry (index : Nat) (line : SudoPhysicalLine) :
    (startEntry index line).EndsAt (index + 1) := ⟨Nat.one_pos, rfl⟩

theorem SudoLogicalEntry.EndsAt.continueEntry (h : entry.EndsAt index) (line : SudoPhysicalLine) :
    (continueEntry entry index line).EndsAt (index + 1) :=
  ⟨Nat.succ_pos _, congrArg (· + 1) h.2⟩

theorem drop_step (h : lines.drop index = line :: rest) :
    lines[index]? = some line ∧ lines.drop (index + 1) = rest := by
  constructor
  · rw [← List.head?_drop, h]
    rfl
  · rw [← List.tail_drop, h]
    rfl

/-! ## A hidden line -/

def StartsAt (entries : List SudoLogicalEntry) (index : Nat) : Prop :=
  ∃ entry ∈ entries, entry.firstPhysicalLine = index

/-- From a line on, every line that starts an entry of sudo's reading and is no comment
starts one of the code's. -/
def StartsFrom (lines : List SudoPhysicalLine) (index : Nat)
    (entries codes : List SudoLogicalEntry) : Prop :=
  ∀ j line, index ≤ j → lines[j]? = some line → isCommentLine line.text = false →
    StartsAt entries j → StartsAt codes j

theorem startsAt_lexicalFrom (rule : CommentRule) (rest : List SudoPhysicalLine) :
    ∀ (entry : SudoLogicalEntry) (index : Nat),
      StartsAt (lexicalFrom rule (some entry) index rest) entry.firstPhysicalLine := by
  induction rest with
  | nil => exact fun entry _ => ⟨entry, List.mem_singleton_self entry, rfl⟩
  | cons line rest ih =>
    intro entry index
    rw [lexicalFrom]
    split_ifs
    · exact ih (continueEntry entry index line) (index + 1)
    · exact ⟨entry, List.mem_cons_self, rfl⟩

theorem assembleFrom_first (rest : List SudoPhysicalLine) :
    ∀ (entry : SudoLogicalEntry) (index : Nat), ∀ code ∈ assembleFrom (some entry) index rest,
      code.firstPhysicalLine = entry.firstPhysicalLine ∨ index ≤ code.firstPhysicalLine := by
  induction rest with
  | nil =>
    intro entry index code hcode
    rw [List.mem_singleton.mp hcode]
    exact .inl rfl
  | cons line rest ih =>
    intro entry index code hcode
    rw [assembleFrom] at hcode
    split_ifs at hcode
    · rcases ih _ _ code hcode with hfirst | hlater
      · exact .inl hfirst
      · exact .inr (by omega)
    · rcases List.mem_cons.mp hcode with rfl | hcode
      · exact .inl rfl
      · rcases ih _ _ code hcode with hfirst | hlater
        · exact .inr (ge_of_eq hfirst)
        · exact .inr (by omega)

/-- A line that the code's entry goes on in starts none of its entries. -/
theorem isCommentLine_of_startsFrom (before : List SudoLogicalEntry)
    (hcode : code.firstPhysicalLine < index) (hline : lines[index]? = some line)
    (h : StartsFrom lines index
      (before ++ lexicalFrom rule (some (startEntry index line)) (index + 1) rest)
      (assembleFrom (some (continueEntry code index line)) (index + 1) rest)) :
    isCommentLine line.text = true := by
  by_contra hcomment
  obtain ⟨entry, hentry, hfirst⟩ := startsAt_lexicalFrom rule rest (startEntry index line)
      (index + 1)
  obtain ⟨found, hfound, hindex⟩ := h index line le_rfl hline (Bool.not_eq_true _ ▸ hcomment)
    ⟨entry, List.mem_append_right _ hentry, hfirst⟩
  have hsame : (continueEntry code index line).firstPhysicalLine = code.firstPhysicalLine := rfl
  rcases assembleFrom_first rest _ _ found hfound with h | h <;> omega

theorem StartsFrom.tail (h : StartsFrom lines index (entry :: entries) codes) :
    StartsFrom lines (index + 1) entries codes := by
  intro j line hj hline hcomment hstarts
  obtain ⟨e, he, hfirst⟩ := hstarts
  exact h j line (by omega) hline hcomment ⟨e, List.mem_cons_of_mem _ he, hfirst⟩

theorem StartsFrom.tail_code (hcode : code.firstPhysicalLine < index)
    (h : StartsFrom lines index entries (code :: codes)) :
    StartsFrom lines index entries codes := by
  intro j line hj hline hcomment hstarts
  obtain ⟨e, he, hfirst⟩ := h j line hj hline hcomment hstarts
  rcases List.mem_cons.mp he with rfl | he
  · omega
  · exact ⟨e, he, hfirst⟩

theorem SudoLogicalEntry.EndsAt.first_lt (h : entry.EndsAt index) :
    entry.firstPhysicalLine < index := by
  have hpos := h.1
  have hend := h.2
  omega

/-- The two readings from a line on.  Either both stand in the same entry, or sudo's reading
stands in a comment that the code's entry has swallowed.  If no line is hidden, nothing but
comments stands behind a continued comment; if that is so, the readings agree. -/
theorem readings_from (rest : List SudoPhysicalLine) : ∀ index, lines.drop index = rest →
    (∀ entry : SudoLogicalEntry, entry.EndsAt index →
      (StartsFrom lines index (lexicalFrom rule (some entry) index rest)
          (assembleFrom (some entry) index rest) →
        CommentsEnd rule lines (lexicalFrom rule (some entry) index rest)) ∧
      (CommentsEnd rule lines (lexicalFrom rule (some entry) index rest) →
        Grouped rule lines (lexicalFrom rule (some entry) index rest)
          (assembleFrom (some entry) index rest))) ∧
    ∀ (comment code : SudoLogicalEntry) (lexical : Bytes), comment.EndsAt index →
      code.firstPhysicalLine < index → Swallowed rule comment code →
      rule.Reads lexical code.text → (rule.body lexical).isSome = true →
      (∃ line, lines[comment.firstPhysicalLine]? = some line ∧ isCommentLine line.text = true) →
      (StartsFrom lines index (lexicalFrom rule (some comment) index rest)
          (assembleFrom (some code) index rest) →
        CommentsEnd rule lines (lexicalFrom rule (some comment) index rest)) ∧
      (CommentsEnd rule lines (lexicalFrom rule (some comment) index rest) →
        OpenGroup rule lines code.firstPhysicalLine lexical
          (lexicalFrom rule (some comment) index rest) (assembleFrom (some code) index rest)) := by
  induction rest with
  | nil =>
    intro index hdrop
    have hlast : ∀ entry : SudoLogicalEntry, entry.EndsAt index →
        CommentsEnd rule lines [entry] := by
      intro entry hends e he _ _ next hnext
      rw [List.mem_singleton.mp he, hends.2, ← List.head?_drop, hdrop] at hnext
      cases hnext
    refine ⟨fun entry hends => ⟨fun _ => hlast entry hends, fun _ => ?_⟩,
      fun comment code lexical hends _ _ hreads _ hline =>
        ⟨fun _ => hlast comment hends, fun _ => ?_⟩⟩
    · exact .group rfl (.inl rfl) (List.forall_mem_nil _) .nil
    · exact ⟨[comment], [], code, [], rfl, rfl, rfl, hreads, by simpa using hline, .nil⟩
  | cons line rest ih =>
    intro index hdrop
    obtain ⟨hline, hnext⟩ := drop_step hdrop
    obtain ⟨hsame, hinside⟩ := ih (index + 1) hnext
    have hfresh := hsame _ (endsAt_startEntry index line)
    have hcons : ∀ {entry : SudoLogicalEntry} {entries : List SudoLogicalEntry},
        entry.EndsAt index →
        (hasContinuation entry.text = true → isCommentLine line.text = true) →
        CommentsEnd rule lines entries → CommentsEnd rule lines (entry :: entries) := by
      intro entry entries hends hcomment hentries
      refine List.forall_mem_cons.mpr ⟨fun _ hcontinues next hfound => ?_, hentries⟩
      rw [hends.2, hline] at hfound
      rw [← Option.some.inj hfound]
      exact hcomment hcontinues
    refine ⟨fun entry hends => ?_,
      fun comment code lexical hends hcode hin hreads hbody hcomment => ?_⟩
    · rw [lexicalFrom, assembleFrom]
      by_cases hcontinues : hasContinuation entry.text = true
      · rw [if_pos hcontinues]
        by_cases hbody : (rule.body entry.text).isSome = true
        · -- the code goes on where sudo starts anew: the next line has to be a comment
          rw [if_neg (CommentRule.not_continues hbody)]
          have hgoes := fun hcomment => hinside _ _ _ (endsAt_startEntry index line)
            (hends.continueEntry line).first_lt (.start hcomment entry index)
            (CommentRule.Reads.continueEntry (.inl rfl) hbody hcontinues index line) hbody
            ⟨line, hline, hcomment⟩
          constructor
          · intro hstarts
            have hcomment := isCommentLine_of_startsFrom [entry] hends.first_lt hline hstarts
            exact hcons hends (fun _ => hcomment) ((hgoes hcomment).1 hstarts.tail)
          · intro hend
            have hcomment := hend entry List.mem_cons_self hbody hcontinues line (hends.2 ▸ hline)
            exact OpenGroup.close
              ((hgoes hcomment).2 fun e he => hend e (List.mem_cons_of_mem _ he))
        · have hboth : rule.continues entry.text = true := by
            simpa [CommentRule.continues, hcontinues] using hbody
          rw [if_pos hboth]
          have hgoes := hsame _ (hends.continueEntry line)
          exact ⟨fun hstarts => hgoes.1 fun j l hj => hstarts j l (Nat.le_of_succ_le hj), hgoes.2⟩
      · have hstops : ¬rule.continues entry.text = true := by
          simp [CommentRule.continues, hcontinues]
        rw [if_neg hcontinues, if_neg hstops]
        constructor
        · intro hstarts
          refine hcons hends (fun h => absurd h hcontinues) ?_
          exact hfresh.1 (hstarts.tail_code hends.first_lt).tail
        · intro hend
          show Grouped rule lines (entry :: ([] ++ _)) _
          refine .group rfl (.inl rfl) (List.forall_mem_nil _) ?_
          exact hfresh.2 fun e he => hend e (List.mem_cons_of_mem _ he)
    · rw [lexicalFrom, if_neg (CommentRule.not_continues (rule.body_line hin.isComment)),
        assembleFrom]
      by_cases hcontinues : hasContinuation code.text = true
      · rw [if_pos hcontinues]
        have hgoes := fun hthis => hinside _ _ _ (endsAt_startEntry index line)
          (show (continueEntry code index line).firstPhysicalLine < index + 1 from
            Nat.lt_succ_of_lt hcode) (.start hthis code index)
          (hreads.continueEntry hbody hcontinues index line) hbody ⟨line, hline, hthis⟩
        constructor
        · intro hstarts
          have hthis := isCommentLine_of_startsFrom [comment] hcode hline hstarts
          exact hcons hends (fun _ => hthis) ((hgoes hthis).1 hstarts.tail)
        · intro hend
          have hthis := hend comment List.mem_cons_self (rule.body_line hin.isComment)
            (hin.continuation ▸ hcontinues) line (hends.2 ▸ hline)
          exact .swallow ((hgoes hthis).2 fun e he => hend e (List.mem_cons_of_mem _ he)) hcomment
      · rw [if_neg hcontinues]
        constructor
        · intro hstarts
          refine hcons hends (fun h => absurd (hin.continuation.trans h) hcontinues) ?_
          exact hfresh.1 (hstarts.tail_code hcode).tail
        · intro hend
          exact ⟨[comment], _, code, _, rfl, rfl, rfl, hreads, by simpa using hcomment,
            hfresh.2 fun e he => hend e (List.mem_cons_of_mem _ he)⟩

theorem grouped_lexicalEntries (h : CommentsEnd rule lines (lexicalEntries rule lines)) :
    Grouped rule lines (lexicalEntries rule lines) (assembleSudoLogicalEntries lines) := by
  cases lines with
  | nil => exact .nil
  | cons line rest => exact ((readings_from rest 1 rfl).1 _ (endsAt_startEntry 0 line)).2 h

/-- An entry that is no comment is an entry of the code's reading. -/
theorem Grouped.exists_code (h : Grouped rule lines entries codes) (hentry : entry ∈ entries)
    (hline : ∀ line, lines[entry.firstPhysicalLine]? = some line →
      isCommentLine line.text = false) :
    ∃ code ∈ codes, code.firstPhysicalLine = entry.firstPhysicalLine ∧
      rule.Reads entry.text code.text := by
  induction h with
  | nil => cases hentry
  | group hfirst hreads hswallowed _ ih =>
    rcases List.mem_cons.mp hentry with rfl | hentry
    · exact ⟨_, List.mem_cons_self, hfirst, hreads⟩
    rcases List.mem_append.mp hentry with hentry | hentry
    · obtain ⟨line, hfound, hcomment⟩ := hswallowed entry hentry
      rw [hline line hfound] at hcomment
      cases hcomment
    · obtain ⟨code, hcode, hboth⟩ := ih hentry
      exact ⟨code, List.mem_cons_of_mem _ hcode, hboth⟩

/-! ## The semantic checks -/

/-- The code reads the text without its comment, or a comment stands behind that. -/
theorem CommentRule.Reads.active (h : rule.Reads lexical text) :
    text = rule.active lexical ∨ ∃ rest, rest.head?.any isDigit = false ∧
      (text = rule.active lexical ++ hash :: rest ∨
        text = skipBlanks (rule.active lexical) ++ hash :: rest) := by
  unfold CommentRule.active
  rcases h with h | ⟨b, rest, hb, hrest, h⟩
  · cases hbody : rule.body lexical with
    | none => exact .inl h
    | some b =>
      obtain ⟨rest, htext, hrest⟩ := rule.body_spec hbody
      exact .inr ⟨rest, hrest, .inl (h.trans htext)⟩
  · exact .inr ⟨rest, hrest, .inr (by rw [hb]; exact h)⟩

/-- What the code's entry is read as, sudo's entry is read as without its comment. -/
theorem CommentRule.Reads.edits (h : rule.Reads lexical text) {read parsed : AuthenticationRule}
    (hread : parseAuthenticationRule text = .ok read) (hnone : read.edits = [])
    (hparsed : parseAuthenticationRule (rule.active lexical) = .ok parsed) : parsed.edits = [] := by
  by_contra hedits
  have hcontra : ∀ found : AuthenticationRule, found.edits ≠ [] →
      parseAuthenticationRule text ≠ .ok found := by
    intro found hfound hsame
    rw [hread] at hsame
    exact hfound (Except.ok.inj hsame ▸ hnone)
  rcases h.active with h | ⟨rest, hrest, h | h⟩
  · exact hcontra parsed hedits (h ▸ hparsed)
  · exact hcontra parsed hedits (h ▸ parseAuthenticationRule_comment hrest hparsed hedits)
  · rw [parseAuthenticationRule_skipBlanks, except_map_eq_ok] at hparsed
    obtain ⟨unmoved, hunmoved, rfl⟩ := hparsed
    have hedits' : unmoved.edits ≠ [] := by
      intro hnil
      exact hedits (by rw [AuthenticationRule.move, hnil]; rfl)
    have hcomment := parseAuthenticationRule_comment hrest hunmoved hedits'
    exact hcontra unmoved hedits' (h ▸ hcomment)

theorem scopedDefaultsScope_comment (h : scopedDefaultsScope text ≠ []) (rest : Bytes) :
    scopedDefaultsScope (text ++ hash :: rest) ≠ [] := by
  unfold scopedDefaultsScope at h ⊢
  rw [skipBlanks_comment]
  dsimp only at h
  split_ifs at h with hhash hdefaults
  · exact absurd rfl h
  on_goal 2 => exact absurd rfl h
  obtain ⟨body, hbody⟩ := hdefaults
  have hhead : ¬(skipBlanks text ++ hash :: rest).head? = some hash := by
    rw [← hbody]
    show ¬some 'D'.toUInt8 = some hash
    decide
  have hstarts : lit "Defaults" <+: skipBlanks text ++ hash :: rest :=
    ⟨body ++ hash :: rest, by rw [← List.append_assoc, hbody]⟩
  have hdrop : (lit "Defaults" ++ body).drop 8 = body := rfl
  rw [if_neg hhead, if_pos hstarts, ← hbody, List.append_assoc]
  rw [← hbody, hdrop] at h
  have hdrop' : (lit "Defaults" ++ (body ++ hash :: rest)).drop 8 = body ++ hash :: rest := rfl
  rw [hdrop']
  cases body with
  | nil => exact absurd rfl h
  | cons c body => exact h

theorem CommentRule.Reads.scope (h : rule.Reads lexical text)
    (hnone : scopedDefaultsScope text = []) : scopedDefaultsScope (rule.active lexical) = [] := by
  by_contra hscope
  rcases h.active with h | ⟨rest, -, h | h⟩ <;> rw [h] at hnone
  · exact hscope hnone
  · exact scopedDefaultsScope_comment hscope rest hnone
  · rw [← scopedDefaultsScope_skipBlanks] at hscope
    exact scopedDefaultsScope_comment hscope rest hnone

/-- Nothing hides behind a comment of the file. -/
structure NothingHidden (rule : CommentRule) (content : Bytes) : Prop where
  /-- A line that is no comment and continues none of sudo's entries starts an entry. -/
  starts : ∀ index line, (splitPhysicalLines content)[index]? = some line →
    isCommentLine line.text = false →
    StartsAt (lexicalEntries rule (splitPhysicalLines content)) index →
    StartsAt (assembleSudoLogicalEntries (splitPhysicalLines content)) index
  /-- An accepted file has no rule outside a frame that asks for no password. -/
  authentication : ∀ frames, parseAuthenticationWrappers (splitPhysicalLines content) = .ok frames →
    proveAuthentication frames (assembleSudoLogicalEntries (splitPhysicalLines content)) = .ok () →
    ∀ entry ∈ lexicalEntries rule (splitPhysicalLines content),
      (∀ line, (splitPhysicalLines content)[entry.firstPhysicalLine]? = some line →
        isCommentLine line.text = false) →
      insideFrames entry.firstPhysicalLine frames = false →
      ∀ parsed, parseAuthenticationRule (rule.active entry.text) = .ok parsed → parsed.edits = []
  /-- An accepted file has no scoped `Defaults` outside a suppressed entry. -/
  scopedDefaults : ∀ path wrappers,
    parseSudoDisabledWrappers (splitPhysicalLines content) = .ok wrappers →
    proveScopedDefaults path wrappers
      (assembleSudoLogicalEntries (splitPhysicalLines content)) = .ok () →
    ∀ entry ∈ lexicalEntries rule (splitPhysicalLines content),
      (∀ line, (splitPhysicalLines content)[entry.firstPhysicalLine]? = some line →
        isCommentLine line.text = false) →
      isSuppressed wrappers entry.firstPhysicalLine = false →
      scopedDefaultsScope (rule.active entry.text) = []

/-- Nothing is hidden if and only if every comment that ends in a backslash is followed by a
comment (or by nothing). -/
theorem nothingHidden_iff_commentsEnd (rule : CommentRule) (content : Bytes) :
    NothingHidden rule content ↔
      CommentsEnd rule (splitPhysicalLines content)
        (lexicalEntries rule (splitPhysicalLines content)) := by
  constructor
  · intro h
    have hstarts := h.starts
    generalize splitPhysicalLines content = lines at hstarts ⊢
    cases lines with
    | nil => exact fun entry hentry => absurd hentry (by simp [lexicalEntries, lexicalFrom])
    | cons line rest =>
      refine ((readings_from rest 1 rfl).1 _ (endsAt_startEntry 0 line)).1 ?_
      exact fun j found _ hfound hcomment => hstarts j found hfound hcomment
  · intro h
    have hgroups := grouped_lexicalEntries h
    refine ⟨fun index line hline hcomment hstarts => ?_,
      fun frames _ hprove entry hentry hcomment houtside parsed hparsed => ?_,
      fun path wrappers _ hprove entry hentry hcomment houtside => ?_⟩
    · obtain ⟨entry, hentry, rfl⟩ := hstarts
      obtain ⟨code, hcode, hfirst, -⟩ := hgroups.exists_code hentry fun found hfound => by
        rw [hline] at hfound
        rw [← Option.some.inj hfound]
        exact hcomment
      exact ⟨code, hcode, hfirst⟩
    · obtain ⟨code, hcode, hfirst, hreads⟩ := hgroups.exists_code hentry hcomment
      obtain ⟨read, hread, hnone⟩ := proveAuthentication_mem hprove code hcode (hfirst ▸ houtside)
      exact hreads.edits hread hnone hparsed
    · obtain ⟨code, hcode, hfirst, hreads⟩ := hgroups.exists_code hentry hcomment
      have hnone := proveScopedDefaults_mem hprove code hcode (assemble_range hcode).1
        (hfirst ▸ houtside)
      exact hreads.scope hnone

/-! ## The rule of sudoers -/

/-- What stands in front of the first hash that is neither quoted nor escaped nor the start of
a numeric id. -/
def commentBody (quoted escaped : Bool) : Bytes → Option Bytes
  | [] => none
  | c :: text =>
    if escaped then (commentBody quoted false text).map (c :: ·)
    else if c = backslash then (commentBody quoted true text).map (c :: ·)
    else if c = quote then (commentBody (!quoted) false text).map (c :: ·)
    else if !quoted && c = hash && !text.head?.any isDigit then some []
    else (commentBody quoted false text).map (c :: ·)

theorem commentBody_spec (text : Bytes) : ∀ quoted escaped b,
    commentBody quoted escaped text = some b →
    ∃ rest, text = b ++ hash :: rest ∧ rest.head?.any isDigit = false := by
  induction text with
  | nil => exact fun _ _ _ h => nomatch h
  | cons c text ih =>
    intro quoted escaped b h
    have hkeep : ∀ quoted escaped, (commentBody quoted escaped text).map (c :: ·) = some b →
        ∃ rest, c :: text = b ++ hash :: rest ∧ rest.head?.any isDigit = false := by
      intro quoted escaped h
      obtain ⟨b, hb, rfl⟩ := Option.map_eq_some_iff.mp h
      obtain ⟨rest, htext, hrest⟩ := ih quoted escaped b hb
      exact ⟨rest, by rw [htext]; rfl, hrest⟩
    rw [commentBody] at h
    split_ifs at h with hescaped hslash hquote hhash
    iterate 3
      · exact hkeep _ _ h
    · simp only [Bool.and_eq_true, Bool.not_eq_true', decide_eq_true_eq] at hhash
      rw [← Option.some.inj h, hhash.1.2]
      exact ⟨text, rfl, hhash.2⟩
    · exact hkeep _ _ h

theorem commentBody_blanks {blanks : Bytes} (hblanks : ∀ c ∈ blanks, isSpace c = true)
    {rest : Bytes} (hrest : rest.head?.any isDigit = false) :
    commentBody false false (blanks ++ hash :: rest) = some blanks := by
  induction blanks with
  | nil =>
    show (if false = true then _ else if hash = backslash then _ else if hash = quote then _ else
      if (!false && decide (hash = hash) && !rest.head?.any isDigit) = true then some [] else _) = _
    rw [hrest]
    rfl
  | cons c blanks ih =>
    obtain ⟨hc, hblanks⟩ := List.forall_mem_cons.mp hblanks
    have hne : ∀ d, isSpace d = false → c ≠ d := by
      rintro d hd rfl
      rw [hc] at hd
      cases hd
    rw [List.cons_append, commentBody, ih hblanks]
    simp [hne backslash (by decide), hne quote (by decide), hne hash (by decide)]

/-- Comments of sudoers; the hash of an include directive starts none. -/
def sudoersComments : CommentRule where
  body text :=
    if includeDirectives.any (startsWithWord · (skipBlanks text)) then
      (commentBody false false ((skipBlanks text).drop 1)).map
        (text.takeWhile isSpace ++ (skipBlanks text).take 1 ++ ·)
    else commentBody false false text
  body_spec := by
    intro text b h
    split_ifs at h
    · obtain ⟨b, hb, rfl⟩ := Option.map_eq_some_iff.mp h
      obtain ⟨rest, htext, hrest⟩ := commentBody_spec _ _ _ _ hb
      refine ⟨rest, ?_, hrest⟩
      rw [List.append_assoc, List.append_assoc, ← htext, List.take_append_drop]
      exact List.takeWhile_append_dropWhile.symm
    · exact commentBody_spec _ _ _ _ h
  body_line := by
    intro text h
    rw [isCommentLine, Bool.and_eq_true, Bool.not_eq_true'] at h
    rw [h.2]
    obtain ⟨blanks, hblanks, heq, -⟩ := blanks_skipBlanks text
    have hcomment := h.1
    simp only [startsComment, Bool.and_eq_true, decide_eq_true_eq, Bool.not_eq_true'] at hcomment
    obtain ⟨rest, hrest⟩ := List.head?_eq_some_iff.mp hcomment.1
    rw [hrest] at heq hcomment
    have hdigit : rest.head?.any isDigit = false := hcomment.2
    rw [heq, commentBody_blanks hblanks hdigit]
    rfl

/-- The rule behind a comment that ends in a backslash is active for sudo, and the check
accepts the file. -/
theorem comment_hides_rule :
    parseAuthenticationWrappers
        (splitPhysicalLines (lit "# note \\\nbob ALL=NOPASSWD: ALL\n")) = .ok [] ∧
      proveAuthentication [] (assembleSudoLogicalEntries
        (splitPhysicalLines (lit "# note \\\nbob ALL=NOPASSWD: ALL\n"))) = .ok () ∧
      ¬NothingHidden sudoersComments (lit "# note \\\nbob ALL=NOPASSWD: ALL\n") := by
  refine ⟨by decide +kernel, by decide +kernel, fun h => ?_⟩
  have hstarts := h.starts 1 { text := lit "bob ALL=NOPASSWD: ALL", terminator := [lf] }
    (by decide +kernel) (by decide +kernel)
  unfold StartsAt at hstarts
  revert hstarts
  decide +kernel

end Fic.Sudo
