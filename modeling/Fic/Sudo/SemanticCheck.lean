import Fic.Sudo.AuthenticationRewrite
import Fic.Sudo.AuthenticationWrapper

/-!
# The semantic checks

After a change both transactions read the files again and look at every logical entry:
`AuthenticationTransaction::prove` refuses an entry outside the frames that still lets a
user in without a password, and `ScopedDefaultsTransaction::proveCapturedState` one that
is a scoped `Defaults` outside the suppressed entries.

What the parser says about an entry does not depend on a comment at its end
(`parseAuthenticationRule_comment`), and only the offsets of its edits depend on blanks at
its start (`parseAuthenticationRule_skipBlanks`).
-/

namespace Fic.Sudo

open Fic.Lib

variable {entries : List SudoLogicalEntry} {offset : Nat}
  {rule : AuthenticationRule} {rest text : Bytes}

/-! ## The loops -/

/-- Whether a line belongs to a frame. -/
def insideFrames (line : Nat) (frames : List AuthenticationWrapper) : Bool :=
  frames.any fun frame => frame.first ≤ line && line ≤ frame.last

/-- The loop of `AuthenticationTransaction::prove` over the entries of a document. -/
def proveAuthentication (frames : List AuthenticationWrapper) :
    List SudoLogicalEntry → Except Bytes Unit
  | [] => .ok ()
  | entry :: entries =>
    if insideFrames entry.firstPhysicalLine frames then proveAuthentication frames entries
    else do
      let rule ← parseAuthenticationRule entry.text
      if !rule.edits.isEmpty then .error (lit "Active authentication bypass remains")
      else if rule.kind = .Defaults ∧ rule.scopedDefaults ∧
          Bytes.hasWord (lit "exempt_group") entry.text then
        .error (lit "Unsupported contextual exempt_group; suppress scoped Defaults first")
      else proveAuthentication frames entries

/-- Whether a line lies strictly between the markers of a suppressed entry. -/
def isSuppressed (wrappers : List SudoDisabledWrapper) (line : Nat) : Bool :=
  wrappers.any fun wrapper =>
    wrapper.beginLine + 1 ≤ line &&
      line ≤ (if wrapper.endLine > wrapper.beginLine then wrapper.endLine - 1
        else wrapper.beginLine)

def suppressedCount (wrappers : List SudoDisabledWrapper) (entry : SudoLogicalEntry) : Nat :=
  (List.range entry.lineCount).countP fun offset =>
    isSuppressed wrappers (entry.firstPhysicalLine + offset)

/-- The loop of `ScopedDefaultsTransaction::proveCapturedState` over the entries of a
document. -/
def proveScopedDefaults (path : Bytes) (wrappers : List SudoDisabledWrapper) :
    List SudoLogicalEntry → Except Bytes Unit
  | [] => .ok ()
  | entry :: entries =>
    if suppressedCount wrappers entry = entry.lineCount then
      proveScopedDefaults path wrappers entries
    else if suppressedCount wrappers entry > 0 then
      .error (lit "логическая запись частично пересекает границу FIC-обёртки в " ++ path ++
        lit "; доказательство невозможно")
    else if (scopedDefaultsScope entry.text).isEmpty then proveScopedDefaults path wrappers entries
    else .error (lit "активный контекстный Defaults остаётся вне FIC-обёртки в " ++ path)

theorem proveAuthentication_mem {frames : List AuthenticationWrapper}
    (h : proveAuthentication frames entries = .ok ()) :
    ∀ entry ∈ entries, insideFrames entry.firstPhysicalLine frames = false →
      ∃ rule, parseAuthenticationRule entry.text = .ok rule ∧ rule.edits = [] := by
  induction entries with
  | nil => simp
  | cons entry entries ih =>
    rw [proveAuthentication] at h
    split at h
    · rename_i hinside
      exact List.forall_mem_cons.mpr ⟨fun houtside => by simp [hinside] at houtside, ih h⟩
    · obtain ⟨rule, hrule, h⟩ := except_bind_eq_ok.mp h
      split_ifs at h with hedits
      refine List.forall_mem_cons.mpr ⟨fun _ => ⟨rule, hrule, ?_⟩, ih h⟩
      simpa using hedits

theorem proveScopedDefaults_mem {path : Bytes} {wrappers : List SudoDisabledWrapper}
    (h : proveScopedDefaults path wrappers entries = .ok ()) :
    ∀ entry ∈ entries, 0 < entry.lineCount →
      isSuppressed wrappers entry.firstPhysicalLine = false →
        scopedDefaultsScope entry.text = [] := by
  induction entries with
  | nil => simp
  | cons entry entries ih =>
    rw [proveScopedDefaults] at h
    split_ifs at h with hall hpartial hscope
    · refine List.forall_mem_cons.mpr ⟨fun hlines houtside => ?_, ih h⟩
      -- the first line would be suppressed as well
      unfold suppressedCount at hall
      conv at hall => rhs; rw [← List.length_range (n := entry.lineCount)]
      have hfirst := List.countP_eq_length.mp hall 0 (List.mem_range.mpr hlines)
      rw [Nat.add_zero, houtside] at hfirst
      cases hfirst
    · exact List.forall_mem_cons.mpr ⟨fun _ _ => by simpa using hscope, ih h⟩

/-! ## A comment at the end -/

/-- The scanner stops in front of a comment. -/
theorem delimiters_comment {delimiter : UInt8} (hrest : rest.head?.any isDigit = false)
    {state : QuoteState} {comment : Bytes} {pieces : List Bytes}
    (h : delimiters delimiter state text = .ok (pieces, comment)) :
    delimiters delimiter state (text ++ hash :: rest) = .ok (pieces, comment ++ hash :: rest) := by
  induction text generalizing state pieces comment with
  | nil =>
    rw [delimiters] at h
    split_ifs at h with hopen
    obtain ⟨rfl, rfl⟩ := Prod.mk.inj (Except.ok.inj h)
    have hclosed : state.Closed := by
      simp only [Bool.or_eq_true, decide_eq_true_eq, not_or, Bool.not_eq_true, not_not] at hopen
      exact ⟨hopen.1.1, hopen.1.2, by simpa using hopen.2⟩
    rw [List.nil_append, delimiters, scanByte_hash hclosed hrest]
    simp [hclosed.depth]
  | cons c text ih =>
    have hhash : (hash :: rest).head?.any isDigit = false := rfl
    have hnext := scanByte_next delimiter state c (head_append_any text hhash)
    rw [delimiters] at h
    rw [List.cons_append, delimiters, hnext]
    cases hscan : scanByte delimiter state c text.head? with
    | keep | cut =>
      simp only [hscan, except_map_eq_ok] at h ⊢
      obtain ⟨⟨pieces, comment⟩, hcut, hcons⟩ := h
      refine ⟨_, ih hcut, ?_⟩
      cases pieces <;> simp_all [consPiece]
    | stop =>
      simp only [hscan] at h ⊢
      split_ifs at h ⊢ with hdepth
      obtain ⟨rfl, rfl⟩ := Prod.mk.inj (Except.ok.inj h)
      rfl
    | refuse error => simp [hscan] at h

theorem skipBlanks_comment (text rest : Bytes) :
    skipBlanks (text ++ hash :: rest) = skipBlanks text ++ hash :: rest := by
  obtain ⟨blanks, hblanks, heq, -⟩ := blanks_skipBlanks text
  have hstart : NoBlankStart (skipBlanks text ++ hash :: rest) := by
    have hskip := noBlankStart_skipBlanks text
    unfold NoBlankStart at hskip ⊢
    rw [head_append_any _ (by rfl)]
    exact hskip
  conv_lhs => rw [heq, List.append_assoc]
  exact skipBlanks_append hblanks hstart

theorem trimStart_comment (text rest : Bytes) :
    trimStart (text ++ hash :: rest) = trimStart text := by
  have hlength : ∀ text : Bytes, trimStart text + (skipBlanks text).length = text.length := by
    intro text
    rw [trimStart, skipBlanks, ← List.length_append, List.takeWhile_append_dropWhile]
  have htext := hlength text
  have hwhole := hlength (text ++ hash :: rest)
  rw [skipBlanks_comment] at hwhole
  simp only [List.length_append] at hwhole
  omega

theorem readOptions_nil (offset : Nat) : readOptions offset [[]] = .ok [] := by
  have hempty : readOption offset [] = .ok [] := rfl
  rw [readOptions, hempty]
  rfl

section

variable (hrest : rest.head?.any isDigit = false)

include hrest

theorem parseDefaults_comment {scopedDefaults : Bool}
    (h : parseDefaults offset scopedDefaults text = .ok rule) (hedits : rule.edits ≠ [])
    (hscope : if scopedDefaults then text ≠ [] else text = [] ∨ text.head?.any isSpace = true) :
    parseDefaults offset scopedDefaults (text ++ hash :: rest) = .ok rule := by
  obtain ⟨scope, options, rfl, hlength, -, hsame⟩ := scopeLength_spec hscope
  have hdrop : (scope ++ options).drop (scopeLength scopedDefaults (scope ++ options)) =
      options := by
    rw [← hlength, List.drop_left]
  rw [parseDefaults_eq, except_bind_eq_ok, hdrop] at h
  obtain ⟨⟨pieces, comment⟩, hcut, h⟩ := h
  rw [except_bind_eq_ok] at h
  obtain ⟨edits, hread, h⟩ := h
  have hrule := Except.ok.inj h
  -- an entry with an edit has options, so the comment stands behind them
  have hoptions : options ≠ [] := by
    intro hnil
    subst hnil
    have hpieces : pieces = [[]] := (congrArg Prod.fst (Except.ok.inj hcut)).symm
    rw [hpieces, readOptions_nil] at hread
    rw [← hrule, ← Except.ok.inj hread] at hedits
    exact hedits rfl
  have hhead : (options ++ hash :: rest).head? = options.head? := by
    cases options with
    | nil => exact absurd rfl hoptions
    | cons c options => rfl
  have hscoped := (hsame _ hhead).1
  rw [List.append_assoc, parseDefaults_eq, hscoped, List.drop_left, skipBlanks_comment,
    trimStart_comment, delimiters_comment hrest hcut]
  rw [← hlength] at hread
  rw [except_bind_eq_ok]
  refine ⟨_, rfl, ?_⟩
  rw [except_bind_eq_ok]
  exact ⟨edits, hread, h⟩

theorem parseUserSpec_comment (h : parseUserSpec offset text = .ok rule) :
    parseUserSpec offset (text ++ hash :: rest) = .ok rule := by
  rw [parseUserSpec, except_bind_eq_ok] at h ⊢
  obtain ⟨⟨pieces, comment⟩, hcut, h⟩ := h
  refine ⟨_, delimiters_comment hrest hcut, ?_⟩
  rcases pieces with _ | ⟨head, _ | ⟨next, more⟩⟩
  · cases h
  · cases h
  · simp only [except_bind_eq_ok] at h ⊢
    obtain ⟨names, hnames, ⟨specs, tail⟩, hspecs, h⟩ := h
    -- the equals sign stands in front of the comment
    have hlength : head.length + 1 ≤ text.length := by
      have htext := (cut_of_delimiters (by simp [IsDelimiter]) hcut).text_eq
      rw [htext, joinPieces_cons (by simp)]
      simp
    rw [List.drop_append_of_le_length hlength]
    exact ⟨names, hnames, _, delimiters_comment hrest hspecs, h⟩

/-- An entry with something to edit is read in the same way with a comment behind it. -/
theorem parseAuthenticationRule_comment
    (h : parseAuthenticationRule text = .ok rule) (hedits : rule.edits ≠ []) :
    parseAuthenticationRule (text ++ hash :: rest) = .ok rule := by
  rcases parseAuthenticationRule_cases h with
    ⟨hnone, -, -⟩ | ⟨blanks, body, hreads⟩ | ⟨blanks, spec, hreads⟩
  · exact absurd hnone hedits
  · have hparsed := parseDefaults_comment hrest hreads.parse hedits hreads.scope
    have hbody : body ≠ [] := by
      intro hnil
      have hparse := hreads.parse
      rw [hnil] at hparse
      exact hedits (congrArg AuthenticationRule.edits (Except.ok.inj hparse)).symm
    have hhead : (body ++ hash :: rest).head? = body.head? := by
      cases body with
      | nil => exact absurd rfl hbody
      | cons c body => rfl
    have hstarts : startsDefaults (lit "Defaults" ++ (body ++ hash :: rest)) = true := by
      rw [startsDefaults_body, hhead, ← startsDefaults_body]
      exact hreads.starts
    rw [hreads.text_eq, List.append_assoc, List.append_assoc,
      parseAuthenticationRule_defaults hreads.blanks_space hstarts, hhead]
    exact hparsed
  · obtain ⟨head, tail, -, hspec, -, -⟩ := parseUserSpec_edited hreads.parse
    have hparsed := parseUserSpec_comment hrest hreads.parse
    rw [hspec, List.append_assoc, List.cons_append] at hparsed
    rw [hreads.text_eq, hspec, List.append_assoc, List.append_assoc, List.cons_append,
      hreads.any_tail head tail _ hspec]
    exact hparsed

end

/-! ## Blanks at the start -/

def SudoTokenReplacement.move (k : Nat) (edit : SudoTokenReplacement) : SudoTokenReplacement :=
  { edit with logicalOffset := k + edit.logicalOffset }

def AuthenticationRule.move (k : Nat) (rule : AuthenticationRule) : AuthenticationRule :=
  { rule with edits := rule.edits.map (·.move k) }

theorem readOption_move (k offset : Nat) (piece : Bytes) :
    readOption (k + offset) piece = (readOption offset piece).map (List.map (·.move k)) := by
  unfold readOption
  dsimp only
  split_ifs
  · simp [Except.map, SudoTokenReplacement.move, Nat.add_assoc]
  · rfl
  · rfl

theorem readOptions_move (k offset : Nat) (pieces : List Bytes) :
    readOptions (k + offset) pieces = (readOptions offset pieces).map (List.map (·.move k)) := by
  induction pieces generalizing offset with
  | nil => rfl
  | cons piece pieces ih =>
    have hnext : k + offset + piece.length + 1 = k + (offset + piece.length + 1) := by omega
    rw [readOptions, readOptions, readOption_move, hnext, ih]
    cases readOption offset piece with
    | error error => rfl
    | ok edits =>
      cases readOptions (offset + piece.length + 1) pieces with
      | error error => rfl
      | ok rest => simp [bind, Except.bind, Except.map]

theorem parseDefaults_move (k offset : Nat) (scopedDefaults : Bool) (text : Bytes) :
    parseDefaults (k + offset) scopedDefaults text =
      (parseDefaults offset scopedDefaults text).map (·.move k) := by
  rw [parseDefaults_eq, parseDefaults_eq]
  cases delimiters comma {} (skipBlanks (text.drop (scopeLength scopedDefaults text))) with
  | error error => rfl
  | ok cut =>
    simp only [bind, Except.bind]
    rw [Nat.add_assoc, Nat.add_assoc, readOptions_move, ← Nat.add_assoc]
    cases readOptions (offset + scopeLength scopedDefaults text +
        trimStart (text.drop (scopeLength scopedDefaults text))) cut.1 with
    | error error => rfl
    | ok edits => rfl

theorem readAttributes_move (k : Nat) (fuel offset : Nat) (required : Bool) (text : Bytes) :
    readAttributes fuel (k + offset) required text =
      (readAttributes fuel offset required text).map fun attributes =>
        { attributes with edits := attributes.edits.map (·.move k) } := by
  induction fuel generalizing offset required text with
  | zero => rfl
  | succ fuel ih =>
    unfold readAttributes
    cases skipBlanks (text.dropWhile isNameByte) with
    | nil => rfl
    | cons c value =>
      dsimp only
      split
      · -- a tag
        split
        · rfl
        · rw [Nat.add_assoc, ih]
          cases readAttributes fuel (offset + (text.length - (skipBlanks value).length)) _
              (skipBlanks value) with
          | error error => rfl
          | ok more =>
            by_cases hname : text.takeWhile isNameByte = noPasswd
            · simp [bind, Except.bind, Except.map, hname, SudoTokenReplacement.move]
            · simp [bind, Except.bind, Except.map, hname]
      · split
        · -- an option
          split
          · rfl
          · cases skipOptionValue (skipBlanks value) with
            | error error => rfl
            | ok rest =>
              simp only [bind, Except.bind]
              rw [Nat.add_assoc, ih]
        · rfl

theorem readCommand_move (k offset : Nat) (inherited : Inherited) (piece : Bytes) :
    readCommand (k + offset) inherited piece =
      (readCommand offset inherited piece).map fun (command, edits, next) =>
        (command, edits.map (·.move k), next) := by
  unfold readCommand
  dsimp only
  cases readRunas inherited.runas (skipBlanks piece) with
  | error error => rfl
  | ok read =>
    obtain ⟨runas, text⟩ := read
    simp only [bind, Except.bind]
    rw [Nat.add_assoc, readAttributes_move]
    cases readAttributes (text.length + 1) (offset + (piece.length - text.length))
        inherited.passwordRequired text with
    | error error => rfl
    | ok attributes =>
      simp only [Except.map]
      cases checkCommand (trimLogicalCopy attributes.rest) with
      | error error => rfl
      | ok _ => rfl

theorem readCommands_move (k offset : Nat) (inherited : Inherited) (pieces : List Bytes) :
    readCommands (k + offset) inherited pieces =
      (readCommands offset inherited pieces).map fun (commands, edits) =>
        (commands, edits.map (·.move k)) := by
  induction pieces generalizing offset inherited with
  | nil => rfl
  | cons piece pieces ih =>
    have hnext : k + offset + piece.length + 1 = k + (offset + piece.length + 1) := by omega
    rw [readCommands, readCommands, readCommand_move, hnext]
    cases readCommand offset inherited piece with
    | error error => rfl
    | ok read =>
      obtain ⟨command, edits, next⟩ := read
      simp only [bind, Except.bind, Except.map]
      rw [ih]
      cases readCommands (offset + piece.length + 1) next pieces with
      | error error => rfl
      | ok rest => simp [Except.map]

theorem parseUserSpec_move (k offset : Nat) (text : Bytes) :
    parseUserSpec (k + offset) text = (parseUserSpec offset text).map (·.move k) := by
  unfold parseUserSpec
  cases delimiters equalsSign {} text with
  | error error => rfl
  | ok cut =>
    obtain ⟨pieces, comment⟩ := cut
    simp only [bind, Except.bind]
    match pieces with
    | [] => rfl
    | [head] => rfl
    | head :: next :: more =>
      dsimp only
      cases readHead (trimLogicalCopy head) with
      | error error => rfl
      | ok names =>
        cases delimiters comma {} (text.drop (head.length + 1)) with
        | error error => rfl
        | ok specs =>
          have hnext : k + offset + head.length + 1 = k + (offset + head.length + 1) := by omega
          dsimp only
          rw [hnext, readCommands_move]
          cases readCommands (offset + head.length + 1) {} specs.1 with
          | error error => rfl
          | ok read => rfl

theorem skipBlanks_skipBlanks (text : Bytes) : skipBlanks (skipBlanks text) = skipBlanks text := by
  show skipBlanks ([] ++ skipBlanks text) = skipBlanks text
  exact skipBlanks_append (List.forall_mem_nil _) (noBlankStart_skipBlanks text)

theorem trimStart_skipBlanks (text : Bytes) : trimStart (skipBlanks text) = 0 := by
  have hlength := congrArg List.length
    (List.takeWhile_append_dropWhile (p := isSpace) (l := skipBlanks text))
  rw [List.length_append, ← skipBlanks, skipBlanks_skipBlanks] at hlength
  exact Nat.right_eq_add.mp hlength.symm

theorem scopedDefaultsScope_skipBlanks (text : Bytes) :
    scopedDefaultsScope (skipBlanks text) = scopedDefaultsScope text := by
  unfold scopedDefaultsScope
  rw [skipBlanks_skipBlanks]

/-- Blanks at the start of an entry only move its edits. -/
theorem parseAuthenticationRule_skipBlanks (text : Bytes) : parseAuthenticationRule text =
    (parseAuthenticationRule (skipBlanks text)).map (·.move (trimStart text)) := by
  unfold parseAuthenticationRule
  dsimp only
  rw [skipBlanks_skipBlanks, trimStart_skipBlanks, scopedDefaultsScope_skipBlanks]
  split_ifs
  · rfl
  · rfl
  · rfl
  · rfl
  · rw [Nat.zero_add]
    exact parseDefaults_move (trimStart text) 8 _ _
  · exact parseUserSpec_move (trimStart text) 0 _

end Fic.Sudo
