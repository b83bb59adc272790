import Fic.Sudo.AuthenticationRewrite
import Fic.Sudo.TokenRemoval

/-!
# What the replacement of an entry is

`authenticationReplacement` parses an entry, replaces its tokens in the lines and joins
them.  The lines keep their shape, so that the replacement is cut into them again; they
are assembled to the edited text (`Tokens.assemble`), which is read as the same rule with
authentication switched on (`parseAuthenticationRule_edited`).  Byte by byte, the file is
the old one with the tokens replaced (`Tokens.editedTo`).
-/

namespace Fic.Sudo

open Fic.Lib

variable {previousEnd : Nat} {edit : SudoTokenReplacement}
  {result : Bytes} {checked : List PlacedEdit} {lines : List SudoPhysicalLine}
  {edits : List SudoTokenReplacement} {l : Marked} {k : Nat} {first : SourcePosition}
  {entry : SudoLogicalEntry} {line : SudoPhysicalLine}

/-! ## The shape of the lines -/

section

variable (h : Cushioned Marked.isSolid (keeps checked) (markFrom k 0 line.text))

include h

theorem getLast?_removeLine :
    (removeLine checked k line).text.getLast? = line.text.getLast? := by
  unfold removeLine Marked.text
  conv => rhs; rw [← text_markFrom k 0 line.text]
  rw [Marked.text, List.getLast?_map, List.getLast?_map, h.getLast?_filter]

theorem isLine_removeLine (hline : IsLine line) : IsLine (removeLine checked k line) := by
  have hlast := getLast?_removeLine h
  have hsubset : ∀ b ∈ (removeLine checked k line).text, b ∈ line.text := by
    intro b hb
    rw [← text_markFrom k 0 line.text]
    exact List.map_subset _ (List.filter_subset_self _) hb
  have hlf : lf ∉ (removeLine checked k line).text := fun hmem => hline.noLf (hsubset lf hmem)
  cases hline with
  | @plain text _ hcr => exact .plain hlf fun hend => hcr (hlast.symm.trans hend)
  | @returned text _ => exact .returned hlf
  | @unterminated text _ hne =>
    refine .unterminated hlf fun hnil => hne ?_
    have hempty : text.getLast? = none := by
      rw [← hlast]
      exact congrArg List.getLast? hnil
    simpa using hempty

end

theorem shaped_mapIdx {f : Nat → SudoPhysicalLine → SudoPhysicalLine}
    (hf : ∀ k line, lines[k]? = some line →
      IsLine (f k line) ∧ (f k line).terminator = line.terminator) (h : Shaped lines) :
    Shaped (lines.mapIdx f) := by
  induction h generalizing f with
  | nil => exact .nil
  | last _ => exact .last (hf 0 _ rfl).1
  | cons _ hterminated _ ih =>
    obtain ⟨hline, hterminator⟩ := hf 0 _ rfl
    rw [List.mapIdx_cons]
    refine .cons hline ?_ (ih fun k line hk => hf (k + 1) line hk)
    rw [hterminator]
    exact hterminated

theorem Tokens.shaped (h : Tokens lines l checked result) (hshaped : Shaped lines) :
    Shaped (removeTokens checked lines) := by
  refine shaped_mapIdx (fun k line hline => ⟨?_, rfl⟩) hshaped
  exact isLine_removeLine (h.cushioned hline) (hshaped.isLine line (List.mem_of_getElem? hline))

/-! ## Byte by byte -/

def byteOffset (lines : List SudoPhysicalLine) (p : SourcePosition) : Nat :=
  (joinPhysicalLines (lines.take p.physicalLine)).length + p.column

def physicalEdit (lines : List SudoPhysicalLine) (item : PlacedEdit) : SudoTokenReplacement :=
  { item.2 with logicalOffset := byteOffset lines item.1 }

theorem join_at (h : lines[k]? = some line) : joinPhysicalLines lines =
      joinPhysicalLines (lines.take k) ++
        (line.bytes ++ joinPhysicalLines (lines.drop (k + 1))) := by
  obtain ⟨hk, rfl⟩ := List.getElem?_eq_some_iff.mp h
  conv => lhs; rw [← List.take_append_drop k lines, List.drop_eq_getElem_cons hk]
  rw [joinPhysicalLines_append]
  rfl

/-- Where the token of an edit starts is a place of the text. -/
theorem Tokens.first_mem (h : Tokens lines l checked result) :
    ∀ item ∈ checked, ∃ x ∈ l, x.2 = some item.1 := by
  induction h with
  | done l => simp
  | @token front after first edit line checked result htoken hline hplace hafter ih =>
    refine List.forall_mem_cons.mpr ⟨?_, fun item hitem => ?_⟩
    · obtain ⟨b, token, htoken⟩ := List.exists_cons_of_ne_nil htoken.old_ne_nil
      exact ⟨(b, some first), by simp [htoken, markFrom], rfl⟩
    · obtain ⟨x, hx, hplace⟩ := ih item hitem
      exact ⟨x, by simp [hx], hplace⟩

/-- The later tokens start behind the end of a token, in its line or a later one. -/
theorem Tokens.later (h : Tokens lines l checked result) {token : Bytes} (hne : token ≠ [])
    (hordered : Marked.Ordered (markFrom first.physicalLine first.column token ++ l)) :
    ∀ item ∈ checked, first.physicalLine < item.1.physicalLine ∨
      first.physicalLine = item.1.physicalLine ∧ first.column + token.length ≤ item.1.column := by
  intro item hitem
  obtain ⟨x, hx, hplace⟩ := h.first_mem item hitem
  obtain ⟨last, hlast, hplaceLast⟩ := last_markFrom first.physicalLine first.column hne
  have hbefore := (List.pairwise_append.mp hordered).2.2 last hlast x hx _ hplaceLast _ hplace
  simp only [SourcePosition.Before] at hbefore
  omega

theorem removeLine_outside {index : Nat} (h : ∀ item ∈ checked, item.1.physicalLine ≠ index)
    (line : SudoPhysicalLine) : removeLine checked index line = line := by
  induction checked with
  | nil =>
    have hsame := congrArg (·[index]?) (removeTokens_nil (List.replicate (index + 1) line))
    simpa [getElem?_removeTokens] using hsame
  | cons item checked ih =>
    obtain ⟨hitem, hchecked⟩ := List.forall_mem_cons.mp h
    rw [removeLine_other hitem, ih hchecked]

theorem take_removeTokens (h : ∀ item ∈ checked, k ≤ item.1.physicalLine)
    (lines : List SudoPhysicalLine) : (removeTokens checked lines).take k = lines.take k := by
  refine List.ext_getElem? fun j => ?_
  rw [List.getElem?_take, List.getElem?_take, getElem?_removeTokens]
  by_cases hj : j < k
  · rw [if_pos hj, if_pos hj]
    cases lines[j]? with
    | none => rfl
    | some line =>
      refine congrArg some (removeLine_outside (fun item hitem hline => ?_) line)
      have := h item hitem
      omega
  · rw [if_neg hj, if_neg hj]

theorem drop_removeTokens (item : PlacedEdit) (checked : List PlacedEdit)
    (lines : List SudoPhysicalLine) :
    (removeTokens (item :: checked) lines).drop (item.1.physicalLine + 1) =
      (removeTokens checked lines).drop (item.1.physicalLine + 1) := by
  refine List.ext_getElem? fun j => ?_
  rw [List.getElem?_drop, List.getElem?_drop, getElem?_removeTokens, getElem?_removeTokens]
  have hother : item.1.physicalLine ≠ item.1.physicalLine + 1 + j := by omega
  exact congrArg (Option.map · _) (funext (removeLine_other hother checked))

/-- One token and the bytes around it, before and after the edit. -/
theorem Tokens.join_token {after : Marked} (htoken : IsRetag edit.expected edit.replacement)
    (hline : lines[first.physicalLine]? = some line)
    (hplace : edit.expected <+: line.text.drop first.column)
    (hafter : Tokens lines after checked result)
    (hordered : Marked.Ordered (markFrom first.physicalLine first.column edit.expected ++ after)) :
    ∃ before behind, before.length = byteOffset lines first ∧
      joinPhysicalLines (removeTokens checked lines) = before ++ edit.expected ++ behind ∧
      joinPhysicalLines (removeTokens ((first, edit) :: checked) lines) =
        before ++ edit.replacement ++ behind := by
  have hlater := hafter.later htoken.old_ne_nil hordered
  have hfrom : ∀ item ∈ checked, first.physicalLine ≤ item.1.physicalLine := by
    intro item hitem
    have := hlater item hitem
    omega
  obtain ⟨a, b, hlength, hold, hnew⟩ := Tokens.removeLine_at htoken hplace hafter hordered
  have hget : ∀ checked : List PlacedEdit, (removeTokens checked lines)[first.physicalLine]? =
      some (removeLine checked first.physicalLine line) := by
    intro checked
    rw [getElem?_removeTokens, hline, Option.map_some]
  refine ⟨joinPhysicalLines (lines.take first.physicalLine) ++ a, b ++ (line.terminator ++
    joinPhysicalLines ((removeTokens checked lines).drop (first.physicalLine + 1))), ?_, ?_, ?_⟩
  · rw [List.length_append, hlength, byteOffset]
  · rw [join_at (hget checked), take_removeTokens hfrom, SudoPhysicalLine.bytes, hold]
    simp [removeLine]
  · have hfrom' : ∀ item ∈ (first, edit) :: checked, first.physicalLine ≤ item.1.physicalLine :=
      List.forall_mem_cons.mpr ⟨le_rfl, hfrom⟩
    have hdrop := drop_removeTokens (first, edit) checked lines
    rw [join_at (hget ((first, edit) :: checked)), take_removeTokens hfrom',
      SudoPhysicalLine.bytes, hnew, hdrop]
    simp [removeLine]

theorem byteOffset_later {p q : SourcePosition} {length : Nat}
    (hline : lines[p.physicalLine]? = some line) (hlength : p.column + length ≤ line.text.length)
    (h : p.physicalLine < q.physicalLine ∨
      p.physicalLine = q.physicalLine ∧ p.column + length ≤ q.column) :
    byteOffset lines p + length ≤ byteOffset lines q := by
  unfold byteOffset
  rcases h with hlt | ⟨heq, hcolumn⟩
  · -- the whole line is in front of `q`
    obtain ⟨hk, rfl⟩ := List.getElem?_eq_some_iff.mp hline
    have htake : lines.take q.physicalLine = lines.take p.physicalLine ++
        (lines.take q.physicalLine).drop p.physicalLine := by
      conv => lhs; rw [← List.take_append_drop p.physicalLine (lines.take q.physicalLine),
        List.take_take, min_eq_left hlt.le]
    have hcons : (lines.take q.physicalLine).drop p.physicalLine =
        lines[p.physicalLine] :: (lines.take q.physicalLine).drop (p.physicalLine + 1) := by
      rw [List.drop_eq_getElem_cons (by rw [List.length_take]; omega), List.getElem_take]
    have hbytes : joinPhysicalLines (lines[p.physicalLine] ::
        (lines.take q.physicalLine).drop (p.physicalLine + 1)) = lines[p.physicalLine].text ++
          (lines[p.physicalLine].terminator ++
            joinPhysicalLines ((lines.take q.physicalLine).drop (p.physicalLine + 1))) := by
      simp [joinPhysicalLines, SudoPhysicalLine.bytes]
    rw [htake, joinPhysicalLines_append, hcons, hbytes]
    simp only [List.length_append]
    omega
  · rw [heq]
    omega

/-- Byte by byte, the lines that are left are the lines with the tokens replaced. -/
theorem Tokens.editedTo (h : Tokens lines l checked result) (hordered : Marked.Ordered l) :
    ∀ n, (∀ item ∈ checked, n ≤ byteOffset lines item.1) →
      (joinPhysicalLines (removeTokens checked lines)).take n = (joinPhysicalLines lines).take n ∧
      EditedTo n ((joinPhysicalLines lines).drop n) (checked.map (physicalEdit lines))
        ((joinPhysicalLines (removeTokens checked lines)).drop n) := by
  induction h with
  | done l =>
    intro n _
    rw [removeTokens_nil]
    exact ⟨rfl, .done _ _⟩
  | @token front after first edit line checked result htoken hline hplace hafter ih =>
    intro n hn
    have htail := (List.pairwise_append.mp hordered).2.1
    obtain ⟨before, behind, hlength, hold, hnew⟩ :=
      Tokens.join_token htoken hline hplace hafter htail
    have hnext : ∀ item ∈ checked,
        (before ++ edit.expected).length ≤ byteOffset lines item.1 := by
      intro item hitem
      rw [List.length_append, hlength]
      refine byteOffset_later hline ?_ (hafter.later htoken.old_ne_nil htail item hitem)
      have hfit := hplace.length_le
      have hpos := List.length_pos_of_ne_nil htoken.old_ne_nil
      rw [List.length_drop] at hfit
      omega
    obtain ⟨hfront, hedited⟩ := ih (List.pairwise_append.mp htail).2.1 _ hnext
    rw [hold, List.take_left] at hfront
    rw [hold, List.drop_left] at hedited
    have hn' : n ≤ before.length := by
      rw [hlength]
      exact hn _ (List.mem_cons_self)
    have hlines : joinPhysicalLines lines = before ++ edit.expected ++
        (joinPhysicalLines lines).drop (before ++ edit.expected).length := by
      conv => lhs; rw [← List.take_append_drop (before ++ edit.expected).length
        (joinPhysicalLines lines), ← hfront]
    rw [hnew]
    refine ⟨?_, ?_⟩
    · rw [hlines, List.append_assoc, List.append_assoc, List.take_append_of_le_length hn',
        List.take_append_of_le_length hn']
    · have hbase : n + (before.drop n).length = byteOffset lines first := by
        rw [List.length_drop, ← hlength]
        omega
      have hend : (before ++ edit.expected).length =
          n + (before.drop n).length + edit.expected.length := by
        rw [List.length_append, hbase, hlength]
      conv => arg 2; rw [hlines, List.append_assoc, List.drop_append_of_le_length hn']
      rw [List.append_assoc, List.drop_append_of_le_length hn', List.map_cons,
        physicalEdit, ← hbase, ← List.append_assoc, ← List.append_assoc]
      exact .edit htoken (hend ▸ hedited)

/-! ## The replacement of an entry -/

/-- The edits stand in the order of the text. -/
theorem EditedTo.sorted {base : Nat} {text : Bytes} (h : EditedTo base text edits result) :
    (∀ edit ∈ edits, base ≤ edit.logicalOffset) ∧
      edits.Pairwise fun a b => a.logicalOffset ≤ b.logicalOffset := by
  induction h with
  | done => simp
  | edit htoken hafter ih =>
    obtain ⟨hbase, hsorted⟩ := ih
    refine ⟨List.forall_mem_cons.mpr ⟨Nat.le_add_right _ _, fun edit hedit => ?_⟩,
      .cons (fun edit hedit => ?_) hsorted⟩
    · have := hbase edit hedit
      omega
    · have := hbase edit hedit
      dsimp only
      omega

/-- The physical edit of an edit of the entry: the same token, where the entry has it
from. -/
structure InFile (lines : List SudoPhysicalLine) (entry : SudoLogicalEntry)
    (edit physical : SudoTokenReplacement) : Prop where
  expected : physical.expected = edit.expected
  replacement : physical.replacement = edit.replacement
  offset : ∃ p, entry.sourcePositions[edit.logicalOffset]? = some (some p) ∧
    physical.logicalOffset = byteOffset lines p

theorem checkEdits_inFile (h : checkEdits entry lines previousEnd edits = .ok checked) :
    List.Forall₂ (InFile lines entry) edits (checked.map (physicalEdit lines)) := by
  induction edits generalizing previousEnd checked with
  | nil =>
    rw [← Except.ok.inj h]
    exact .nil
  | cons edit edits ih =>
    simp only [checkEdits, except_bind_eq_ok] at h
    obtain ⟨first, hfirst, rest, hrest, hok⟩ := h
    rw [← Except.ok.inj hok]
    exact .cons ⟨rfl, rfl, first, (checkEdit_eq_ok hfirst).1, rfl⟩ (ih hrest)

/-- Replacing the tokens of a single entry. -/
theorem replaceSudoLogicalTokens_eq {updated : List SudoPhysicalLine} {text' : Bytes}
    (hentry : assembleSudoLogicalEntries lines = [entry])
    (hedited : EditedTo 0 entry.text edits text')
    (h : replaceSudoLogicalTokens entry edits lines = .ok updated) :
    ∃ l checked, markedEntries lines = [l] ∧ Tokens lines l checked text' ∧
      updated = removeTokens checked lines ∧
      List.Forall₂ (InFile lines entry) edits (checked.map (physicalEdit lines)) := by
  obtain ⟨l, hl, hmarks⟩ : ∃ l, markedEntries lines = [l] ∧ Marks entry l := by
    have hall := marks_assemble lines
    rw [hentry] at hall
    obtain ⟨l, rest, hmarks, hrest, hl⟩ := List.forall₂_cons_left_iff.mp hall
    obtain rfl := List.forall₂_nil_left_iff.mp hrest
    exact ⟨l, hl, hmarks⟩
  have hsort : edits.insertionSort (fun a b => a.logicalOffset ≤ b.logicalOffset) = edits :=
    hedited.sorted.2.insertionSort_eq
  unfold replaceSudoLogicalTokens at h
  rw [hsort] at h
  split_ifs at h
  rw [except_bind_eq_ok] at h
  obtain ⟨checked, hchecked, hupdated⟩ := h
  have hmarks' : Marks entry ([] ++ l) := hmarks
  have htokens := tokens_of_checkEdits hmarks' rfl hmarks.text hedited hchecked
  refine ⟨l, checked, hl, htokens, ?_, checkEdits_inFile hchecked⟩
  rw [← Except.ok.inj hupdated]
  exact htokens.foldr_replaceToken (ordered_markedEntries lines l (by simp [hl]))

/-- The rule of the replacement is the rule of the original with authentication on. -/
structure Authenticates (rule rule' : AuthenticationRule) : Prop where
  kind : rule'.kind = rule.kind
  users : rule'.users = rule.users
  hosts : rule'.hosts = rule.hosts
  scopedDefaults : rule'.scopedDefaults = rule.scopedDefaults
  commands : rule'.commands.map (fun command => (command.runas, command.commandAndArguments)) =
    rule.commands.map fun command => (command.runas, command.commandAndArguments)
  tags : rule'.commands.map (·.tags) = rule.commands.map fun command => command.tags.map retag
  required : ∀ command ∈ rule'.commands, command.passwordRequired = true
  finished : rule'.edits = []

theorem authenticates_authenticated (rule : AuthenticationRule) :
    Authenticates rule rule.authenticated := by
  constructor <;> simp [AuthenticationRule.authenticated]

/-- What a successful replacement has done. -/
theorem authenticationReplacement_eq_ok {original replacement : Bytes} {scopedDefaults : Bool}
    (h : authenticationReplacement original = .ok (replacement, scopedDefaults)) :
    ∃ entry rule text' l checked,
      assembleSudoLogicalEntries (splitPhysicalLines original) = [entry] ∧
      parseAuthenticationRule entry.text = .ok rule ∧
      parseAuthenticationRule text' = .ok rule.authenticated ∧
      (rule.kind = .Defaults → ∃ scope options, defaultsOf entry.text = .ok (scope, options) ∧
        defaultsOf text' = .ok (scope, options.map reauthenticate)) ∧
      markedEntries (splitPhysicalLines original) = [l] ∧
      Tokens (splitPhysicalLines original) l checked text' ∧
      replacement = joinPhysicalLines (removeTokens checked (splitPhysicalLines original)) ∧
      List.Forall₂ (InFile (splitPhysicalLines original) entry) rule.edits
        (checked.map (physicalEdit (splitPhysicalLines original))) := by
  unfold authenticationReplacement at h
  dsimp only at h
  split at h
  · rename_i entry hentry
    rw [except_bind_eq_ok] at h
    obtain ⟨rule, hrule, h⟩ := h
    split_ifs at h
    rw [except_bind_eq_ok] at h
    obtain ⟨updated, hupdated, h⟩ := h
    obtain ⟨rfl, -⟩ := Prod.mk.inj (Except.ok.inj h)
    obtain ⟨text', hedited, hread, hoptions⟩ := parseAuthenticationRule_edited hrule
    obtain ⟨l, checked, hl, htokens, rfl, hinFile⟩ :=
      replaceSudoLogicalTokens_eq hentry hedited hupdated
    exact ⟨entry, rule, text', l, checked, hentry, hrule, hread, hoptions, hl, htokens,
      rfl, hinFile⟩
  · cases h

/-- The replacement is one entry, read as the rule of the original with authentication on;
apart from the replaced tokens the bytes are those of the original. -/
theorem authenticationReplacement_authenticates {original replacement : Bytes}
    {scopedDefaults : Bool}
    (h : authenticationReplacement original = .ok (replacement, scopedDefaults)) :
    ∃ entry entry' rule rule',
      assembleSudoLogicalEntries (splitPhysicalLines original) = [entry] ∧
      assembleSudoLogicalEntries (splitPhysicalLines replacement) = [entry'] ∧
      parseAuthenticationRule entry.text = .ok rule ∧
      parseAuthenticationRule entry'.text = .ok rule' ∧
      Authenticates rule rule' ∧
      (rule.kind = .Defaults → ∃ scope options, defaultsOf entry.text = .ok (scope, options) ∧
        defaultsOf entry'.text = .ok (scope, options.map reauthenticate)) ∧
      ∃ edits, EditedTo 0 original edits replacement ∧
        List.Forall₂ (InFile (splitPhysicalLines original) entry) rule.edits edits := by
  obtain ⟨entry, rule, text', l, checked, hentry, hrule, hread, hoptions, hl, htokens, rfl,
    hinFile⟩ := authenticationReplacement_eq_ok h
  have hsplit := split_join (htokens.shaped (shaped_split original))
  obtain ⟨entry', hentry', htext⟩ := List.map_eq_singleton_iff.mp (htokens.assemble hl)
  have hordered : Marked.Ordered l :=
    ordered_markedEntries (splitPhysicalLines original) l (by simp [hl])
  obtain ⟨-, hbytes⟩ := htokens.editedTo hordered 0 fun _ _ => Nat.zero_le _
  rw [List.drop_zero, List.drop_zero, join_split] at hbytes
  refine ⟨entry, entry', rule, rule.authenticated, hentry, ?_, hrule, ?_,
    authenticates_authenticated rule, ?_, _, hbytes, hinFile⟩
  · rw [hsplit, hentry']
  · rw [htext, hread]
  · rw [htext]
    exact hoptions

theorem authenticationReplacement_authenticates_continued :
    authenticationReplacement (lit "u ALL=NOPASSWD: /bin/a, \\\n  NOPASSWD: /bin/b\r\n") =
      .ok (lit "u ALL=PASSWD: /bin/a, \\\n  PASSWD: /bin/b\r\n", false) ∧
    ∃ entry' rule', assembleSudoLogicalEntries (splitPhysicalLines
        (lit "u ALL=PASSWD: /bin/a, \\\n  PASSWD: /bin/b\r\n")) = [entry'] ∧
      parseAuthenticationRule entry'.text = .ok rule' ∧ rule'.edits = [] ∧
      ∀ command ∈ rule'.commands, command.passwordRequired = true := by
  have hsample : authenticationReplacement
      (lit "u ALL=NOPASSWD: /bin/a, \\\n  NOPASSWD: /bin/b\r\n") =
        .ok (lit "u ALL=PASSWD: /bin/a, \\\n  PASSWD: /bin/b\r\n", false) := by decide +kernel
  obtain ⟨entry, entry', rule, rule', -, hentry', -, hrule', hauthenticates, -⟩ :=
    authenticationReplacement_authenticates hsample
  exact ⟨hsample, entry', rule', hentry', hrule', hauthenticates.finished, hauthenticates.required⟩

end Fic.Sudo
