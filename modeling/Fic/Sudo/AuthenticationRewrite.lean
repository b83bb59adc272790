import Fic.Sudo.AuthenticationScan

/-!
# Rewriting authentication tokens

Reading an entry in which the named tokens are replaced gives the same rule with
every token switched and nothing left to replace
(`parseAuthenticationRule_edited`).  There is one lemma for each reader of the
grammar, and it says the same of each: what the reader gives for a piece it gives
for the edited piece, except for the tokens and the edits.
-/

namespace Fic.Sudo

open Fic.Lib

variable {attributes : Attributes} {scopedDefaults : Bool} {b back body piece rest' : Bytes}
  {inherited : Inherited} {pieces : List Bytes}
  {rule : AuthenticationRule} {name rest text word : Bytes}
  {edits : List SudoTokenReplacement} {offset : Nat} {c : UInt8}

/-! ## `Defaults` -/

theorem trim_decompose (text : Bytes) :
    ∃ front back, (∀ c ∈ front, isSpace c = true) ∧ (∀ c ∈ back, isSpace c = true) ∧
      text = front ++ trimLogicalCopy text ++ back ∧ front.length = trimStart text := by
  refine ⟨text.takeWhile isSpace, (text.dropWhile isSpace).rtakeWhile isSpace,
    fun c hc => List.mem_takeWhile_imp hc, fun c hc => List.mem_rtakeWhile_imp hc, ?_, rfl⟩
  unfold trimLogicalCopy
  rw [List.append_assoc, List.rdropWhile_append_rtakeWhile, List.takeWhile_append_dropWhile]

theorem trim_surrounded {front : Bytes} (hfront : ∀ c ∈ front, isSpace c = true)
    (hback : ∀ c ∈ back, isSpace c = true) (hstart : NoBlankStart text)
    (hend : text.getLast?.any isSpace = false) (hne : text ≠ []) :
    trimLogicalCopy (front ++ text ++ back) = text := by
  unfold trimLogicalCopy
  have hdrop : (front ++ text ++ back).dropWhile isSpace = text ++ back := by
    rw [List.append_assoc]
    refine skipBlanks_append hfront ?_
    obtain ⟨c, text, rfl⟩ := List.exists_cons_of_ne_nil hne
    exact hstart
  rw [hdrop, rdropWhile_append_of_pos hback, List.rdropWhile_eq_self_iff]
  intro hne
  rw [List.getLast?_eq_some_getLast hne] at hend
  simpa using hend

def reauthenticate (option : Bytes) : Bytes :=
  if option = noAuthenticate then authenticate else option

theorem readOption_edited (h : readOption offset piece = .ok edits) :
    ∃ piece', EditedTo offset piece edits piece' ∧ Retags piece piece' ∧
      trimLogicalCopy piece' = reauthenticate (trimLogicalCopy piece) ∧
      ∀ offset', readOption offset' piece' = .ok [] := by
  unfold readOption at h
  dsimp only at h
  split_ifs at h with hoption hword
  · obtain ⟨front, back, hfront, hback, hpiece, hlength⟩ := trim_decompose piece
    have htrim : trimLogicalCopy (front ++ authenticate ++ back) = authenticate :=
      trim_surrounded hfront hback rfl (by decide) (by decide)
    refine ⟨front ++ authenticate ++ back, ?_, ?_, ?_, ?_⟩
    · rw [← Except.ok.inj h, ← hlength]
      conv => arg 2; rw [hpiece, hoption]
      rw [hoption]
      exact .edit .option (.done _ _)
    · rw [hpiece, hoption, List.append_assoc, List.append_assoc]
      exact .keepAll front (.token .option (.refl back))
    · rw [htrim, reauthenticate, if_pos hoption]
    · intro offset'
      unfold readOption
      rw [htrim, if_neg (by decide), if_neg (by simp)]
  · have hsame : reauthenticate (trimLogicalCopy piece) = trimLogicalCopy piece := if_neg hoption
    exact ⟨piece, Except.ok.inj h ▸ .done _ _, .refl _, hsame.symm, fun offset' => by
      unfold readOption
      dsimp only
      rw [if_neg hoption, if_neg hword]⟩

theorem readOptions_edited (h : readOptions offset pieces = .ok edits) :
    ∃ pieces', PiecesEdited offset pieces edits pieces' ∧
      pieces'.map trimLogicalCopy = (pieces.map trimLogicalCopy).map reauthenticate ∧
      ∀ offset', readOptions offset' pieces' = .ok [] := by
  induction pieces generalizing offset edits with
  | nil => exact ⟨[], Except.ok.inj h ▸ .nil offset, rfl, fun _ => rfl⟩
  | cons piece pieces ih =>
    simp only [readOptions, except_bind_eq_ok] at h
    obtain ⟨first, hfirst, rest, hrest, hedits⟩ := h
    obtain ⟨piece', hedited, hretags, hoption, hread⟩ := readOption_edited hfirst
    obtain ⟨pieces', hpieces, hoptions, hreads⟩ := ih hrest
    rw [← Except.ok.inj hedits]
    refine ⟨piece' :: pieces', .cons hedited hretags hpieces, ?_, fun offset' => ?_⟩
    · rw [List.map_cons, List.map_cons, List.map_cons, hoption, hoptions]
    · simp [readOptions, hread, hreads, bind, Except.bind]

theorem Retags.nil_left (h : Retags [] b) : b = [] := by
  generalize ha : ([] : Bytes) = a at h
  cases h with
  | nil => rfl
  | keep => cases ha
  | token htoken _ =>
    obtain ⟨old, new, last, rfl, rfl, -, -⟩ := htoken.plain
    simp at ha

/-- A byte belongs to the target of a scope, or is the blank behind it. -/
theorem scopeTarget_cons (quoted escaped : Bool) (c : UInt8) :
    (∃ quoted' escaped', ∀ rest, scopeTarget quoted escaped (c :: rest) =
      c :: scopeTarget quoted' escaped' rest) ∨
    (isSpace c = true ∧ ∀ rest, scopeTarget quoted escaped (c :: rest) = []) := by
  by_cases hescaped : escaped = true
  · exact .inl ⟨quoted, false, fun rest => by simp [scopeTarget, hescaped]⟩
  · by_cases hbackslash : c = backslash
    · exact .inl ⟨quoted, true, fun rest => by simp [scopeTarget, hescaped, hbackslash]⟩
    · by_cases hstop : (!(if c = quote then !quoted else quoted) && isSpace c) = true
      · refine .inr ⟨(Bool.and_eq_true_iff.mp hstop).2, fun rest => ?_⟩
        simp only [scopeTarget, hescaped, hbackslash, hstop, if_true, if_false, Bool.false_eq_true]
      · refine .inl ⟨if c = quote then !quoted else quoted, false, fun rest => ?_⟩
        simp only [scopeTarget, hescaped, hbackslash, hstop, if_false, Bool.false_eq_true]

/-- The target of a scope ends at a blank or with the text, and does not depend on
what stands behind the blank. -/
theorem scopeTarget_spec (text : Bytes) : ∀ quoted escaped,
    ∃ rest, text = scopeTarget quoted escaped text ++ rest ∧
      (rest = [] ∨ rest.head?.any isSpace = true) ∧
      ∀ rest', rest'.head? = rest.head? →
        scopeTarget quoted escaped (scopeTarget quoted escaped text ++ rest') =
          scopeTarget quoted escaped text := by
  induction text with
  | nil =>
    intro quoted escaped
    refine ⟨[], rfl, .inl rfl, fun rest' hrest => ?_⟩
    obtain rfl : rest' = [] := by simpa using hrest
    rfl
  | cons c text ih =>
    intro quoted escaped
    rcases scopeTarget_cons quoted escaped c with ⟨quoted', escaped', hstep⟩ | ⟨hspace, hstop⟩
    · obtain ⟨rest, htext, hrest, hsame⟩ := ih quoted' escaped'
      refine ⟨rest, ?_, hrest, fun rest' hhead => ?_⟩
      · rw [hstep, List.cons_append, ← htext]
      · rw [hstep text, List.cons_append, hstep, hsame rest' hhead]
    · refine ⟨c :: text, by rw [hstop]; rfl, .inr (by simpa using hspace), fun rest' hhead => ?_⟩
      rw [hstop text, List.nil_append]
      cases rest' with
      | nil => simp at hhead
      | cons d rest' =>
        obtain rfl : d = c := by simpa using hhead
        exact hstop rest'

/-- How many bytes behind the word the options start. -/
def scopeLength (scopedDefaults : Bool) (text : Bytes) : Nat :=
  if scopedDefaults then (scopeTarget false false (text.drop 1)).length + 1 else 0

theorem parseDefaults_eq (offset : Nat) (scopedDefaults : Bool) (text : Bytes) :
    parseDefaults offset scopedDefaults text = (do
      let cut ← delimiters comma {} (skipBlanks (text.drop (scopeLength scopedDefaults text)))
      let edits ← readOptions (offset + scopeLength scopedDefaults text +
        trimStart (text.drop (scopeLength scopedDefaults text))) cut.1
      .ok { kind := .Defaults, scopedDefaults, edits }) :=
  rfl

/-- What stands behind the word `Defaults`: the scope, and the options without blanks
around them. -/
def readDefaults (scopedDefaults : Bool) (text : Bytes) : Except Bytes (Bytes × List Bytes) := do
  let scope := scopeLength scopedDefaults text
  let cut ← delimiters comma {} (skipBlanks (text.drop scope))
  .ok (text.take scope, cut.1.map trimLogicalCopy)

/-- The options can be rewritten without changing where they start. -/
theorem scopeLength_spec
    (hscope : if scopedDefaults then text ≠ [] else text = [] ∨ text.head?.any isSpace = true) :
    ∃ scope rest, text = scope ++ rest ∧ scope.length = scopeLength scopedDefaults text ∧
      (rest = [] ∨ rest.head?.any isSpace = true) ∧
      ∀ rest', rest'.head? = rest.head? →
        scopeLength scopedDefaults (scope ++ rest') = scope.length ∧
          (scope ++ rest').head? = text.head? := by
  cases scopedDefaults with
  | false => exact ⟨[], text, rfl, rfl, hscope, fun rest' hhead => ⟨rfl, hhead⟩⟩
  | true =>
    obtain ⟨c, text, rfl⟩ := List.exists_cons_of_ne_nil hscope
    obtain ⟨rest, htext, hrest, hsame⟩ := scopeTarget_spec text false false
    refine ⟨c :: scopeTarget false false text, rest, ?_, rfl, hrest, fun rest' hhead => ⟨?_, rfl⟩⟩
    · rw [List.cons_append, ← htext]
    · simp [scopeLength, hsame rest' hhead]

theorem parseDefaults_edited (h : parseDefaults offset scopedDefaults text = .ok rule)
    (hscope : if scopedDefaults then text ≠ [] else text = [] ∨ text.head?.any isSpace = true) :
    ∃ text', EditedTo offset text rule.edits text' ∧ text'.head? = text.head? ∧
      (∃ scope options, readDefaults scopedDefaults text = .ok (scope, options) ∧
        readDefaults scopedDefaults text' = .ok (scope, options.map reauthenticate)) ∧
      ∀ offset', parseDefaults offset' scopedDefaults text' = .ok { rule with edits := [] } := by
  obtain ⟨scope, rest, rfl, hlength, hrest, hsame⟩ := scopeLength_spec hscope
  rw [parseDefaults_eq, ← hlength, List.drop_left, except_bind_eq_ok] at h
  obtain ⟨⟨pieces, comment⟩, hscan, h⟩ := h
  rw [except_bind_eq_ok] at h
  obtain ⟨edits, hedits, hrule⟩ := h
  obtain ⟨pieces', hpieces, hoptions, hread⟩ := readOptions_edited hedits
  have hcomma : IsDelimiter comma := .inl rfl
  have hcut := cut_of_delimiters hcomma hscan
  obtain ⟨blanks, hblanks, hsplit, hcount⟩ := blanks_skipBlanks rest
  have hbody := hcut.text_eq
  have hretags : Retags (skipBlanks rest) (joinPieces comma comment pieces') := by
    rw [hbody]
    exact .join hpieces.retags
  -- Nothing stands in front of the options, or a blank does.
  have hhead : (blanks ++ joinPieces comma comment pieces').head? = rest.head? := by
    cases hb : blanks with
    | cons c blanks =>
      rw [hb] at hsplit
      rw [hsplit]
      rfl
    | nil =>
      have hnil : rest = [] := by
        rcases hrest with hnil | hblank
        · exact hnil
        · have hstart := noBlankStart_skipBlanks rest
          rw [hb, List.nil_append] at hsplit
          rw [hsplit, hstart] at hblank
          cases hblank
      rw [hnil] at hretags ⊢
      exact congrArg List.head? hretags.nil_left
  obtain ⟨hscopeLength, hheads⟩ := hsame _ hhead
  have hscan' : delimiters comma {} (skipBlanks (blanks ++ joinPieces comma comment pieces')) =
      .ok (pieces', comment) := by
    rw [skipBlanks_append hblanks (hretags.noBlankStart (noBlankStart_skipBlanks rest)),
      delimiters_of_cut hcomma (hcut.retags hcomma hpieces.retags)]
  refine ⟨scope ++ (blanks ++ joinPieces comma comment pieces'), ?_, hheads,
    ⟨scope, pieces.map trimLogicalCopy, ?_, ?_⟩, fun offset' => ?_⟩
  · rw [← Except.ok.inj hrule]
    have hedited : EditedTo _ (joinPieces comma comment pieces) edits
        (joinPieces comma comment pieces') := hpieces.join
    rw [← hbody, ← hcount] at hedited
    conv => arg 2; rw [hsplit]
    exact EditedTo.keep (EditedTo.keep hedited)
  · rw [readDefaults, ← hlength, List.drop_left, hscan, List.take_left]
    rfl
  · rw [readDefaults, hscopeLength, List.drop_left, hscan', List.take_left, ← hoptions]
    rfl
  · rw [parseDefaults_eq, hscopeLength, List.drop_left, hscan']
    simp only [bind, Except.bind, hread]
    rw [← Except.ok.inj hrule]

/-! ## `User_Spec` -/

def retag (tag : Bytes) : Bytes := if tag = noPasswd then passwd else tag

theorem retag_known {tag : Bytes} (h : tag ∈ knownTags) :
    retag tag ∈ knownTags ∧ retag tag ≠ noPasswd ∧ retag tag ≠ [] ∧
      (retag tag).all isNameByte = true := by
  revert tag
  decide

variable {behind : Bytes}

theorem takeWhile_name (hname : name.all isNameByte = true)
    (hbehind : behind.head?.any isNameByte = false) :
    (name ++ behind).takeWhile isNameByte = name ∧
      (name ++ behind).dropWhile isNameByte = behind := by
  have hall : ∀ c ∈ name, isNameByte c = true := List.all_eq_true.mp hname
  rw [List.takeWhile_append_of_pos hall, List.dropWhile_append_of_pos hall]
  cases behind with
  | nil => simp
  | cons c behind =>
    have hc : isNameByte c = false := by simpa using hbehind
    simp [hc]

theorem isNameByte_of_space (h : isSpace c = true) : isNameByte c = false := by
  revert c
  decide +kernel

variable {blanks : Bytes}

theorem noName_blanks (hblanks : ∀ c ∈ blanks, isSpace c = true)
    (hc : isNameByte c = false) (text : Bytes) :
    (blanks ++ c :: text).head?.any isNameByte = false := by
  cases blanks with
  | nil => simpa using hc
  | cons d blanks => simpa using isNameByte_of_space (hblanks d (by simp))

theorem skipQuoted_spec (text : Bytes) : ∀ escaped rest, skipQuoted escaped text = some rest →
    ∃ value, text = value ++ rest ∧ ∀ rest', skipQuoted escaped (value ++ rest') = some rest' := by
  induction text with
  | nil =>
    intro escaped rest h
    cases h
  | cons c text ih =>
    intro escaped rest h
    rw [skipQuoted] at h
    split_ifs at h with hescaped hbackslash hquote
    · obtain ⟨value, rfl, hsame⟩ := ih _ _ h
      exact ⟨c :: value, rfl, fun rest' => by simp [skipQuoted, hescaped, hsame]⟩
    · obtain ⟨value, rfl, hsame⟩ := ih _ _ h
      exact ⟨c :: value, rfl, fun rest' => by simp [skipQuoted, hescaped, hbackslash, hsame]⟩
    · obtain rfl := Option.some.inj h
      exact ⟨[c], rfl, fun rest' => by
        rw [List.singleton_append, skipQuoted, if_neg hescaped, if_neg hbackslash, if_pos hquote]⟩
    · obtain ⟨value, rfl, hsame⟩ := ih _ _ h
      exact ⟨c :: value, rfl,
        fun rest' => by simp [skipQuoted, hescaped, hbackslash, hquote, hsame]⟩

theorem skipOptionValue_spec (hstart : NoBlankStart text) (h : skipOptionValue text = .ok rest) :
    NoBlankStart rest ∧ ∃ c value, text = c :: (value ++ rest) ∧
      ∀ rest', NoBlankStart rest' → (rest = [] → rest' = []) →
        skipOptionValue (c :: (value ++ rest')) = .ok rest' := by
  cases text with
  | nil => cases h
  | cons c text =>
    rw [skipOptionValue] at h
    by_cases hquote : c = quote
    · rw [if_pos hquote] at h
      cases hskip : skipQuoted false text with
      | none => simp [hskip] at h
      | some behind =>
        simp only [hskip, Except.ok.injEq] at h
        obtain ⟨value, rfl, hsame⟩ := skipQuoted_spec text false behind hskip
        obtain ⟨blanks, hblanks, hsplit, -⟩ := blanks_skipBlanks behind
        rw [h] at hsplit
        refine ⟨h ▸ noBlankStart_skipBlanks behind, c, value ++ blanks, by rw [hsplit]; simp,
          fun rest' hrest' _ => ?_⟩
        rw [skipOptionValue, if_pos hquote, List.append_assoc, hsame]
        simp only [skipBlanks_append hblanks hrest']
    · have hc : isSpace c = false := by simpa [NoBlankStart] using hstart
      have hdrop : ∀ t : Bytes, (c :: t).dropWhile (fun c => !isSpace c) =
          t.dropWhile fun c => !isSpace c := fun t => List.dropWhile_cons_of_pos (by simp [hc])
      rw [if_neg hquote, Except.ok.injEq, hdrop] at h
      obtain ⟨blanks, hblanks, hsplit, -⟩ := blanks_skipBlanks (text.dropWhile fun c => !isSpace c)
      rw [h] at hsplit
      have hword : ∀ d ∈ text.takeWhile (fun c => !isSpace c), (!isSpace d) = true :=
        fun d hd => by simpa using List.mem_takeWhile_imp hd
      refine ⟨h ▸ noBlankStart_skipBlanks _, c, text.takeWhile (fun c => !isSpace c) ++ blanks, ?_,
        fun rest' hrest' hnil => ?_⟩
      · rw [List.append_assoc, ← hsplit, List.takeWhile_append_dropWhile]
      · rw [skipOptionValue, if_neg hquote, hdrop, List.append_assoc,
          List.dropWhile_append_of_pos hword]
        cases hb : blanks with
        | cons d blanks =>
          have hd : isSpace d = true := hblanks d (by simp [hb])
          rw [List.cons_append, List.dropWhile_cons_of_neg (by simp [hd]), ← List.cons_append, ← hb,
            skipBlanks_append hblanks hrest']
        | nil =>
          -- Without a blank the value reaches the end of the text.
          have hend : rest = [] := by
            rw [hb, List.nil_append] at hsplit
            cases hr : rest with
            | nil => rfl
            | cons d rest =>
              have hhead := List.head?_dropWhile_not (fun c => !isSpace c) text
              have hblank := noBlankStart_skipBlanks (text.dropWhile fun c => !isSpace c)
              rw [h, hr] at hblank
              rw [hsplit, hr] at hhead
              simp [NoBlankStart] at hblank hhead
              rw [hblank] at hhead
              cases hhead
          rw [hnil hend]
          rfl

theorem Retags.nil_of_nil {a : Bytes} (h : Retags a b) (ha : a = []) : b = [] := by
  subst ha
  exact h.nil_left

def requiredAfter (name : Bytes) (required : Bool) : Bool :=
  if name = noPasswd then false else if name = passwd then true else required

def tagEdits (offset : Nat) (name : Bytes) : List SudoTokenReplacement :=
  if name = noPasswd then [{ logicalOffset := offset, expected := name, replacement := passwd }]
  else []

structure StartsTag (text name blanks behind rest : Bytes) : Prop where
  text_eq : text = name ++ (blanks ++ colon :: (behind ++ rest))
  known : name ∈ knownTags
  blanks : ∀ c ∈ blanks, isSpace c = true
  behind : ∀ c ∈ behind, isSpace c = true
  start : NoBlankStart rest

theorem knownTags_name (h : name ∈ knownTags) : name.all isNameByte = true ∧ name ≠ [] := by
  revert name
  decide

theorem knownOptions_name (h : name ∈ knownOptions) : name.all isNameByte = true ∧ name ≠ [] := by
  revert name
  decide

theorem readAttributes_tag (h : StartsTag text name blanks behind rest)
    (fuel offset : Nat) (required : Bool) :
    readAttributes (fuel + 1) offset required text = (do
      let more ← readAttributes fuel (offset + (text.length - rest.length))
        (requiredAfter name required) rest
      .ok { more with
        tags := name :: more.tags
        edits := tagEdits offset name ++ more.edits }) := by
  obtain ⟨hname, hne⟩ := knownTags_name h.known
  have hsplit := takeWhile_name hname
    (noName_blanks h.blanks (show isNameByte colon = false by decide) (behind ++ rest))
  have hskip : skipBlanks (blanks ++ colon :: (behind ++ rest)) = colon :: (behind ++ rest) :=
    skipBlanks_append h.blanks rfl
  have hrest := skipBlanks_append h.behind h.start
  rw [readAttributes]
  simp only [h.text_eq, hsplit, hskip, hrest]
  rw [if_pos (by simpa using hne), if_neg (by simpa using h.known)]
  rfl

structure StartsOption (text name blanks behind value rest : Bytes) (c : UInt8) : Prop where
  text_eq : text = name ++ (blanks ++ equalsSign :: (behind ++ c :: (value ++ rest)))
  known : name ∈ knownOptions
  blanks : ∀ c ∈ blanks, isSpace c = true
  behind : ∀ c ∈ behind, isSpace c = true
  value_start : isSpace c = false
  value : skipOptionValue (c :: (value ++ rest)) = .ok rest

theorem readAttributes_option {value : Bytes}
    (h : StartsOption text name blanks behind value rest c) (fuel offset : Nat) (required : Bool) :
    readAttributes (fuel + 1) offset required text =
      readAttributes fuel (offset + (text.length - rest.length)) required rest := by
  obtain ⟨hname, hne⟩ := knownOptions_name h.known
  have hsplit := takeWhile_name hname
    (noName_blanks h.blanks (show isNameByte equalsSign = false by decide)
      (behind ++ c :: (value ++ rest)))
  have hskip : skipBlanks (blanks ++ equalsSign :: (behind ++ c :: (value ++ rest))) =
      equalsSign :: (behind ++ c :: (value ++ rest)) := skipBlanks_append h.blanks rfl
  have hvalue : skipBlanks (behind ++ c :: (value ++ rest)) = c :: (value ++ rest) :=
    skipBlanks_append h.behind (by simpa [NoBlankStart] using h.value_start)
  rw [readAttributes]
  simp only [h.text_eq, hsplit, hskip, hvalue]
  have hcolon : equalsSign ≠ colon := by decide
  rw [if_neg (by simp [hcolon]), if_pos (by simpa using hne), if_neg (by simpa using h.known),
    h.value]
  rfl

theorem readAttributes_cases {fuel : Nat} {required : Bool}
    (h : readAttributes (fuel + 1) offset required text = .ok attributes) :
    (∀ fuel offset required, readAttributes (fuel + 1) offset required text =
        .ok { passwordRequired := required, rest := text }) ∨
      (∃ name blanks behind rest, StartsTag text name blanks behind rest) ∨
      ∃ name blanks behind value rest c, StartsOption text name blanks behind value rest c := by
  obtain ⟨blanks, hblanks, hsplit, -⟩ := blanks_skipBlanks (text.dropWhile isNameByte)
  have htext : text = text.takeWhile isNameByte ++
      (blanks ++ skipBlanks (text.dropWhile isNameByte)) := by
    rw [← hsplit, List.takeWhile_append_dropWhile]
  rw [readAttributes] at h
  cases hnext : skipBlanks (text.dropWhile isNameByte) with
  | nil => exact .inl fun fuel offset required => by simp [readAttributes, hnext]
  | cons c value =>
    rw [hnext] at h htext
    dsimp only at h
    have hstart := noBlankStart_skipBlanks value
    obtain ⟨behind, hbehind, hvalue, -⟩ := blanks_skipBlanks value
    by_cases htag : (c = colon && !(text.takeWhile isNameByte).isEmpty) = true
    · have hknown : text.takeWhile isNameByte ∈ knownTags := by
        by_contra hunknown
        rw [if_pos htag, if_pos hunknown] at h
        cases h
      rw [Bool.and_eq_true, decide_eq_true_eq] at htag
      refine .inr (.inl ⟨_, blanks, behind, skipBlanks value, ?_, hknown, hblanks, hbehind, hstart⟩)
      rw [← hvalue, ← htag.1]
      exact htext
    rw [if_neg htag] at h
    split_ifs at h with hoption hknown
    · rw [Bool.and_eq_true, decide_eq_true_eq] at hoption
      obtain ⟨rest, hrest, -⟩ := except_bind_eq_ok.mp h
      obtain ⟨-, d, inner, hinner, -⟩ := skipOptionValue_spec hstart hrest
      rw [hinner] at hvalue hrest hstart
      refine .inr (.inr ⟨_, blanks, behind, inner, rest, d, ?_, hknown, hblanks, hbehind,
        by simpa [NoBlankStart] using hstart, hrest⟩)
      rw [← hvalue, ← hoption.1]
      exact htext
    · refine .inl fun fuel offset required => ?_
      rw [readAttributes, hnext]
      dsimp only
      rw [if_neg htag, if_neg hoption]

structure AttributesEdited (offset : Nat) (text : Bytes) (attributes : Attributes) (text' : Bytes) :
    Prop where
  edited : EditedTo offset text attributes.edits text'
  retags : Retags text text'
  reads : ∀ fuel offset', text'.length < fuel → readAttributes fuel offset' true text' =
    .ok { tags := attributes.tags.map retag, edits := [], passwordRequired := true
          rest := attributes.rest }

theorem requiredAfter_retag (h : name ∈ knownTags) :
    requiredAfter (retag name) true = true ∧ ∀ offset, tagEdits offset (retag name) = [] := by
  have hne := (retag_known h).2.1
  constructor
  · simp [requiredAfter, hne]
  · simp [tagEdits, hne]

theorem retag_edited (offset : Nat) (name : Bytes) :
    EditedTo offset name (tagEdits offset name) (retag name) ∧ Retags name (retag name) := by
  unfold tagEdits retag
  split_ifs with htag
  · subst htag
    refine ⟨?_, ?_⟩
    · simpa using @EditedTo.edit offset [] noPasswd passwd [] [] [] .tag (.done _ _)
    · simpa using Retags.token .tag .nil
  · exact ⟨.done _ _, .refl _⟩

theorem AttributesEdited.of_tag {more : Attributes}
    (h : StartsTag text name blanks behind rest)
    (hrest : AttributesEdited (offset + (text.length - rest.length)) rest more rest') :
    AttributesEdited offset text
      { more with tags := name :: more.tags, edits := tagEdits offset name ++ more.edits }
      (retag name ++ (blanks ++ colon :: (behind ++ rest'))) := by
  obtain ⟨hedited, hretags⟩ := retag_edited offset name
  have hkept : EditedTo (offset + name.length) (blanks ++ colon :: (behind ++ rest)) more.edits
      (blanks ++ colon :: (behind ++ rest')) := by
    have hoffset : offset + (text.length - rest.length) =
        offset + name.length + (blanks ++ colon :: behind).length := by
      rw [h.text_eq]
      simp only [List.length_append, List.length_cons]
      omega
    have hmore := hrest.edited
    rw [hoffset] at hmore
    simpa using EditedTo.keep hmore
  refine ⟨?_, ?_, fun fuel offset' hfuel => ?_⟩
  · rw [h.text_eq]
    exact hedited.append hkept
  · rw [h.text_eq]
    exact hretags.append (.keepAll blanks (.keep colon (.keepAll behind hrest.retags)))
  · obtain ⟨fuel, rfl⟩ : ∃ n, fuel = n + 1 := ⟨fuel - 1, by omega⟩
    have hstarts : StartsTag (retag name ++ (blanks ++ colon :: (behind ++ rest'))) (retag name)
        blanks behind rest' :=
      ⟨rfl, (retag_known h.known).1, h.blanks, h.behind, hrest.retags.noBlankStart h.start⟩
    obtain ⟨hrequired, hedits⟩ := requiredAfter_retag h.known
    rw [readAttributes_tag hstarts, hrequired, hrest.reads fuel _ (by
      simp only [List.length_append, List.length_cons] at hfuel
      omega)]
    simp [bind, Except.bind, hedits]

theorem AttributesEdited.of_option {value : Bytes}
    (h : StartsOption text name blanks behind value rest c)
    (hrest : AttributesEdited (offset + (text.length - rest.length)) rest attributes rest') :
    AttributesEdited offset text attributes
      (name ++ (blanks ++ equalsSign :: (behind ++ c :: (value ++ rest')))) := by
  have hvalueStart : NoBlankStart (c :: (value ++ rest)) := by
    simpa [NoBlankStart] using h.value_start
  obtain ⟨hstart, d, inner, hinner, hsame⟩ := skipOptionValue_spec hvalueStart h.value
  obtain ⟨rfl, htail⟩ := List.cons.inj hinner
  obtain rfl := List.append_cancel_right htail
  have htext : ∀ rest : Bytes, name ++ (blanks ++ equalsSign :: (behind ++ c :: (value ++ rest))) =
      (name ++ (blanks ++ equalsSign :: (behind ++ c :: value))) ++ rest := by
    intro rest
    simp
  refine ⟨?_, ?_, fun fuel offset' hfuel => ?_⟩
  · have hoffset : offset + (text.length - rest.length) =
        offset + (name ++ (blanks ++ equalsSign :: (behind ++ c :: value))).length := by
      rw [h.text_eq, htext, List.length_append, Nat.add_sub_cancel]
    have hmore := hrest.edited
    rw [hoffset] at hmore
    rw [h.text_eq, htext, htext]
    exact EditedTo.keep hmore
  · rw [h.text_eq, htext, htext]
    exact .keepAll _ hrest.retags
  · obtain ⟨fuel, rfl⟩ : ∃ n, fuel = n + 1 := ⟨fuel - 1, by omega⟩
    have hstarts : StartsOption
        (name ++ (blanks ++ equalsSign :: (behind ++ c :: (value ++ rest'))))
        name blanks behind value rest' c :=
      ⟨rfl, h.known, h.blanks, h.behind, h.value_start,
        hsame rest' (hrest.retags.noBlankStart hstart) hrest.retags.nil_of_nil⟩
    rw [readAttributes_option hstarts]
    refine hrest.reads fuel _ ?_
    simp only [List.length_append, List.length_cons] at hfuel
    omega

theorem readAttributes_edited (fuel : Nat) : ∀ {offset : Nat} {required : Bool} {text : Bytes}
    {attributes : Attributes}, readAttributes fuel offset required text = .ok attributes →
    text.length < fuel → ∃ text', AttributesEdited offset text attributes text' := by
  induction fuel with
  | zero =>
    intro offset required text attributes _ hfuel
    omega
  | succ fuel ih =>
    intro offset required text attributes h hfuel
    rcases readAttributes_cases h with hdone | ⟨name, blanks, behind, rest, htag⟩ |
      ⟨name, blanks, behind, value, rest, c, hoption⟩
    · rw [hdone] at h
      rw [← Except.ok.inj h]
      refine ⟨text, .done _ _, .refl _, fun fuel' offset' hfuel' => ?_⟩
      obtain ⟨fuel', rfl⟩ : ∃ n, fuel' = n + 1 := ⟨fuel' - 1, by omega⟩
      exact hdone _ _ _
    · rw [readAttributes_tag htag, except_bind_eq_ok] at h
      obtain ⟨more, hmore, hattributes⟩ := h
      obtain ⟨rest', hrest'⟩ := ih hmore (by
        rw [htag.text_eq] at hfuel
        simp only [List.length_append, List.length_cons] at hfuel
        omega)
      rw [← Except.ok.inj hattributes]
      exact ⟨_, hrest'.of_tag htag⟩
    · rw [readAttributes_option hoption] at h
      obtain ⟨rest', hrest'⟩ := ih h (by
        rw [hoption.text_eq] at hfuel
        simp only [List.length_append, List.length_cons] at hfuel
        omega)
      exact ⟨_, hrest'.of_option hoption⟩

theorem readRunas_edited {inherited start runas : Bytes}
    (h : readRunas inherited start = .ok (runas, text)) :
    ∃ before, start = before ++ text ∧ ∀ text', Retags text text' →
      readRunas inherited (before ++ text') = .ok (runas, text') := by
  cases start with
  | nil =>
    obtain ⟨rfl, rfl⟩ := Prod.mk.inj (Except.ok.inj h)
    refine ⟨[], rfl, fun text' hretags => ?_⟩
    rw [hretags.nil_left]
    rfl
  | cons c start =>
    rw [readRunas] at h
    dsimp only at h
    split_ifs at h with hc hbad
    · obtain ⟨rfl, rfl⟩ := Prod.mk.inj (Except.ok.inj h)
      refine ⟨[], rfl, fun text' hretags => ?_⟩
      have hhead : ∃ d rest, text' = d :: rest ∧ d ≠ openParen := by
        have hstart := hretags.head
        cases text' with
        | nil => simp at hstart
        | cons d rest =>
          refine ⟨d, rest, rfl, ?_⟩
          rcases hstart with heq | ⟨-, e, he, hplain⟩
          · obtain rfl : c = d := by simpa using heq
            exact hc
          · obtain rfl : d = e := by simpa using he
            exact isPlain_ne hplain (by simp)
      obtain ⟨d, rest, rfl, hd⟩ := hhead
      rw [List.nil_append, readRunas, if_pos hd]
    · obtain ⟨hrunas, htext⟩ := Prod.mk.inj (Except.ok.inj h)
      simp only [not_or, not_not] at hbad
      obtain ⟨inner, tail, rfl, hinner⟩ : ∃ inner tail, start = inner ++ closeParen :: tail ∧
          closeParen ∉ inner := List.eq_append_cons_of_mem hbad.1
      rw [takeWhile_cut hinner] at hbad hrunas htext
      rw [drop_cut] at htext
      obtain ⟨blanks, hblanks, hsplit, -⟩ := blanks_skipBlanks tail
      rw [htext] at hsplit
      refine ⟨c :: (inner ++ closeParen :: blanks), by rw [hsplit]; simp, fun text' hretags => ?_⟩
      have hstart : NoBlankStart text' :=
        hretags.noBlankStart (htext ▸ noBlankStart_skipBlanks tail)
      rw [List.cons_append, List.append_assoc, List.cons_append, readRunas, if_neg hc,
        takeWhile_cut hinner, if_neg (by simp [hbad.2]), hrunas, drop_cut,
        skipBlanks_append hblanks hstart]

theorem readCommand_edited {next : Inherited} {command : AuthenticationCommand}
    (h : readCommand offset inherited piece = .ok (command, edits, next)) :
    ∃ piece', EditedTo offset piece edits piece' ∧ Retags piece piece' ∧
      ∀ offset', readCommand offset' { inherited with passwordRequired := true } piece' =
        .ok ({ command with tags := command.tags.map retag, passwordRequired := true }, [],
          { next with passwordRequired := true }) := by
  simp only [readCommand, except_bind_eq_ok] at h
  obtain ⟨⟨runas, text⟩, hrunas, attributes, hattributes, ⟨⟩, hcommand, hresult⟩ := h
  obtain ⟨rfl, rfl, rfl⟩ : _ ∧ _ ∧ _ := by simpa using hresult.symm
  obtain ⟨blanks, hblanks, hsplit, -⟩ := blanks_skipBlanks piece
  obtain ⟨before, hbefore, hread⟩ := readRunas_edited hrunas
  obtain ⟨text', htext'⟩ := readAttributes_edited _ hattributes (Nat.lt_succ_self _)
  have hpiece : piece = (blanks ++ before) ++ text := by
    rw [List.append_assoc, ← hbefore]
    exact hsplit
  have hretags : Retags (before ++ text) (before ++ text') := .keepAll before htext'.retags
  refine ⟨(blanks ++ before) ++ text', ?_, ?_, fun offset' => ?_⟩
  · have hedited := htext'.edited
    have hoffset : offset + (piece.length - text.length) = offset + (blanks ++ before).length := by
      rw [hpiece, List.length_append, Nat.add_sub_cancel]
    rw [hoffset] at hedited
    rw [hpiece]
    exact EditedTo.keep hedited
  · rw [hpiece]
    exact .keepAll _ htext'.retags
  · have hstart : NoBlankStart (before ++ text') := by
      refine hretags.noBlankStart ?_
      rw [← hbefore]
      exact noBlankStart_skipBlanks piece
    simp only [readCommand, List.append_assoc, skipBlanks_append hblanks hstart,
      hread text' htext'.retags, bind, Except.bind, htext'.reads _ _ (Nat.lt_succ_self _), hcommand]

theorem readCommands_edited {commands : List AuthenticationCommand}
    (h : readCommands offset inherited pieces = .ok (commands, edits)) :
    ∃ pieces', PiecesEdited offset pieces edits pieces' ∧
      ∀ offset', readCommands offset' { inherited with passwordRequired := true } pieces' =
        .ok (commands.map fun command =>
          { command with tags := command.tags.map retag, passwordRequired := true }, []) := by
  induction pieces generalizing offset inherited commands edits with
  | nil =>
    obtain ⟨rfl, rfl⟩ := Prod.mk.inj (Except.ok.inj h)
    exact ⟨[], .nil offset, fun _ => rfl⟩
  | cons piece pieces ih =>
    simp only [readCommands, except_bind_eq_ok] at h
    obtain ⟨⟨command, first, next⟩, hfirst, ⟨rest, more⟩, hrest, hresult⟩ := h
    obtain ⟨rfl, rfl⟩ := Prod.mk.inj (Except.ok.inj hresult)
    obtain ⟨piece', hedited, hretags, hread⟩ := readCommand_edited hfirst
    obtain ⟨pieces', hpieces, hreads⟩ := ih hrest
    refine ⟨piece' :: pieces', .cons hedited hretags hpieces, fun offset' => ?_⟩
    simp [readCommands, hread, hreads, bind, Except.bind]

/-- The rule with every authentication switched on and nothing left to do. -/
def AuthenticationRule.authenticated (rule : AuthenticationRule) : AuthenticationRule :=
  { rule with
    commands := rule.commands.map fun command =>
      { command with tags := command.tags.map retag, passwordRequired := true }
    edits := [] }

theorem parseUserSpec_kind (h : parseUserSpec offset text = .ok rule) : rule.kind = .UserSpec := by
  rw [parseUserSpec, except_bind_eq_ok] at h
  obtain ⟨⟨pieces, comment⟩, -, h⟩ := h
  dsimp only at h
  split at h
  · simp only [except_bind_eq_ok] at h
    obtain ⟨_, -, _, -, _, -, hrule⟩ := h
    rw [← Except.ok.inj hrule]
  · cases h

theorem parseUserSpec_edited (h : parseUserSpec offset text = .ok rule) :
    ∃ head tail tail', text = head ++ equalsSign :: tail ∧
      EditedTo offset text rule.edits (head ++ equalsSign :: tail') ∧
      ∀ offset', parseUserSpec offset' (head ++ equalsSign :: tail') = .ok rule.authenticated := by
  have hequals : IsDelimiter equalsSign := .inr (.inl rfl)
  have hcomma : IsDelimiter comma := .inl rfl
  rw [parseUserSpec, except_bind_eq_ok] at h
  obtain ⟨⟨pieces, comment⟩, hpieces, h⟩ := h
  have hcut := cut_of_delimiters hequals hpieces
  cases hcut with
  | last hrun hclosed hcomment => cases h
  | @more final _ head tail comment pieces hrun hclosed hrest =>
    obtain ⟨second, pieces, rfl⟩ := List.exists_cons_of_ne_nil hrest.ne_nil
    simp only [except_bind_eq_ok, drop_cut] at h
    obtain ⟨⟨users, hosts⟩, hhead, ⟨specs, remark⟩, hspecs, ⟨commands, edits⟩, hcommands,
        hrule⟩ := h
    obtain ⟨specs', hedited, hread⟩ := readCommands_edited hcommands
    have hcutSpecs := cut_of_delimiters hcomma hspecs
    have hretags : Retags tail (joinPieces comma remark specs') := by
      rw [hcutSpecs.text_eq]
      exact .join hedited.retags
    refine ⟨head, tail, joinPieces comma remark specs', rfl, ?_, fun offset' => ?_⟩
    · rw [← Except.ok.inj hrule]
      have hjoined : EditedTo _ (joinPieces comma remark specs) edits
          (joinPieces comma remark specs') := hedited.join
      rw [← hcutSpecs.text_eq] at hjoined
      exact EditedTo.keep (EditedTo.keep (a := [equalsSign]) hjoined)
    · -- The new text is cut at the same first equals sign.
      obtain ⟨⟨rest, comment'⟩, hrest'⟩ :=
        delimiters_retags hequals hretags (delimiters_of_cut hequals hrest)
      obtain ⟨second', rest', rfl⟩ := List.exists_cons_of_ne_nil (delimiters_ne_nil hrest')
      have hnew := delimiters_of_cut hequals
        (.more hrun hclosed (cut_of_delimiters hequals hrest'))
      rw [parseUserSpec, hnew]
      simp only [bind, Except.bind, hhead, drop_cut,
        delimiters_of_cut hcomma (hcutSpecs.retags hcomma hedited.retags)]
      rw [hread]
      rw [← Except.ok.inj hrule]
      rfl

/-! ## One entry -/

/-- A word without an equals sign ends in front of one. -/
theorem word_prefix_iff (hword : equalsSign ∉ word) (head tail : Bytes) :
    word <+: head ++ equalsSign :: tail ↔ word <+: head := by
  constructor
  · intro h
    rcases List.prefix_or_prefix_of_prefix h (List.prefix_append head _) with hle | ⟨rest, rfl⟩
    · exact hle
    · cases rest with
      | nil => simp
      | cons c rest =>
        obtain ⟨rfl, -⟩ := List.cons_prefix_cons.mp ((List.prefix_append_right_inj head).mp h)
        exact absurd (by simp) hword
  · exact fun h => h.trans (List.prefix_append _ _)

/-- Such a word and the byte behind it do not depend on what follows the equals sign. -/
theorem word_head (hword : equalsSign ∉ word) (behind : Option UInt8 → Bool) (head a b : Bytes) :
    (word <+: head ++ equalsSign :: a &&
      behind ((head ++ equalsSign :: a).drop word.length).head?) =
      (word <+: head ++ equalsSign :: b &&
        behind ((head ++ equalsSign :: b).drop word.length).head?) := by
  simp only [word_prefix_iff hword]
  by_cases h : word <+: head
  · rw [List.drop_append_of_le_length h.length_le, List.drop_append_of_le_length h.length_le]
    cases head.drop word.length <;> rfl
  · simp [h]

theorem any_startsWithWord_head {words : List Bytes} (hwords : ∀ word ∈ words, equalsSign ∉ word)
    (head a b : Bytes) : words.any (startsWithWord · (head ++ equalsSign :: a)) =
      words.any (startsWithWord · (head ++ equalsSign :: b)) := by
  induction words with
  | nil => rfl
  | cons word words ih =>
    obtain ⟨hword, hwords⟩ := List.forall_mem_cons.mp hwords
    rw [List.any_cons, List.any_cons, ih hwords, startsWithWord, startsWithWord]
    exact congrArg (· || _) (word_head hword _ head a b)

theorem startsComment_head (head a b : Bytes) :
    startsComment (head ++ equalsSign :: a) = startsComment (head ++ equalsSign :: b) := by
  have hequals : equalsSign ≠ hash := by decide
  rcases head with _ | ⟨c, _ | ⟨d, head⟩⟩ <;> simp [startsComment, hequals]

/-- What stands behind the word `Defaults` decides by its first byte. -/
theorem startsDefaults_eq (text : Bytes) : startsDefaults text =
    (lit "Defaults" <+: text &&
      (text.drop 8).head?.all fun c => isSpace c || isScopeCharacter c) := by
  unfold startsDefaults
  cases text.drop 8 <;> rfl

theorem startsDefaults_head (head a b : Bytes) :
    startsDefaults (head ++ equalsSign :: a) = startsDefaults (head ++ equalsSign :: b) := by
  have hword : equalsSign ∉ lit "Defaults" := by decide
  rw [startsDefaults_eq, startsDefaults_eq]
  exact word_head hword _ head a b

theorem trimStart_append (hblanks : ∀ c ∈ blanks, isSpace c = true)
    (hstart : NoBlankStart text) : trimStart (blanks ++ text) = blanks.length := by
  have hlength := congrArg List.length
    (List.takeWhile_append_dropWhile (p := isSpace) (l := blanks ++ text))
  rw [List.length_append, List.length_append, ← skipBlanks, skipBlanks_append hblanks hstart]
    at hlength
  exact Nat.add_right_cancel hlength

theorem parseAuthenticationRule_userSpec
    (hblanks : ∀ c ∈ blanks, isSpace c = true) (hstart : NoBlankStart text) (hne : text ≠ [])
    (hinclude : includeDirectives.any (startsWithWord · text) = false)
    (hcomment : startsComment text = false)
    (halias : aliasWords.any (startsWithWord · text) = false)
    (hdefaults : startsDefaults text = false) :
    parseAuthenticationRule (blanks ++ text) = parseUserSpec blanks.length text := by
  simp [parseAuthenticationRule, skipBlanks_append hblanks hstart,
    trimStart_append hblanks hstart, hne, hinclude, hcomment, halias, hdefaults]

theorem defaults_words (body : Bytes) :
    includeDirectives.any (startsWithWord · (lit "Defaults" ++ body)) = false ∧
      startsComment (lit "Defaults" ++ body) = false ∧
      aliasWords.any (startsWithWord · (lit "Defaults" ++ body)) = false := by
  have hwords : ∀ words : List Bytes, (∀ word ∈ words, word ≠ [] ∧ word.head? ≠ some 'D'.toUInt8) →
      words.any (startsWithWord · (lit "Defaults" ++ body)) = false := by
    intro words hwords
    rw [List.any_eq_false]
    intro word hword hstarts
    obtain ⟨hne, hhead⟩ := hwords word hword
    rw [startsWithWord, Bool.and_eq_true, decide_eq_true_eq] at hstarts
    obtain ⟨c, rest, rfl⟩ := List.exists_cons_of_ne_nil hne
    obtain ⟨tail, htail⟩ := hstarts.1
    have hfirst := congrArg List.head? htail
    exact hhead hfirst
  exact ⟨hwords _ (by decide), rfl, hwords _ (by decide)⟩

def defaultsOf (text : Bytes) : Except Bytes (Bytes × List Bytes) :=
  readDefaults (!(scopedDefaultsScope text).isEmpty) ((skipBlanks text).drop 8)

section

variable (hblanks : ∀ c ∈ blanks, isSpace c = true)

include hblanks

theorem skipBlanks_defaults
    (body : Bytes) : skipBlanks (blanks ++ (lit "Defaults" ++ body)) = lit "Defaults" ++ body :=
  skipBlanks_append hblanks rfl

theorem scopedDefaultsScope_defaults
    (body : Bytes) : (scopedDefaultsScope (blanks ++ (lit "Defaults" ++ body))).isEmpty =
      !body.head?.any isScopeCharacter := by
  unfold scopedDefaultsScope
  simp only [skipBlanks_defaults hblanks]
  have hhead : (lit "Defaults" ++ body).head? ≠ some hash :=
    show some 'D'.toUInt8 ≠ some hash by decide
  rw [if_neg hhead, if_pos (List.prefix_append _ _)]
  have hdrop : (lit "Defaults" ++ body).drop 8 = body := rfl
  rw [hdrop]
  cases body with
  | nil => rfl
  | cons c body =>
    by_cases hc : isScopeCharacter c = true <;> simp [hc]

theorem defaultsOf_defaults (body : Bytes) : defaultsOf (blanks ++ (lit "Defaults" ++ body)) =
      readDefaults (body.head?.any isScopeCharacter) body := by
  rw [defaultsOf, scopedDefaultsScope_defaults hblanks, skipBlanks_defaults hblanks, Bool.not_not]
  rfl

theorem parseAuthenticationRule_defaults
    (hstarts : startsDefaults (lit "Defaults" ++ body) = true) :
    parseAuthenticationRule (blanks ++ (lit "Defaults" ++ body)) =
      parseDefaults (blanks.length + 8) (body.head?.any isScopeCharacter) body := by
  have hstart : NoBlankStart (lit "Defaults" ++ body) := rfl
  obtain ⟨hinclude, hcomment, halias⟩ := defaults_words body
  have hdrop : (lit "Defaults" ++ body).drop 8 = body := rfl
  simp only [parseAuthenticationRule, skipBlanks_defaults hblanks,
    trimStart_append hblanks hstart, scopedDefaultsScope_defaults hblanks, hinclude, hcomment,
    halias, hstarts, hdrop, Bool.not_not]
  rfl

end

theorem startsDefaults_body (body : Bytes) : startsDefaults (lit "Defaults" ++ body) =
    body.head?.all fun c => isSpace c || isScopeCharacter c := by
  rw [startsDefaults_eq, show (lit "Defaults" ++ body).drop 8 = body from rfl]
  simp

/-- A `Defaults` entry: the word and what stands behind it. -/
structure ReadsDefaults (text blanks body : Bytes) (rule : AuthenticationRule) : Prop where
  text_eq : text = blanks ++ (lit "Defaults" ++ body)
  blanks_space : ∀ c ∈ blanks, isSpace c = true
  starts : startsDefaults (lit "Defaults" ++ body) = true
  parse : parseDefaults (blanks.length + 8) (body.head?.any isScopeCharacter) body = .ok rule

/-- A `User_Spec`: whatever stands behind an equals sign, it is read as one. -/
structure ReadsUserSpec (text blanks spec : Bytes) (rule : AuthenticationRule) : Prop where
  text_eq : text = blanks ++ spec
  any_tail : ∀ head tail tail', spec = head ++ equalsSign :: tail →
    parseAuthenticationRule (blanks ++ (head ++ equalsSign :: tail')) =
      parseUserSpec blanks.length (head ++ equalsSign :: tail')
  parse : parseUserSpec blanks.length spec = .ok rule

theorem ReadsDefaults.scope (h : ReadsDefaults text blanks body rule) :
    if body.head?.any isScopeCharacter then body ≠ []
    else body = [] ∨ body.head?.any isSpace = true := by
  have hstarts := h.starts
  rw [startsDefaults_body] at hstarts
  cases body with
  | nil => simp
  | cons c body =>
    by_cases hc : isScopeCharacter c = true
    · simp [hc]
    · simpa [hc] using hstarts

theorem parseAuthenticationRule_cases (h : parseAuthenticationRule text = .ok rule) :
    (rule.edits = [] ∧ rule.commands = [] ∧ rule.kind ≠ .Defaults) ∨
      (∃ blanks body, ReadsDefaults text blanks body rule) ∨
      ∃ blanks spec, ReadsUserSpec text blanks spec rule := by
  have hparsed := h
  obtain ⟨blanks, hblanks, hsplit, hcount⟩ := blanks_skipBlanks text
  unfold parseAuthenticationRule at h
  dsimp only at h
  split_ifs at h with hempty hinclude hcomment halias hdefaults
  iterate 4
    · rw [← Except.ok.inj h]
      exact .inl ⟨rfl, rfl, by decide⟩
  · obtain ⟨body, hbody⟩ : lit "Defaults" <+: skipBlanks text := by
      rw [startsDefaults_eq, Bool.and_eq_true, decide_eq_true_eq] at hdefaults
      exact hdefaults.1
    rw [← hbody] at hsplit hdefaults
    rw [hsplit, parseAuthenticationRule_defaults hblanks hdefaults] at hparsed
    exact .inr (.inl ⟨blanks, body, hsplit, hblanks, hdefaults, hparsed⟩)
  · refine .inr (.inr ⟨blanks, skipBlanks text, hsplit, fun head tail tail' htext => ?_, ?_⟩)
    · have hstart : NoBlankStart (head ++ equalsSign :: tail') := by
        have hskipped := noBlankStart_skipBlanks text
        rw [htext] at hskipped
        cases head with
        | nil => rfl
        | cons c head => exact hskipped
      simp only [htext, Bool.not_eq_true, startsComment_head head tail tail',
        startsDefaults_head head tail tail'] at hinclude hcomment halias hdefaults
      rw [any_startsWithWord_head (by decide) head tail tail'] at hinclude halias
      exact parseAuthenticationRule_userSpec hblanks hstart (by simp) hinclude hcomment halias
        hdefaults
    · rw [hcount]
      exact h

/-- Reading the edited entry gives the same rule with every token switched. -/
theorem parseAuthenticationRule_edited (h : parseAuthenticationRule text = .ok rule) :
    ∃ text', EditedTo 0 text rule.edits text' ∧
      parseAuthenticationRule text' = .ok rule.authenticated ∧
      (rule.kind = .Defaults → ∃ scope options, defaultsOf text = .ok (scope, options) ∧
        defaultsOf text' = .ok (scope, options.map reauthenticate)) := by
  rcases parseAuthenticationRule_cases h with
    ⟨hedits, hcommands, hkind⟩ | ⟨blanks, body, hreads⟩ | ⟨blanks, spec, hreads⟩
  · have hsame : rule.authenticated = rule := by
      cases rule
      simp_all [AuthenticationRule.authenticated]
    rw [hsame, hedits]
    exact ⟨text, .done _ _, h, fun hdefaults => absurd hdefaults hkind⟩
  · -- `Defaults`: the options are rewritten behind the word and its scope.
    have hparsed := hreads.parse
    obtain ⟨body', hedited, hsame, hoptions, hread⟩ := parseDefaults_edited hparsed hreads.scope
    refine ⟨blanks ++ (lit "Defaults" ++ body'), ?_, ?_, fun _ => ?_⟩
    · rw [hreads.text_eq]
      refine EditedTo.keep (EditedTo.keep ?_)
      rw [Nat.zero_add]
      exact hedited
    · have hstarts : startsDefaults (lit "Defaults" ++ body') = true := by
        rw [startsDefaults_body, hsame, ← startsDefaults_body]
        exact hreads.starts
      rw [parseAuthenticationRule_defaults hreads.blanks_space hstarts, hsame, hread]
      have hcommands : rule.commands = [] := by
        rw [parseDefaults_eq] at hparsed
        simp only [except_bind_eq_ok] at hparsed
        obtain ⟨_, -, _, -, hrule⟩ := hparsed
        rw [← Except.ok.inj hrule]
      simp [AuthenticationRule.authenticated, hcommands]
    · rw [hreads.text_eq, defaultsOf_defaults hreads.blanks_space,
        defaultsOf_defaults hreads.blanks_space, hsame]
      exact hoptions
  · -- `User_Spec`: the commands are rewritten behind the first equals sign.
    obtain ⟨head, tail, tail', hspec, hedited, hread⟩ := parseUserSpec_edited hreads.parse
    refine ⟨blanks ++ (head ++ equalsSign :: tail'), ?_, ?_, fun hkind => ?_⟩
    · rw [hreads.text_eq]
      refine EditedTo.keep ?_
      rw [Nat.zero_add]
      exact hedited
    · rw [hreads.any_tail head tail tail' hspec, hread]
    · rw [parseUserSpec_kind hreads.parse] at hkind
      cases hkind

end Fic.Sudo
