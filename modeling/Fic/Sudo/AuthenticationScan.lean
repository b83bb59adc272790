import Fic.Sudo.AuthenticationGrammar

/-!
# Tokens the scanner does not tell apart

The parser names tokens that are to be replaced.  `EditedTo` says what a text is
with those edits made.  The scanner does not see the difference: the old and the
new token consist of bytes that mean nothing to it and end in the same byte
(`Retags`).  So a text with edited pieces is cut into the edited pieces
(`Cut.retags`).
-/

namespace Fic.Sudo

open Fic.Lib

variable {a' token : Bytes} {base offset : Nat} {p : UInt8 → Bool}
  {a b b' comment piece text : Bytes} {pieces pieces' : List Bytes}
  {cut : List Bytes × Bytes} {edits : List SudoTokenReplacement} {next : Option UInt8}
  {final state : QuoteState} {c delimiter last : UInt8}

/-! ## Edited texts -/

/-- A token and what it is replaced by. -/
inductive IsRetag : Bytes → Bytes → Prop
  | tag : IsRetag noPasswd passwd
  | option : IsRetag noAuthenticate authenticate

/-- The text that starts at the offset `base`, with the edits made. -/
inductive EditedTo : Nat → Bytes → List SudoTokenReplacement → Bytes → Prop
  | done (base : Nat) (text : Bytes) : EditedTo base text [] text
  | edit {base : Nat} {before expected replacement after result : Bytes}
      {edits : List SudoTokenReplacement} (htoken : IsRetag expected replacement)
      (hafter : EditedTo (base + before.length + expected.length) after edits result) :
      EditedTo base (before ++ expected ++ after)
        ({ logicalOffset := base + before.length, expected, replacement } :: edits)
        (before ++ replacement ++ result)

theorem EditedTo.keep {result : Bytes} (h : EditedTo (base + a.length) text edits result) :
    EditedTo base (a ++ text) edits (a ++ result) := by
  cases h with
  | done => exact .done _ _
  | @edit _ before expected replacement after result edits htoken hafter =>
    have hbase : base + a.length + before.length = base + (a ++ before).length := by
      simp only [List.length_append]
      omega
    rw [hbase] at hafter ⊢
    have htext : a ++ (before ++ expected ++ after) = (a ++ before) ++ expected ++ after := by simp
    have hresult : a ++ (before ++ replacement ++ result) =
        (a ++ before) ++ replacement ++ result := by simp
    rw [htext, hresult]
    exact .edit htoken hafter

theorem EditedTo.append {more : List SudoTokenReplacement} (ha : EditedTo base a edits a')
    (hb : EditedTo (base + a.length) b more b') :
    EditedTo base (a ++ b) (edits ++ more) (a' ++ b') := by
  induction ha with
  | done => exact hb.keep
  | @edit base before expected replacement after result edits htoken _ ih =>
    have hbase : base + (before ++ expected ++ after).length =
        base + before.length + expected.length + after.length := by
      simp only [List.length_append]
      omega
    rw [hbase] at hb
    have htext : before ++ expected ++ after ++ b = before ++ expected ++ (after ++ b) := by simp
    have hresult : before ++ replacement ++ result ++ b' =
        before ++ replacement ++ (result ++ b') := by simp
    rw [htext, hresult, List.cons_append]
    exact .edit htoken (ih hb)

/-! ## Tokens -/

/-- A byte that means nothing to the scanner. -/
def isPlain (c : UInt8) : Bool :=
  !isSpace c && !isDigit c &&
    !([backslash, apostrophe, quote, hash, openParen, closeParen, comma, equalsSign,
      colon].contains c)

/-- The text with some tokens replaced. -/
inductive Retags : Bytes → Bytes → Prop
  | nil : Retags [] []
  | keep (c : UInt8) {a b : Bytes} (h : Retags a b) : Retags (c :: a) (c :: b)
  | token {old new a b : Bytes} (htoken : IsRetag old new) (h : Retags a b) :
      Retags (old ++ a) (new ++ b)

theorem Retags.refl (text : Bytes) : Retags text text := by
  induction text with
  | nil => exact .nil
  | cons c text ih => exact .keep c ih

theorem Retags.append (ha : Retags a a') (hb : Retags b b') : Retags (a ++ b) (a' ++ b') := by
  induction ha with
  | nil => exact hb
  | keep c _ ih => exact .keep c ih
  | token htoken _ ih => simpa using Retags.token htoken ih

theorem Retags.keepAll (a : Bytes) (h : Retags b b') : Retags (a ++ b) (a ++ b') :=
  (Retags.refl a).append h

/-- A token is plain and ends in the same byte as its replacement. -/
theorem IsRetag.plain {old new : Bytes} (h : IsRetag old new) :
    ∃ a b last, old = a ++ [last] ∧ new = b ++ [last] ∧ (a ++ [last]).all isPlain = true ∧
      (b ++ [last]).all isPlain = true := by
  cases h with
  | tag => exact ⟨lit "NOPASSW", lit "PASSW", 'D'.toUInt8, by decide⟩
  | option => exact ⟨lit "!authenticat", lit "authenticat", 'e'.toUInt8, by decide⟩

theorem head_plain (h : (a ++ [last]).all isPlain = true) (text : Bytes) :
    ∃ c, (a ++ [last] ++ text).head? = some c ∧ isPlain c = true := by
  cases a with
  | nil => exact ⟨last, rfl, by simpa using h⟩
  | cons c a => exact ⟨c, rfl, by simp at h; exact h.1⟩

theorem Retags.head (h : Retags a b) :
    a.head? = b.head? ∨
      (∃ c, a.head? = some c ∧ isPlain c = true) ∧ ∃ c, b.head? = some c ∧ isPlain c = true := by
  cases h with
  | nil => exact .inl rfl
  | keep c _ => exact .inl rfl
  | @token old new a b htoken _ =>
    obtain ⟨x, y, last, rfl, rfl, hold, hnew⟩ := htoken.plain
    exact .inr ⟨head_plain hold a, head_plain hnew b⟩

theorem Retags.head_any (h : Retags a b) (hp : ∀ c, isPlain c = true → p c = false) :
    a.head?.any p = b.head?.any p := by
  rcases h.head with heq | ⟨⟨c, hc, hplain⟩, d, hd, hplain'⟩
  · rw [heq]
  · rw [hc, hd]
    simp [hp c hplain, hp d hplain']

theorem isPlain_not_digit (h : isPlain c = true) : isDigit c = false := by
  simp only [isPlain, Bool.and_eq_true, Bool.not_eq_true'] at h
  exact h.1.2

theorem isPlain_not_space (h : isPlain c = true) : isSpace c = false := by
  simp only [isPlain, Bool.and_eq_true, Bool.not_eq_true'] at h
  exact h.1.1

theorem isPlain_ne {d : UInt8} (h : isPlain c = true)
    (hd : d ∈ [backslash, apostrophe, quote, hash, openParen, closeParen, comma,
      equalsSign, colon]) : c ≠ d := by
  simp only [isPlain, Bool.and_eq_true, Bool.not_eq_true', List.contains_eq_mem,
    decide_eq_false_iff_not] at h
  exact fun e => h.2 (e ▸ hd)

def NoBlankStart (text : Bytes) : Prop := text.head?.any isSpace = false

theorem noBlankStart_skipBlanks (text : Bytes) : NoBlankStart (skipBlanks text) := by
  unfold NoBlankStart skipBlanks
  cases h : (text.dropWhile isSpace).head? with
  | none => rfl
  | some c =>
    have := List.head?_dropWhile_not isSpace text
    simp only [h] at this
    simpa using this

theorem Retags.noBlankStart (h : Retags a b) (ha : NoBlankStart a) : NoBlankStart b := by
  unfold NoBlankStart at ha ⊢
  rw [← h.head_any fun c => isPlain_not_space]
  exact ha

theorem skipBlanks_append {blanks : Bytes} (hblanks : ∀ c ∈ blanks, isSpace c = true)
    (htext : NoBlankStart text) : skipBlanks (blanks ++ text) = text := by
  unfold skipBlanks
  rw [List.dropWhile_append_of_pos hblanks]
  cases text with
  | nil => rfl
  | cons c text => exact List.dropWhile_cons_of_neg (by simpa [NoBlankStart] using htext)

theorem blanks_skipBlanks (text : Bytes) :
    ∃ blanks, (∀ c ∈ blanks, isSpace c = true) ∧ text = blanks ++ skipBlanks text ∧
      blanks.length = trimStart text := by
  refine ⟨text.takeWhile isSpace, fun c hc => List.mem_takeWhile_imp hc, ?_, rfl⟩
  exact (List.takeWhile_append_dropWhile).symm

/-! ## The scanner does not see a retagging -/

theorem scanByte_next (delimiter : UInt8) (state : QuoteState) (c : UInt8) {a b : Option UInt8}
    (h : a.any isDigit = b.any isDigit) :
    scanByte delimiter state c a = scanByte delimiter state c b := by
  unfold scanByte
  rw [h]

def IsDelimiter (delimiter : UInt8) : Prop :=
  delimiter = comma ∨ delimiter = equalsSign ∨ delimiter = colon

theorem scanByte_plain (hdelimiter : IsDelimiter delimiter) (hc : isPlain c = true)
    (state : QuoteState) (next : Option UInt8) :
    scanByte delimiter state c next =
      .keep { state with escaped := false, last := some c } := by
  have hcut : c ≠ delimiter := by
    rcases hdelimiter with rfl | rfl | rfl <;> exact isPlain_ne hc (by simp)
  have hspace := isPlain_not_space hc
  have hbackslash : c ≠ backslash := isPlain_ne hc (by simp)
  have hapostrophe : c ≠ apostrophe := isPlain_ne hc (by simp)
  have hquote : c ≠ quote := isPlain_ne hc (by simp)
  have hhash : c ≠ hash := isPlain_ne hc (by simp)
  have hopen : c ≠ openParen := isPlain_ne hc (by simp)
  have hclose : c ≠ closeParen := isPlain_ne hc (by simp)
  unfold scanByte
  by_cases hescaped : state.escaped = true
  · simp [hescaped, QuoteState.see, hspace]
  · have hstate : { state with escaped := false, last := some c } = state.see c := by
      simp only [QuoteState.see, hspace]
      cases state
      simp_all
    simp [hescaped, hcut, hbackslash, hapostrophe, hquote, hhash, hopen, hclose, hstate]

/-- Bytes in front of the first piece. -/
def consPieces (text : Bytes) (cut : List Bytes × Bytes) : List Bytes × Bytes :=
  text.foldr consPiece cut

theorem delimiters_plain (hdelimiter : IsDelimiter delimiter)
    (hplain : (token ++ [last]).all isPlain = true) (state : QuoteState) (text : Bytes) :
    delimiters delimiter state (token ++ last :: text) =
      (delimiters delimiter { state with escaped := false, last := some last } text).map
        (consPieces (token ++ [last])) := by
  induction token generalizing state with
  | nil =>
    have hlast : isPlain last = true := by simpa using hplain
    show delimiters delimiter state (last :: text) = _
    rw [delimiters, scanByte_plain hdelimiter hlast]
    rfl
  | cons c token ih =>
    obtain ⟨hc, hrest⟩ : isPlain c = true ∧ (token ++ [last]).all isPlain = true := by
      simpa using hplain
    rw [List.cons_append, delimiters, scanByte_plain hdelimiter hc]
    dsimp only
    rw [ih hrest]
    cases delimiters delimiter { state with escaped := false, last := some last } text <;> rfl

theorem consPiece_ne_nil (c : UInt8) (cut : List Bytes × Bytes) : (consPiece c cut).1 ≠ [] := by
  obtain ⟨_ | ⟨piece, pieces⟩, rest⟩ := cut <;> simp [consPiece]

theorem delimiters_ne_nil (h : delimiters delimiter state text = .ok cut) : cut.1 ≠ [] := by
  cases text with
  | nil =>
    rw [delimiters] at h
    split_ifs at h
    rw [← Except.ok.inj h]
    simp
  | cons c text =>
    rw [delimiters] at h
    cases hscan : scanByte delimiter state c text.head? with
    | keep | cut =>
      simp only [hscan, except_map_eq_ok] at h
      obtain ⟨rest, -, rfl⟩ := h
      simp [consPiece_ne_nil]
    | stop =>
      simp only [hscan] at h
      split_ifs at h
      rw [← Except.ok.inj h]
      simp
    | refuse error => simp [hscan] at h

/-- A retagged text can be cut as well. -/
theorem delimiters_retags (hdelimiter : IsDelimiter delimiter) (h : Retags a b)
    (hcut : delimiters delimiter state a = .ok cut) :
    ∃ cut', delimiters delimiter state b = .ok cut' := by
  induction h generalizing state cut with
  | nil => exact ⟨cut, hcut⟩
  | @keep c a b h ih =>
    have hnext := scanByte_next delimiter state c (h.head_any fun c => isPlain_not_digit)
    rw [delimiters] at hcut ⊢
    rw [← hnext]
    cases hscan : scanByte delimiter state c a.head? with
    | keep | cut =>
      simp only [hscan, except_map_eq_ok] at hcut ⊢
      obtain ⟨rest, hrest, rfl⟩ := hcut
      obtain ⟨rest', hrest'⟩ := ih hrest
      exact ⟨_, rest', hrest', rfl⟩
    | stop =>
      simp only [hscan] at hcut ⊢
      split_ifs at hcut ⊢
      exact ⟨_, rfl⟩
    | refuse error => simp [hscan] at hcut
  | @token old new a b htoken _ ih =>
    obtain ⟨old, new, last, rfl, rfl, hold, hnew⟩ := htoken.plain
    rw [List.append_assoc, List.singleton_append, delimiters_plain hdelimiter hold,
      except_map_eq_ok] at hcut
    obtain ⟨rest, hrest, rfl⟩ := hcut
    obtain ⟨rest', hrest'⟩ := ih hrest
    rw [List.append_assoc, List.singleton_append, delimiters_plain hdelimiter hnew, hrest']
    exact ⟨_, rfl⟩

/-! ## What the scanner cuts -/

/-- The scanner keeps every byte of the piece.  Behind the piece stands no digit. -/
inductive PieceRun (delimiter : UInt8) : QuoteState → Bytes → QuoteState → Prop
  | nil (state : QuoteState) : PieceRun delimiter state [] state
  | cons {state next last : QuoteState} {c : UInt8} {piece : Bytes}
      (hscan : scanByte delimiter state c piece.head? = .keep next)
      (hrest : PieceRun delimiter next piece last) : PieceRun delimiter state (c :: piece) last

structure QuoteState.Closed (state : QuoteState) : Prop where
  quoted : state.quoted = false
  escaped : state.escaped = false
  depth : state.depth = 0

/-- What may stand behind the last piece. -/
def IsRemainder (text : Bytes) : Prop := text = [] ∨ startsComment text = true

/-- The text is cut into the pieces, with the comment behind them. -/
inductive Cut (delimiter : UInt8) : QuoteState → Bytes → List Bytes → Bytes → Prop
  | last {state final : QuoteState} {piece comment : Bytes}
      (hrun : PieceRun delimiter state piece final) (hclosed : final.Closed)
      (hcomment : IsRemainder comment) : Cut delimiter state (piece ++ comment) [piece] comment
  | more {state final : QuoteState} {piece text comment : Bytes} {pieces : List Bytes}
      (hrun : PieceRun delimiter state piece final) (hclosed : final.Closed)
      (hrest : Cut delimiter (final.see delimiter) text pieces comment) :
      Cut delimiter state (piece ++ delimiter :: text) (piece :: pieces) comment

theorem IsDelimiter.not_digit (h : IsDelimiter delimiter) : isDigit delimiter = false := by
  rcases h with rfl | rfl | rfl <;> decide

theorem IsDelimiter.ne (h : IsDelimiter delimiter) (hc : c ∉ [comma, equalsSign, colon]) :
    delimiter ≠ c := by
  rintro rfl
  exact hc (by simpa [IsDelimiter] using h)

theorem IsRemainder.no_digit (h : IsRemainder text) : text.head?.any isDigit = false := by
  rcases h with rfl | h
  · rfl
  · cases text with
    | nil => rfl
    | cons c text =>
      simp only [startsComment, List.head?_cons, Bool.and_eq_true, decide_eq_true_eq,
        Option.some.injEq] at h
      rw [h.1]
      rfl

theorem head_append_any (piece : Bytes) (h : text.head?.any p = false) :
    (piece ++ text).head?.any p = piece.head?.any p := by
  cases piece with
  | nil => simpa using h
  | cons c piece => rfl

theorem scanByte_eq_cut (h : scanByte delimiter state c next = .cut) :
    c = delimiter ∧ state.Closed := by
  unfold scanByte at h
  split_ifs at h with hescaped _ _ _ hquoted _ _ _ _ _ hcut
  simp only [Bool.and_eq_true, decide_eq_true_eq] at hcut
  exact ⟨hcut.2, by simpa using hquoted, by simpa using hescaped, hcut.1⟩

theorem scanByte_eq_stop (h : scanByte delimiter state c next = .stop) :
    c = hash ∧ next.any isDigit = false ∧ state.quoted = false ∧ state.escaped = false := by
  unfold scanByte at h
  split_ifs at h with hescaped _ _ _ hquoted hhash
  simp only [Bool.and_eq_true, decide_eq_true_eq, Bool.not_eq_true'] at hhash
  exact ⟨hhash.1, hhash.2, by simpa using hquoted, by simpa using hescaped⟩

theorem scanByte_delimiter (h : IsDelimiter delimiter) (hclosed : state.Closed)
    (next : Option UInt8) : scanByte delimiter state delimiter next = .cut := by
  obtain ⟨hquoted, hescaped, hdepth⟩ := hclosed
  have hbackslash : delimiter ≠ backslash := h.ne (by decide)
  have hapostrophe : delimiter ≠ apostrophe := h.ne (by decide)
  have hquote : delimiter ≠ quote := h.ne (by decide)
  have hhash : delimiter ≠ hash := h.ne (by decide)
  have hopen : delimiter ≠ openParen := h.ne (by decide)
  have hclose : delimiter ≠ closeParen := h.ne (by decide)
  unfold scanByte
  simp [hquoted, hescaped, hdepth, hbackslash, hapostrophe, hquote, hhash, hopen, hclose]

theorem scanByte_hash (hclosed : state.Closed) (hnext : next.any isDigit = false) :
    scanByte delimiter state hash next = .stop := by
  obtain ⟨hquoted, hescaped, hdepth⟩ := hclosed
  have hspecial : hash ≠ backslash ∧ hash ≠ apostrophe ∧ hash ≠ quote := by decide
  unfold scanByte
  simp [hquoted, hescaped, hnext, hspecial]

theorem Cut.consByte (hdelimiter : IsDelimiter delimiter) {next : QuoteState}
    (h : Cut delimiter next text (piece :: pieces) comment)
    (hscan : scanByte delimiter state c text.head? = .keep next) :
    Cut delimiter state (c :: text) ((c :: piece) :: pieces) comment := by
  cases h with
  | last hrun hclosed hcomment =>
    have hhead := head_append_any piece hcomment.no_digit
    rw [scanByte_next delimiter state c hhead] at hscan
    exact .last (.cons hscan hrun) hclosed hcomment
  | @more _ final _ text _ _ hrun hclosed hrest =>
    have hhead : (piece ++ delimiter :: text).head?.any isDigit = piece.head?.any isDigit :=
      head_append_any piece (by simpa using hdelimiter.not_digit)
    rw [scanByte_next delimiter state c hhead] at hscan
    exact .more (.cons hscan hrun) hclosed hrest

/-- The scanner cuts in that way. -/
theorem cut_of_delimiters (hdelimiter : IsDelimiter delimiter)
    (h : delimiters delimiter state text = .ok cut) : Cut delimiter state text cut.1 cut.2 := by
  induction text generalizing state cut with
  | nil =>
    rw [delimiters] at h
    split_ifs at h with hopen
    rw [← Except.ok.inj h]
    simp only [Bool.or_eq_true, decide_eq_true_eq, not_or, Bool.not_eq_true, not_not] at hopen
    exact .last (.nil state) ⟨hopen.1.1, hopen.1.2, hopen.2⟩ (.inl rfl)
  | cons c text ih =>
    rw [delimiters] at h
    cases hscan : scanByte delimiter state c text.head? with
    | keep next =>
      simp only [hscan, except_map_eq_ok] at h
      obtain ⟨⟨pieces, rest⟩, hrest, rfl⟩ := h
      obtain ⟨piece, pieces, rfl⟩ := List.exists_cons_of_ne_nil (delimiters_ne_nil hrest)
      exact (ih hrest).consByte hdelimiter hscan
    | cut =>
      simp only [hscan, except_map_eq_ok] at h
      obtain ⟨rest, hrest, rfl⟩ := h
      obtain ⟨rfl, hclosed⟩ := scanByte_eq_cut hscan
      exact .more (.nil state) hclosed (ih hrest)
    | stop =>
      simp only [hscan] at h
      obtain ⟨rfl, hnext, hquoted, hescaped⟩ := scanByte_eq_stop hscan
      split_ifs at h with hdepth
      rw [← Except.ok.inj h]
      refine .last (.nil state) ⟨hquoted, hescaped, by simpa using hdepth⟩ (.inr ?_)
      simpa [startsComment] using hnext
    | refuse error => simp [hscan] at h

theorem delimiters_run (h : PieceRun delimiter state piece final)
    (htext : text.head?.any isDigit = false) (hcut : delimiters delimiter final text = .ok cut) :
    delimiters delimiter state (piece ++ text) = .ok (consPieces piece cut) := by
  induction h with
  | nil => exact hcut
  | @cons state next last c piece hscan _ ih =>
    rw [List.cons_append, delimiters,
      scanByte_next delimiter state c (head_append_any piece htext), hscan]
    dsimp only
    rw [ih hcut]
    rfl

/-- Whatever can be cut in that way is cut so by the scanner. -/
theorem delimiters_of_cut (hdelimiter : IsDelimiter delimiter)
    (h : Cut delimiter state text pieces comment) :
    delimiters delimiter state text = .ok (pieces, comment) := by
  have hpiece : ∀ (piece : Bytes) (rest : List Bytes) (comment : Bytes),
      consPieces piece ([] :: rest, comment) = (piece :: rest, comment) := by
    intro piece rest comment
    induction piece with
    | nil => rfl
    | cons c piece ih =>
      show consPiece c (consPieces piece ([] :: rest, comment)) = _
      rw [ih]
      rfl
  induction h with
  | @last state final piece comment hrun hclosed hcomment =>
    have hend : delimiters delimiter final comment = .ok ([[]], comment) := by
      rcases hcomment with rfl | hcomment
      · rw [delimiters, if_neg (by simp [hclosed.quoted, hclosed.escaped, hclosed.depth])]
      · cases comment with
        | nil => cases hcomment
        | cons c comment =>
          simp only [startsComment, List.head?_cons, Bool.and_eq_true, decide_eq_true_eq,
            Option.some.injEq, List.drop_one, List.tail_cons, Bool.not_eq_true'] at hcomment
          obtain ⟨rfl, hnext⟩ := hcomment
          rw [delimiters, scanByte_hash hclosed hnext]
          simp [hclosed.depth]
    rw [delimiters_run hrun hcomment.no_digit hend, hpiece]
  | @more state final piece text comment pieces hrun hclosed _ ih =>
    have hcut : delimiters delimiter final (delimiter :: text) = .ok ([] :: pieces, comment) := by
      rw [delimiters, scanByte_delimiter hdelimiter hclosed]
      rw [ih]
      rfl
    rw [delimiters_run hrun (by simpa using hdelimiter.not_digit) hcut, hpiece]

/-! ## Cutting a retagged text -/

theorem pieceRun_cons_iff : PieceRun delimiter state (c :: piece) final ↔
      ∃ next, scanByte delimiter state c piece.head? = .keep next ∧
        PieceRun delimiter next piece final := by
  constructor
  · rintro (_ | ⟨hscan, hrest⟩)
    exact ⟨_, hscan, hrest⟩
  · rintro ⟨next, hscan, hrest⟩
    exact .cons hscan hrest

theorem pieceRun_plain (hdelimiter : IsDelimiter delimiter)
    (hplain : (token ++ [last]).all isPlain = true) (state final : QuoteState) (piece : Bytes) :
    PieceRun delimiter state (token ++ [last] ++ piece) final ↔
      PieceRun delimiter { state with escaped := false, last := some last } piece final := by
  induction token generalizing state with
  | nil =>
    have hlast : isPlain last = true := by simpa using hplain
    rw [List.nil_append, List.singleton_append, pieceRun_cons_iff, scanByte_plain hdelimiter hlast]
    simp
  | cons c token ih =>
    obtain ⟨hc, hrest⟩ : isPlain c = true ∧ (token ++ [last]).all isPlain = true := by
      simpa using hplain
    rw [List.cons_append, List.cons_append, pieceRun_cons_iff, scanByte_plain hdelimiter hc]
    simp only [Scanned.keep.injEq, exists_eq_left']
    exact ih hrest _

theorem PieceRun.retags (hdelimiter : IsDelimiter delimiter) (h : Retags a b)
    (hrun : PieceRun delimiter state a final) : PieceRun delimiter state b final := by
  induction h generalizing state with
  | nil => exact hrun
  | @keep c a b h ih =>
    obtain ⟨next, hscan, hrest⟩ := pieceRun_cons_iff.mp hrun
    rw [scanByte_next delimiter state c (h.head_any fun c => isPlain_not_digit)] at hscan
    exact .cons hscan (ih hrest)
  | token htoken _ ih =>
    obtain ⟨old, new, last, rfl, rfl, hold, hnew⟩ := htoken.plain
    rw [pieceRun_plain hdelimiter hold] at hrun
    rw [pieceRun_plain hdelimiter hnew]
    exact ih hrun

/-- The text that is cut into the pieces. -/
def joinPieces (delimiter : UInt8) (comment : Bytes) : List Bytes → Bytes
  | [] => comment
  | [piece] => piece ++ comment
  | piece :: pieces => piece ++ delimiter :: joinPieces delimiter comment pieces

theorem Cut.ne_nil (h : Cut delimiter state text pieces comment) : pieces ≠ [] := by
  cases h <;> simp

theorem joinPieces_cons (h : pieces ≠ []) : joinPieces delimiter comment (piece :: pieces) =
      piece ++ delimiter :: joinPieces delimiter comment pieces := by
  obtain ⟨next, pieces, rfl⟩ := List.exists_cons_of_ne_nil h
  rfl

theorem Cut.text_eq (h : Cut delimiter state text pieces comment) :
    text = joinPieces delimiter comment pieces := by
  induction h with
  | last => rfl
  | more _ _ hrest ih => rw [joinPieces_cons hrest.ne_nil, ← ih]

theorem Cut.retags (hdelimiter : IsDelimiter delimiter)
    (h : Cut delimiter state text pieces comment) (hpieces : List.Forall₂ Retags pieces pieces') :
    Cut delimiter state (joinPieces delimiter comment pieces') pieces' comment := by
  induction h generalizing pieces' with
  | last hrun hclosed hcomment =>
    cases hpieces with
    | cons hpiece hnil =>
      cases hnil
      exact .last (hrun.retags hdelimiter hpiece) hclosed hcomment
  | more hrun hclosed hrest ih =>
    cases hpieces with
    | @cons _ piece' _ pieces' hpiece hpieces =>
      have hne : pieces' ≠ [] := by
        rintro rfl
        cases hpieces
        exact hrest.ne_nil rfl
      rw [joinPieces_cons hne]
      exact .more (hrun.retags hdelimiter hpiece) hclosed (ih hpieces)

theorem Retags.join (h : List.Forall₂ Retags pieces pieces') :
    Retags (joinPieces delimiter comment pieces) (joinPieces delimiter comment pieces') := by
  induction h with
  | nil => exact .refl _
  | @cons piece piece' pieces pieces' hpiece hpieces ih =>
    cases hpieces with
    | nil => exact hpiece.append (.refl _)
    | cons hnext hrest => exact hpiece.append (.keep delimiter ih)

/-- Every piece is edited at the offset it has in the text. -/
inductive PiecesEdited : Nat → List Bytes → List SudoTokenReplacement → List Bytes → Prop
  | nil (offset : Nat) : PiecesEdited offset [] [] []
  | cons {offset : Nat} {piece piece' : Bytes} {pieces pieces' : List Bytes}
      {edits more : List SudoTokenReplacement} (hpiece : EditedTo offset piece edits piece')
      (hretags : Retags piece piece')
      (hrest : PiecesEdited (offset + piece.length + 1) pieces more pieces') :
      PiecesEdited offset (piece :: pieces) (edits ++ more) (piece' :: pieces')

theorem PiecesEdited.retags (h : PiecesEdited offset pieces edits pieces') :
    List.Forall₂ Retags pieces pieces' := by
  induction h with
  | nil => exact .nil
  | cons _ hretags _ ih => exact .cons hretags ih

theorem PiecesEdited.join (h : PiecesEdited offset pieces edits pieces') :
    EditedTo offset (joinPieces delimiter comment pieces) edits
      (joinPieces delimiter comment pieces') := by
  induction h with
  | nil => exact .done _ _
  | @cons offset piece piece' pieces pieces' edits more hpiece hretags hrest ih =>
    cases hrest with
    | nil => exact hpiece.append (.done _ _)
    | cons hnext _ hmore => exact hpiece.append (EditedTo.keep (a := [delimiter]) ih)

end Fic.Sudo
