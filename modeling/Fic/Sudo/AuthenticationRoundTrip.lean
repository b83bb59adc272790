import Fic.Lib.ListUpdate
import Fic.Sudo.AuthenticationFrames

/-!
# Framing an entry and putting it back

A frame holds the original lines behind a line feed, and the file is cut again before the
frame is read.  As with suppressed entries, a text that ends in a carriage return loses it
there; the reader finds a line that is not the one it would write and refuses the file.  So
framing an entry loses nothing exactly when no line of it has such a text.
-/

namespace Fic.Sudo

open Fic.Lib
open Fic.Journal (AuthenticationProof isCanonicalSudoWrapperId)

variable {original : Bytes} {line : SudoPhysicalLine}

/-! ## The lines of the replacement -/

/-- A line that ends as another does. -/
def SameEnd (line line' : SudoPhysicalLine) : Prop :=
  line'.terminator = line.terminator ∧ line'.text.getLast? = line.text.getLast?

theorem authenticationReplacement_lines {replacement : Bytes} {scopedDefaults : Bool}
    (h : authenticationReplacement original = .ok (replacement, scopedDefaults)) :
    List.Forall₂ SameEnd (splitPhysicalLines original) (splitPhysicalLines replacement) := by
  obtain ⟨_, _, _, _, checked, _, _, _, _, _, htokens, rfl, _⟩ := authenticationReplacement_eq_ok h
  rw [split_join (htokens.shaped (shaped_split original))]
  refine forall₂_mapIdx fun k line hline => ⟨rfl, ?_⟩
  exact getLast?_removeLine (htokens.cushioned hline)

/-! ## The frame as it is cut -/

theorem terminateLast_length (lines : List SudoPhysicalLine) :
    (terminateLast lines).length = lines.length := by
  induction lines with
  | nil => rfl
  | cons line lines ih =>
    cases lines with
    | nil => rfl
    | cons second lines => simpa [terminateLast] using ih

theorem mem_terminateLast {lines : List SudoPhysicalLine} (h : Shaped lines) :
    ∀ line ∈ terminateLast lines, (line ∈ lines ∧ line.terminator ≠ []) ∨
      ∃ last ∈ lines, last.terminator = [] ∧ line = markerLine last.text := by
  induction h with
  | nil => simp [terminateLast]
  | @last line hline =>
    intro x hx
    rw [terminateLast, List.mem_singleton] at hx
    by_cases hterminator : line.terminator = []
    · rw [if_pos (by simp [hterminator])] at hx
      exact .inr ⟨line, by simp, hterminator, hx⟩
    · rw [if_neg (by simpa using hterminator)] at hx
      exact .inl ⟨by simp [hx], hx ▸ hterminator⟩
  | @cons line lines hline hterminator hrest ih =>
    intro x hx
    cases lines with
    | nil =>
      rw [terminateLast, List.mem_singleton, if_neg (by simpa using hterminator)] at hx
      exact .inl ⟨by simp [hx], hx ▸ hterminator⟩
    | cons second lines =>
      rw [terminateLast] at hx
      · rcases List.mem_cons.mp hx with rfl | hx
        · exact .inl ⟨by simp, hterminator⟩
        · rcases ih x hx with ⟨hmem, hx⟩ | ⟨last, hmem, hlast⟩
          · exact .inl ⟨List.mem_cons_of_mem _ hmem, hx⟩
          · exact .inr ⟨last, List.mem_cons_of_mem _ hmem, hlast⟩
      · simp

theorem mem_makeAuthenticationWrapper {id replacement : Bytes}
    (h : line ∈ makeAuthenticationWrapper id original replacement) :
    line = markerLine (authBegin ++ id) ∨ line = markerLine authActive ∨
      line = markerLine (authEnd ++ id) ∨
      (∃ old ∈ splitPhysicalLines original, line = originalLine old) ∨
      line ∈ terminateLast (splitPhysicalLines replacement) := by
  simp only [makeAuthenticationWrapper, List.mem_cons, List.mem_append, List.mem_map,
    List.mem_nil_iff, or_false] at h
  rcases h with h | ⟨old, hold, rfl⟩ | h | h | h
  · exact .inl h
  · exact .inr (.inr (.inr (.inl ⟨old, hold, rfl⟩)))
  · exact .inr (.inl h)
  · exact .inr (.inr (.inr (.inr h)))
  · exact .inr (.inr (.inl h))

theorem originalLine_mem {id replacement : Bytes} (h : line ∈ splitPhysicalLines original) :
    originalLine line ∈ makeAuthenticationWrapper id original replacement := by
  have hmem : originalLine line ∈ (splitPhysicalLines original).map originalLine :=
    List.mem_map.mpr ⟨line, h, rfl⟩
  exact List.mem_cons_of_mem _ (List.mem_append_left _ hmem)

theorem IsLine.getLast?_ne_cr (h : IsLine line) (hterminator : line.terminator = [lf]) :
    line.text.getLast? ≠ some cr := by
  cases h with
  | plain _ hcr => exact hcr
  | returned => cases hterminator
  | unterminated => cases hterminator

theorem noLf_originalLine (h : IsLine line) : lf ∉ (originalLine line).text := by
  have heol : lf ∉ encodeAuthEol line.terminator := by
    rcases h.terminator_cases with ht | ht | ht <;> rw [ht] <;> decide
  have hfixed : lf ∉ authOriginalPrefix ∧ lf ≠ atSign := by decide
  rw [originalLine_text]
  simp [hfixed, heol, h.noLf]

theorem makeAuthenticationWrapper_bytes {id : Bytes} (hid : isCanonicalSudoWrapperId id = true)
    (original replacement : Bytes) :
    ∀ line ∈ makeAuthenticationWrapper id original replacement,
      ∃ text, lf ∉ text ∧ line.bytes = text ++ [lf] := by
  have hidLf : lf ∉ id := (isFieldValue_canonicalId hid).noLf
  have hbegin : lf ∉ authBegin ++ id := by
    have : lf ∉ authBegin := by decide
    simp [this, hidLf]
  have hend : lf ∉ authEnd ++ id := by
    have : lf ∉ authEnd := by decide
    simp [this, hidLf]
  intro line hline
  rcases mem_makeAuthenticationWrapper hline with rfl | rfl | rfl | ⟨old, hold, rfl⟩ | hactive
  · exact ⟨_, hbegin, rfl⟩
  · exact ⟨authActive, by decide, rfl⟩
  · exact ⟨_, hend, rfl⟩
  · exact ⟨_, noLf_originalLine ((shaped_split original).isLine old hold), rfl⟩
  · have hshaped := shaped_split replacement
    rcases mem_terminateLast hshaped line hactive with ⟨hmem, hterminator⟩ | ⟨last, hmem, -, rfl⟩
    · exact (hshaped.isLine line hmem).bytes_eq hterminator
    · exact ⟨last.text, (hshaped.isLine last hmem).noLf, rfl⟩

theorem isLine_idLine {id marker : Bytes} (hid : isCanonicalSudoWrapperId id = true)
    (hmarker : lf ∉ marker) : IsLine (markerLine (marker ++ id)) := by
  have hvalue := isFieldValue_canonicalId hid
  refine .plain (by simp [hmarker, hvalue.noLf]) fun hend => ?_
  rw [List.getLast?_append_of_ne_nil _ hvalue.nonempty] at hend
  exact not_mem_canonicalId hid (by decide) (by decide) (List.mem_of_getLast? hend)

theorem getLast?_originalLine (line : SudoPhysicalLine) :
    (originalLine line).text.getLast? = some cr ↔ line.text.getLast? = some cr := by
  rw [originalLine_text, List.getLast?_append_of_ne_nil _ (by simp),
    List.getLast?_append_of_ne_nil _ (by simp)]
  cases hempty : line.text with
  | nil => simp [show atSign ≠ cr by decide]
  | cons c text => rw [List.getLast?_cons_cons]

/-- Without a carriage return at the end of a text the frame is cut into the lines it was
written with. -/
theorem isLine_makeAuthenticationWrapper {id replacement : Bytes} {scopedDefaults : Bool}
    (hid : isCanonicalSudoWrapperId id = true)
    (h : authenticationReplacement original = .ok (replacement, scopedDefaults))
    (hcr : ∀ line ∈ splitPhysicalLines original, line.text.getLast? ≠ some cr) :
    ∀ line ∈ makeAuthenticationWrapper id original replacement, IsLine line := by
  intro line hline
  rcases mem_makeAuthenticationWrapper hline with rfl | rfl | rfl | ⟨old, hold, rfl⟩ | hactive
  · exact isLine_idLine hid (by decide)
  · exact .plain (by decide) (by decide)
  · exact isLine_idLine hid (by decide)
  · exact .plain (noLf_originalLine ((shaped_split original).isLine old hold))
      fun hend => hcr old hold ((getLast?_originalLine old).mp hend)
  · have hshaped := shaped_split replacement
    rcases mem_terminateLast hshaped line hactive with ⟨hmem, -⟩ | ⟨last, hmem, -, rfl⟩
    · exact hshaped.isLine line hmem
    · obtain ⟨old, hold, -, hsame⟩ := forall₂_right (authenticationReplacement_lines h) last hmem
      exact .plain (hshaped.isLine last hmem).noLf fun hend => hcr old hold (hsame ▸ hend)

/-! ## The round trip -/

/-- The entry lies outside the frames. -/
def OutsideFrames (entry : SudoLogicalEntry) (frames : List AuthenticationWrapper) : Prop :=
  ∀ w ∈ frames, entry.firstPhysicalLine + entry.lineCount ≤ w.first ∨
    w.last < entry.firstPhysicalLine

instance (entry : SudoLogicalEntry) (frames : List AuthenticationWrapper) :
    Decidable (OutsideFrames entry frames) :=
  inferInstanceAs (Decidable (∀ w ∈ frames, _ ∨ _))

def originalBytes (content : Bytes) (entry : SudoLogicalEntry) : Bytes :=
  joinPhysicalLines (originalsOf content entry)

def framed (content : Bytes) (entry : SudoLogicalEntry) (id replacement : Bytes) : Bytes :=
  joinPhysicalLines (linesBefore content entry ++
    makeAuthenticationWrapper id (originalBytes content entry) replacement ++
      linesAfter content entry)

section Framed

variable {content id replacement : Bytes} {entry : SudoLogicalEntry} {scopedDefaults : Bool}
  {frames : List AuthenticationWrapper}

theorem shaped_originalsOf : Shaped (originalsOf content entry) := by
  have hshaped := shaped_split content
  rw [lines_eq content entry] at hshaped
  have hrest := hshaped.of_append_right
  by_cases hafter : linesAfter content entry = []
  · rwa [hafter, List.append_nil] at hrest
  · have hall := shaped_append isLine_originalsOf (hrest.terminated hafter) .nil
    rwa [List.append_nil] at hall

theorem split_originalBytes :
    splitPhysicalLines (originalBytes content entry) = originalsOf content entry :=
  split_join shaped_originalsOf

theorem split_framed (h : entry ∈ assembleSudoLogicalEntries (splitPhysicalLines content))
    (hid : isCanonicalSudoWrapperId id = true) (replacement : Bytes) :
    splitPhysicalLines (framed content entry id replacement) =
      linesBefore content entry ++
        (makeAuthenticationWrapper id (originalBytes content entry) replacement).map recut ++
          linesAfter content entry := by
  have hshaped := shaped_split content
  rw [lines_eq content entry] at hshaped
  exact split_replaced hshaped (originalsOf_ne_nil h) (makeAuthenticationWrapper_bytes hid _ _)

def newFrame (content : Bytes) (entry : SudoLogicalEntry) (id replacement : Bytes)
    (scopedDefaults : Bool) : AuthenticationWrapper :=
  { id
    original := originalBytes content entry
    replacement
    first := entry.firstPhysicalLine
    last := entry.firstPhysicalLine + 2 * entry.lineCount + 2
    scopedDefaults }

theorem newFrame_isFrame (h : entry ∈ assembleSudoLogicalEntries (splitPhysicalLines content))
    (hid : isCanonicalSudoWrapperId id = true)
    (hreplaced : authenticationReplacement (originalBytes content entry) =
      .ok (replacement, scopedDefaults)) :
    IsFrame (newFrame content entry id replacement scopedDefaults) := by
  refine ⟨hid, hreplaced, ?_⟩
  have hcount := originalsOf_length h
  have hlines := (authenticationReplacement_lines hreplaced).length_eq
  rw [split_originalBytes, hcount] at hlines
  simp only [newFrame, AuthenticationWrapper.lines, makeAuthenticationWrapper, List.length_cons,
    List.length_append, List.length_map, List.length_nil, terminateLast_length,
    split_originalBytes, hcount, ← hlines]
  omega

/-- Without a carriage return at the end of a text the old frames are read again, those
behind the entry further down, and the new one between them. -/
theorem parse_framed
    (hparse : parseAuthenticationWrappers (splitPhysicalLines content) = .ok frames)
    (h : entry ∈ assembleSudoLogicalEntries (splitPhysicalLines content))
    (houtside : OutsideFrames entry frames) (hid : isCanonicalSudoWrapperId id = true)
    (hfresh : ∀ w ∈ frames, w.id ≠ id)
    (hreplaced : authenticationReplacement (originalBytes content entry) =
      .ok (replacement, scopedDefaults))
    (hcr : ∀ line ∈ originalsOf content entry, line.text.getLast? ≠ some cr) :
    splitPhysicalLines (framed content entry id replacement) = linesBefore content entry ++
      ((newFrame content entry id replacement scopedDefaults).lines ++ linesAfter content entry) ∧
    ∃ earlier later, frames = earlier ++ later ∧
      parseAuthenticationWrappers (splitPhysicalLines (framed content entry id replacement)) =
        .ok (earlier ++ newFrame content entry id replacement scopedDefaults ::
          later.map (AuthenticationWrapper.shift (entry.lineCount + 3))) := by
  have hfirst := linesBefore_length h
  have hcount := originalsOf_length h
  have hsplit : splitPhysicalLines (framed content entry id replacement) =
      linesBefore content entry ++
        ((newFrame content entry id replacement scopedDefaults).lines ++
          linesAfter content entry) := by
    rw [split_framed h hid, List.append_assoc, map_recut]
    · rfl
    · refine isLine_makeAuthenticationWrapper hid hreplaced ?_
      rw [split_originalBytes]
      exact hcr
  refine ⟨hsplit, ?_⟩
  obtain ⟨hblocks, hnodup⟩ := parseAuthenticationWrappers_eq_ok_iff.mp hparse
  rw [lines_eq content entry] at hblocks
  have hframe := newFrame_isFrame h hid hreplaced
  obtain ⟨earlier, later, rfl, hnew⟩ := hblocks.replace
    (w := newFrame content entry id replacement scopedDefaults) (k := entry.lineCount + 3)
    (by rw [Nat.zero_add, hfirst, hcount]; exact houtside) ⟨rfl, hframe⟩
    (by simp [hfirst, frameReader, newFrame]) (by
      simp only [hfirst, hcount, frameReader, newFrame]
      omega)
  refine ⟨earlier, later, rfl, ?_⟩
  rw [parseAuthenticationWrappers_eq_ok_iff, hsplit]
  refine ⟨hnew, ?_⟩
  have hids : (later.map (AuthenticationWrapper.shift (entry.lineCount + 3))).map (·.id) =
      later.map (·.id) := by
    rw [List.map_map]
    rfl
  rw [List.map_append, List.map_cons, hids]
  rw [List.map_append] at hnodup
  refine List.nodup_middle.mpr (List.nodup_cons.mpr ⟨?_, hnodup⟩)
  rw [← List.map_append]
  intro hmem
  obtain ⟨w, hw, hsame⟩ := List.mem_map.mp hmem
  exact hfresh w hw hsame

theorem restoreFrames_append {prim : ProofPrimitives} {path : Bytes}
    {allowed : List AuthenticationProof} {earlier : List AuthenticationWrapper}
    (h : ∀ w ∈ earlier, w.proof prim path ∉ allowed) (lines : List SudoPhysicalLine)
    (rest : List AuthenticationWrapper) :
    restoreFrames prim path allowed lines (earlier ++ rest) =
      restoreFrames prim path allowed lines rest := by
  induction earlier with
  | nil => rfl
  | cons w earlier ih =>
    obtain ⟨hw, hearlier⟩ := List.forall_mem_cons.mp h
    rw [List.cons_append, restoreFrames, ih hearlier]
    cases restoreFrames prim path allowed lines rest with
    | error e => rfl
    | ok result => simp [bind, Except.bind, hw]

/-- Only the last entry of a file can have an unterminated line. -/
theorem originalsOf_last (hafter : linesAfter content entry ≠ []) :
    ((originalsOf content entry).getLast?).any (·.terminator.isEmpty) = false := by
  have hshaped := shaped_split content
  rw [lines_eq content entry] at hshaped
  have hterminated := hshaped.of_append_right.terminated hafter
  cases hlast : (originalsOf content entry).getLast? with
  | none => rfl
  | some line => simpa using hterminated line (List.mem_of_getLast? hlast)

/-- Framing the entry under a fresh id loses nothing: the file is read with the old frames
and one that carries the id, the bytes of the entry and the replacement, and putting that
one back gives the content back. -/
def FrameRoundTrips (content : Bytes) (entry : SudoLogicalEntry) (id replacement : Bytes)
    (frames : List AuthenticationWrapper) : Prop :=
  ∃ earlier later new, frames = earlier ++ later ∧
    parseAuthenticationWrappers (splitPhysicalLines (framed content entry id replacement)) =
      .ok (earlier ++ new :: later.map (AuthenticationWrapper.shift (entry.lineCount + 3))) ∧
    new.id = id ∧ new.original = originalBytes content entry ∧ new.replacement = replacement ∧
    ∀ prim path, ∃ lines,
      rewriteFrames prim (splitPhysicalLines (framed content entry id replacement)) path
        [new.proof prim path] = .ok (lines, true) ∧ joinPhysicalLines lines = content

/-- Putting the new frame back gives the lines of the content. -/
theorem rewriteFrames_framed {earlier later : List AuthenticationWrapper}
    (h : entry ∈ assembleSudoLogicalEntries (splitPhysicalLines content))
    (hid : isCanonicalSudoWrapperId id = true)
    (hfresh : ∀ w ∈ earlier ++ later, w.id ≠ id)
    (hreplaced : authenticationReplacement (originalBytes content entry) =
      .ok (replacement, scopedDefaults))
    (hsplit : splitPhysicalLines (framed content entry id replacement) =
      linesBefore content entry ++
      ((newFrame content entry id replacement scopedDefaults).lines ++ linesAfter content entry))
    (hparse : parseAuthenticationWrappers
      (splitPhysicalLines (framed content entry id replacement)) =
        .ok (earlier ++ newFrame content entry id replacement scopedDefaults ::
          later.map (AuthenticationWrapper.shift (entry.lineCount + 3))))
    (prim : ProofPrimitives) (path : Bytes) :
    rewriteFrames prim (splitPhysicalLines (framed content entry id replacement)) path
        [(newFrame content entry id replacement scopedDefaults).proof prim path] =
      .ok (splitPhysicalLines content, true) := by
  have hfirst := linesBefore_length h
  have hlast := (newFrame_isFrame h hid hreplaced).last_eq
  have hother : ∀ w : AuthenticationWrapper, w.id ≠ id → w.proof prim path ∉
      [(newFrame content entry id replacement scopedDefaults).proof prim path] := by
    intro w hw hmem
    exact hw (congrArg AuthenticationProof.wrapperId (List.mem_singleton.mp hmem))
  have hearlier := fun w hw => hother w (hfresh w (List.mem_append_left _ hw))
  have hlater : ∀ w ∈ later.map (AuthenticationWrapper.shift (entry.lineCount + 3)),
      w.proof prim path ∉
        [(newFrame content entry id replacement scopedDefaults).proof prim path] := by
    intro w hw
    obtain ⟨v, hv, rfl⟩ := List.mem_map.mp hw
    exact hother _ (hfresh v (List.mem_append_right _ hv))
  have hnone := restoreFrames_append hlater
    (splitPhysicalLines (framed content entry id replacement)) []
  rw [List.append_nil] at hnone
  rw [rewriteFrames, hparse]
  change restoreFrames prim path _ _ _ = _
  rw [restoreFrames_append hearlier, restoreFrames, hnone, restoreFrames]
  simp only [bind, Except.bind]
  rw [if_neg (by simp)]
  have horiginals : splitPhysicalLines
      (newFrame content entry id replacement scopedDefaults).original =
      originalsOf content entry := split_originalBytes
  rw [horiginals, if_neg ?_]
  · have htake : (splitPhysicalLines (framed content entry id replacement)).take
        (newFrame content entry id replacement scopedDefaults).first =
          linesBefore content entry := by
      rw [hsplit]
      exact List.take_left' hfirst
    have hdrop : (splitPhysicalLines (framed content entry id replacement)).drop
        ((newFrame content entry id replacement scopedDefaults).last + 1) =
          linesAfter content entry := by
      rw [hsplit, hlast, ← List.append_assoc]
      refine List.drop_left' ?_
      rw [List.length_append, hfirst]
      rfl
    rw [htake, hdrop, List.append_assoc, ← lines_eq]
  · by_cases hafter : linesAfter content entry = []
    · have hlength : (newFrame content entry id replacement scopedDefaults).last + 1 =
          (splitPhysicalLines (framed content entry id replacement)).length := by
        rw [hlast, hsplit, hafter, List.append_nil, List.length_append, hfirst]
        rfl
      simp [hlength]
    · simp [originalsOf_last hafter]

/-- Framing an entry loses nothing exactly when no line of the entry has a text that ends
in a carriage return. -/
theorem makeAuthenticationWrapper_roundTrips_iff (content id replacement : Bytes)
    (scopedDefaults : Bool) (frames : List AuthenticationWrapper) (entry : SudoLogicalEntry)
    (hparse : parseAuthenticationWrappers (splitPhysicalLines content) = .ok frames)
    (hentry : entry ∈ assembleSudoLogicalEntries (splitPhysicalLines content))
    (houtside : OutsideFrames entry frames) (hid : isCanonicalSudoWrapperId id = true)
    (hfresh : ∀ w ∈ frames, w.id ≠ id)
    (hreplaced : authenticationReplacement (originalBytes content entry) =
      .ok (replacement, scopedDefaults)) :
    FrameRoundTrips content entry id replacement frames ↔
      ∀ line ∈ originalsOf content entry, line.text.getLast? ≠ some cr := by
  constructor
  · rintro ⟨earlier, later, new, -, hread, -, horiginal, -⟩ line hline hcr
    -- The frame that is read holds the line in front of a line feed, and no line of a file
    -- is such a line.
    have hmem : originalLine line ∈ splitPhysicalLines (framed content entry id replacement) := by
      obtain ⟨hblocks, -⟩ := parseAuthenticationWrappers_eq_ok_iff.mp hread
      refine hblocks.mem_of_block (w := new) (by simp) fun block hblock => ?_
      rw [hblock.1, AuthenticationWrapper.lines, horiginal]
      exact originalLine_mem (split_originalBytes ▸ hline)
    have hisLine := (shaped_split _).isLine _ hmem
    exact hisLine.getLast?_ne_cr rfl ((getLast?_originalLine line).mpr hcr)
  · intro hcr
    obtain ⟨hsplit, earlier, later, rfl, hread⟩ :=
      parse_framed hparse hentry houtside hid hfresh hreplaced hcr
    refine ⟨earlier, later, _, rfl, hread, rfl, rfl, rfl, fun prim path => ?_⟩
    refine ⟨splitPhysicalLines content, ?_, join_split content⟩
    exact rewriteFrames_framed hentry hid hfresh hreplaced hsplit hread prim path

end Framed

def sampleFirstRule : SudoLogicalEntry := startEntry 0 ⟨lit "v ALL=NOPASSWD: ALL", crLf⟩

def sampleGrants : Bytes := lit "v ALL=NOPASSWD: ALL\r\nu ALL=NOPASSWD: ALL"

/-- The first rule is framed already. -/
theorem makeAuthenticationWrapper_roundTrips_unterminated :
    FrameRoundTrips
      (framed sampleGrants sampleFirstRule (lit "FIC-SUDO-1-1-1-1-1")
        (lit "v ALL=PASSWD: ALL\r\n"))
      (startEntry 5 ⟨lit "u ALL=NOPASSWD: ALL", []⟩) sampleWrapperId (lit "u ALL=PASSWD: ALL")
      [newFrame sampleGrants sampleFirstRule (lit "FIC-SUDO-1-1-1-1-1")
        (lit "v ALL=PASSWD: ALL\r\n") false] :=
  (makeAuthenticationWrapper_roundTrips_iff _ _ _ false _ _ (by decide +kernel) (by decide +kernel)
    (by decide +kernel) (by decide +kernel) (by decide +kernel) (by decide +kernel)).mpr
    (by decide +kernel)

/-- A text that ends in a carriage return is written into a frame that is refused. -/
theorem makeAuthenticationWrapper_loses_cr :
    parseAuthenticationWrappers (splitPhysicalLines (lit "u ALL=NOPASSWD: ALL\r\r\n")) = .ok [] ∧
    startEntry 0 ⟨lit "u ALL=NOPASSWD: ALL\r", crLf⟩ ∈
      assembleSudoLogicalEntries (splitPhysicalLines (lit "u ALL=NOPASSWD: ALL\r\r\n")) ∧
    authenticationReplacement (lit "u ALL=NOPASSWD: ALL\r\r\n") =
      .ok (lit "u ALL=PASSWD: ALL\r\r\n", false) ∧
    ¬ FrameRoundTrips (lit "u ALL=NOPASSWD: ALL\r\r\n")
      (startEntry 0 ⟨lit "u ALL=NOPASSWD: ALL\r", crLf⟩) sampleWrapperId
      (lit "u ALL=PASSWD: ALL\r\r\n") [] := by
  refine ⟨by decide +kernel, by decide +kernel, by decide +kernel, ?_⟩
  rintro ⟨earlier, later, new, -, hread, -⟩
  have hrefused : (parseAuthenticationWrappers (splitPhysicalLines (framed
      (lit "u ALL=NOPASSWD: ALL\r\r\n") (startEntry 0 ⟨lit "u ALL=NOPASSWD: ALL\r", crLf⟩)
      sampleWrapperId (lit "u ALL=PASSWD: ALL\r\r\n")))).toOption = none := by decide +kernel
  rw [hread] at hrefused
  cases hrefused

end Fic.Sudo
