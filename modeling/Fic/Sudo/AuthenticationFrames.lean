import Fic.Sudo.AuthenticationReplacement
import Fic.Sudo.AuthenticationWrapper
import Fic.Sudo.DisabledRoundTrip

/-!
# The layout of a file with frames

A file is accepted by `parseAuthenticationWrappers` exactly when it is made of lines that
are no markers and of frames as `makeAuthenticationWrapper` writes them, with different
ids (`parseAuthenticationWrappers_eq_ok_iff`).
-/

namespace Fic.Sudo

open Fic.Lib
open Fic.Journal (AuthenticationProof isCanonicalSudoWrapperId)

variable {wrappers : List AuthenticationWrapper} {ids : List Bytes} {rest : List SudoPhysicalLine}
  {index : Nat}
  {w : AuthenticationWrapper} {line : SudoPhysicalLine}

/-! ## Reading what was written -/

theorem originalLine_text (line : SudoPhysicalLine) : (originalLine line).text =
    authOriginalPrefix ++ (encodeAuthEol line.terminator ++ atSign :: line.text) := by
  have hsign : lit "@" = [atSign] := by decide
  simp [originalLine, markerLine, hsign]

theorem decode_encodeAuthEol (h : IsLine line) :
    decodeAuthEol (encodeAuthEol line.terminator) = some line.terminator ∧
      atSign ∉ encodeAuthEol line.terminator := by
  rcases h.terminator_cases with ht | ht | ht <;> rw [ht] <;> decide

theorem readOriginal_originalLine (h : IsLine line) :
    readOriginal (originalLine line).text = .ok line := by
  obtain ⟨hdecode, hsign⟩ := decode_encodeAuthEol h
  unfold readOriginal
  dsimp only
  rw [originalLine_text, List.drop_left, takeWhile_cut hsign, dropWhile_cut hsign, hdecode]
  simp

theorem readOriginals_originalLines {originals : List SudoPhysicalLine}
    (h : ∀ line ∈ originals, IsLine line) (rest : List SudoPhysicalLine) :
    readOriginals (originals.map originalLine ++ markerLine authActive :: rest) =
      .ok originals := by
  induction originals with
  | nil =>
    have hactive : ¬authOriginalPrefix <+: (markerLine authActive).text := by decide
    rw [List.map_nil, List.nil_append, readOriginals, if_neg hactive]
  | cons line originals ih =>
    obtain ⟨hline, horiginals⟩ := List.forall_mem_cons.mp h
    have hstarts : authOriginalPrefix <+: (originalLine line).text := by
      rw [originalLine_text]
      exact List.prefix_append _ _
    rw [List.map_cons, List.cons_append, readOriginals, if_pos hstarts,
      readOriginal_originalLine hline, ih horiginals]
    rfl

theorem Shaped.dropLast_terminated {lines : List SudoPhysicalLine} (h : Shaped lines) :
    lines.dropLast.any (·.terminator.isEmpty) = false := by
  induction h with
  | nil => rfl
  | last => rfl
  | @cons line lines _ hterminated _ ih =>
    cases lines with
    | nil => rfl
    | cons second lines =>
      rw [List.dropLast_cons_cons, List.any_cons, ih, Bool.or_false]
      simpa using hterminated

theorem ne_nil_of_replacement {original replacement : Bytes} {scopedDefaults : Bool}
    (h : authenticationReplacement original = .ok (replacement, scopedDefaults)) :
    splitPhysicalLines original ≠ [] := by
  intro hnil
  simp [authenticationReplacement, hnil, assembleSudoLogicalEntries, assembleFrom] at h

/-! ## Frames -/

def AuthenticationWrapper.lines (w : AuthenticationWrapper) : List SudoPhysicalLine :=
  makeAuthenticationWrapper w.id w.original w.replacement

/-- What the reader reports a frame for. -/
structure IsFrame (w : AuthenticationWrapper) : Prop where
  canonical : isCanonicalSudoWrapperId w.id = true
  replaced : authenticationReplacement w.original = .ok (w.replacement, w.scopedDefaults)
  last_eq : w.last + 1 = w.first + w.lines.length

def AuthenticationWrapper.shift (k : Nat) (w : AuthenticationWrapper) : AuthenticationWrapper :=
  { w with first := w.first + k, last := w.last + k }

def frameReader : BlockReader SudoPhysicalLine AuthenticationWrapper where
  foreign line := startsAuthMarker line.text = false
  isBlock w block := block = w.lines ∧ IsFrame w
  first := AuthenticationWrapper.first
  last := AuthenticationWrapper.last
  shift := AuthenticationWrapper.shift
  last_eq := by
    rintro w block ⟨rfl, hframe⟩
    exact hframe.last_eq
  first_lt := by
    rintro w block ⟨rfl, hframe⟩
    have hlast := hframe.last_eq
    simp only [AuthenticationWrapper.lines, makeAuthenticationWrapper, List.length_cons,
      List.length_append, List.length_nil] at hlast
    omega
  first_shift _ _ := rfl
  last_shift _ _ := rfl
  isBlock_shift := by
    rintro k w block ⟨rfl, hframe⟩
    refine ⟨rfl, hframe.canonical, hframe.replaced, ?_⟩
    have hlast := hframe.last_eq
    simp only [AuthenticationWrapper.shift, AuthenticationWrapper.lines] at hlast ⊢
    omega

variable {lines : List SudoPhysicalLine}

theorem startsAuthMarker_begin (id : Bytes) : startsAuthMarker (authBegin ++ id) = true := by
  have hstart : (authBegin ++ id).dropWhile isMarkerBlank = authBegin ++ id := rfl
  rw [startsAuthMarker, hstart, decide_eq_true_eq]
  exact List.IsPrefix.trans (by decide) (List.prefix_append authBegin id)

theorem readFrame_lines (hframe : IsFrame w) (hid : w.id ∉ ids)
    (hlines : line :: lines = w.lines ++ rest) :
    startsAuthMarker line.text = true ∧ readFrame ids w.first line lines = .ok w := by
  have hshaped := shaped_split w.original
  have hwhole := hlines
  unfold AuthenticationWrapper.lines makeAuthenticationWrapper at hwhole
  rw [List.cons_append, List.append_assoc, List.cons_append] at hwhole
  obtain ⟨hbegin, hlist⟩ := List.cons.inj hwhole
  have htext : line.text = authBegin ++ w.id := by rw [hbegin]; rfl
  have hoffset : line.text.drop authBegin.length = w.id := by rw [htext, List.drop_left]
  refine ⟨by rw [htext, startsAuthMarker_begin], ?_⟩
  have hstart : line.text.dropWhile isMarkerBlank = line.text := by rw [htext]; rfl
  have hbeginPrefix : authBegin <+: line.text := by rw [htext]; exact List.prefix_append _ _
  have horiginals : readOriginals lines = .ok (splitPhysicalLines w.original) := by
    rw [hlist]
    exact readOriginals_originalLines hshaped.isLine _
  have hactive : (lines[(splitPhysicalLines w.original).length]?).map (·.text) =
      some authActive := by
    rw [hlist, List.getElem?_append_right (by simp)]
    simp [markerLine]
  have hnew : (!isCanonicalSudoWrapperId w.id || ids.contains w.id) = false := by
    simp [hframe.canonical, hid]
  have hlast := hframe.last_eq
  have hlength : (line :: lines).length = w.lines.length + rest.length := by
    rw [hlines, List.length_append]
  have htake : w.lines = (line :: lines).take w.lines.length := by rw [hlines, List.take_left]
  have hjoin := join_split w.original
  unfold AuthenticationWrapper.lines at hlast hlength htake
  rw [List.length_cons] at hlength
  unfold readFrame
  rw [if_neg (by simpa using hstart), if_neg (by simpa using hbeginPrefix)]
  rw [hoffset, if_neg (by rw [hnew]; decide), horiginals]
  simp only [bind, Except.bind]
  rw [if_neg (by simp [hactive, ne_nil_of_replacement hframe.replaced]),
    if_neg (by rw [hshaped.dropLast_terminated]; decide), hjoin, hframe.replaced]
  dsimp only
  rw [if_neg (by omega), if_neg (by simpa using htake)]
  have hindex : w.first + (makeAuthenticationWrapper w.id w.original w.replacement).length - 1 =
      w.last := by omega
  rw [hindex]

/-- Everything the reader checks of a frame. -/
theorem readFrame_eq_ok (h : readFrame ids index line lines = .ok w) :
    IsFrame w ∧ w.first = index ∧ w.id ∉ ids ∧ ∃ rest, line :: lines = w.lines ++ rest := by
  unfold readFrame at h
  dsimp only at h
  generalize line.text.drop authBegin.length = id at h
  split_ifs at h with hindented hbegin hid
  obtain ⟨originals, -, h⟩ := except_bind_eq_ok.mp h
  split_ifs at h
  rw [except_bind_eq_ok] at h
  obtain ⟨⟨replacement, scopedDefaults⟩, hreplaced, h⟩ := h
  dsimp only at h
  split_ifs at h with hlong hsame
  obtain rfl := Except.ok.inj h
  simp only [Bool.or_eq_true, Bool.not_eq_true', not_or, Bool.not_eq_false,
    List.contains_iff_mem] at hid
  refine ⟨⟨hid.1, hreplaced, ?_⟩, rfl, hid.2, (line :: lines).drop
    (makeAuthenticationWrapper id (joinPhysicalLines originals) replacement).length, ?_⟩
  · have hpos :
        0 < (makeAuthenticationWrapper id (joinPhysicalLines originals) replacement).length := by
      simp [makeAuthenticationWrapper]
    simp only [AuthenticationWrapper.lines]
    omega
  · have htake := List.take_append_drop
      (makeAuthenticationWrapper id (joinPhysicalLines originals) replacement).length
        (line :: lines)
    rw [← not_not.mp hsame] at htake
    exact htake.symm

theorem parseFrames_skip (ids : List Bytes) (index : Nat) (a l : List SudoPhysicalLine) :
    parseFrames ids index a.length (a ++ l) = parseFrames ids (index + a.length) 0 l := by
  induction a generalizing index with
  | nil => rfl
  | cons line a ih =>
    rw [List.length_cons, List.cons_append, parseFrames, ih]
    congr 1
    omega

theorem parseFrames_behind (hframe : IsFrame w)
    (hlines : line :: lines = w.lines ++ rest) (ids : List Bytes) :
    parseFrames ids (w.first + 1) (w.last - w.first) lines =
      parseFrames ids (w.last + 1) 0 rest := by
  have hlast := hframe.last_eq
  obtain ⟨x, tail, htail⟩ : ∃ x tail, w.lines = x :: tail := ⟨_, _, rfl⟩
  rw [htail, List.cons_append] at hlines
  rw [htail, List.length_cons] at hlast
  obtain ⟨-, rfl⟩ := List.cons.inj hlines
  have hskip : w.last - w.first = tail.length := by omega
  have hend : w.first + 1 + tail.length = w.last + 1 := by omega
  rw [hskip, parseFrames_skip, hend]

theorem blocks_of_parseFrames {n : Nat} : ∀ {ids : List Bytes} {index : Nat}
    {lines : List SudoPhysicalLine} {wrappers : List AuthenticationWrapper}, lines.length ≤ n →
    parseFrames ids index 0 lines = .ok wrappers → Blocks frameReader index lines wrappers ∧
      (wrappers.map (·.id)).Nodup ∧ ∀ w ∈ wrappers, w.id ∉ ids := by
  induction n with
  | zero =>
    intro ids index lines wrappers hlength h
    obtain rfl : lines = [] := List.eq_nil_of_length_eq_zero (Nat.le_zero.mp hlength)
    obtain rfl := Except.ok.inj h
    exact ⟨.nil index, .nil, by simp⟩
  | succ n ih =>
    intro ids index lines wrappers hlength h
    cases lines with
    | nil =>
      obtain rfl := Except.ok.inj h
      exact ⟨.nil index, .nil, by simp⟩
    | cons line lines =>
      rw [List.length_cons] at hlength
      rw [parseFrames] at h
      by_cases hmarker : startsAuthMarker line.text = true
      · rw [if_neg (by simpa using hmarker), except_bind_eq_ok] at h
        obtain ⟨w, hw, h⟩ := h
        rw [except_bind_eq_ok] at h
        obtain ⟨rest, hrest, hok⟩ := h
        obtain rfl := Except.ok.inj hok
        obtain ⟨hframe, rfl, hid, tail, hlines⟩ := readFrame_eq_ok hw
        rw [parseFrames_behind hframe hlines] at hrest
        have hshorter : tail.length ≤ n := by
          have hsum := congrArg List.length hlines
          simp only [List.length_cons, List.length_append, AuthenticationWrapper.lines,
            makeAuthenticationWrapper] at hsum
          omega
        obtain ⟨hblocks, hnodup, hfresh⟩ := ih hshorter hrest
        rw [hlines]
        refine ⟨.block ⟨rfl, hframe⟩ hblocks, List.nodup_cons.mpr ⟨?_, hnodup⟩,
          List.forall_mem_cons.mpr
            ⟨hid, fun v hv hmem => hfresh v hv (List.mem_cons_of_mem _ hmem)⟩⟩
        intro hmem
        obtain ⟨v, hv, hsame⟩ := List.mem_map.mp hmem
        exact hfresh v hv (by simp [hsame])
      · rw [if_pos (by simpa using hmarker)] at h
        obtain ⟨hblocks, hids⟩ := ih (by omega) h
        have hforeign : startsAuthMarker line.text = false := by simpa using hmarker
        exact ⟨.foreign hforeign hblocks, hids⟩

theorem parseFrames_of_blocks (h : Blocks frameReader index lines wrappers) :
    ∀ {ids : List Bytes}, (wrappers.map (·.id)).Nodup → (∀ w ∈ wrappers, w.id ∉ ids) →
      parseFrames ids index 0 lines = .ok wrappers := by
  induction h with
  | nil index => exact fun _ _ => rfl
  | foreign hline _ ih =>
    intro ids hnodup hfresh
    have hforeign : startsAuthMarker _ = false := hline
    rw [parseFrames, if_pos (by simp [hforeign])]
    exact ih hnodup hfresh
  | @block w block lines wrappers hblock _ ih =>
    intro ids hnodup hfresh
    obtain ⟨rfl, hframe⟩ := hblock
    obtain ⟨hid, hnodup⟩ := List.nodup_cons.mp hnodup
    obtain ⟨hnew, hfresh⟩ := List.forall_mem_cons.mp hfresh
    obtain ⟨line, tail, htail⟩ : ∃ line tail, w.lines ++ lines = line :: tail := ⟨_, _, rfl⟩
    obtain ⟨hmarker, hread⟩ := readFrame_lines hframe hnew htail.symm
    have hrest : parseFrames (w.id :: ids) (w.last + 1) 0 lines = .ok wrappers := by
      refine ih hnodup fun v hv hmem => ?_
      rcases List.mem_cons.mp hmem with hsame | hmem
      · exact hid (List.mem_map.mpr ⟨v, hv, hsame⟩)
      · exact hfresh v hv hmem
    rw [← parseFrames_behind hframe htail.symm] at hrest
    change parseFrames ids w.first 0 (w.lines ++ lines) = _
    rw [htail, parseFrames, if_neg (by simp [hmarker]), hread]
    simp only [bind, Except.bind, hrest]

/-- The reader accepts a file exactly when it is made of foreign lines and frames with
different ids. -/
theorem parseAuthenticationWrappers_eq_ok_iff : parseAuthenticationWrappers lines = .ok wrappers ↔
      Blocks frameReader 0 lines wrappers ∧ (wrappers.map (·.id)).Nodup := by
  constructor
  · intro h
    obtain ⟨hblocks, hnodup, -⟩ := blocks_of_parseFrames le_rfl h
    exact ⟨hblocks, hnodup⟩
  · rintro ⟨hblocks, hnodup⟩
    exact parseFrames_of_blocks hblocks hnodup (by simp)

end Fic.Sudo
