import Fic.Lib.Trim
import Fic.Pam.ProviderBlock.Markers

/-!
# Suppression wrappers

While a presence flag is disabled, every foreign line that would still enable
it is wrapped in place into a FIC-owned comment that carries the line's exact
text.  This file embeds the scanner that finds such lines
(`pamProviderFlagLineIsActiveOccurrence`), the split of a physical line into
text and terminator, and the writer and strict reader of the wrapper.

`parsePamProviderSuppressionWrapper_line` is the round trip: the reader gives
back every field of a wrapper written for an active occurrence whose text
holds neither a line feed nor a NUL byte.
`nextPamProviderSuppressionId_fresh_iff` says when the next id is fresh.
-/

namespace Fic.Pam

open Fic.Lib

variable {text : Bytes} {c : UInt8} {p : UInt8 → Bool}

/-- One proven suppression wrapper outside the block.  `rawLine` is the
embedded text, `lineIndex` the wrapper's physical line. -/
structure PamProviderSuppressedLine where
  provider : Bytes := []
  policy : Bytes := []
  managedKey : Bytes := []
  mutationId : UInt64 := 0
  suppressionId : Bytes := []
  rawLine : Bytes := []
  lineIndex : Nat := 0
  deriving DecidableEq, Repr

/-! ## Active occurrences of a flag -/

def pamProviderFlagKeyMatchIgnoreCase (provider : Bytes) : Bool :=
  provider = lit "pam_pwquality" || provider = lit "pam_pwhistory"

/-- The first key token of a line: leading white space and everything behind
`#` are not part of it, and white space or `=` ends it. -/
def flagLineKey (physicalLine : Bytes) : Bytes :=
  ((physicalLine.takeWhile fun c => c != '#'.toUInt8).dropWhile isSpace).takeWhile
    fun c => !isSpace c && c != '='.toUInt8

def pamProviderFlagLineIsActiveOccurrence (provider physicalLine managedKey : Bytes) :
    Bool :=
  if !isValidPamProviderManagedKey managedKey then false
  else if ((physicalLine.takeWhile fun c => c != '#'.toUInt8).dropWhile isSpace).isEmpty then
    false -- blank or comment-only line
  else
    let key := flagLineKey physicalLine
    if key.length ≠ managedKey.length then false
    else
      (key.zip managedKey).all fun pair =>
        pair.1 == pair.2 ||
          (pamProviderFlagKeyMatchIgnoreCase provider &&
            lowerAscii pair.1 == lowerAscii pair.2)

/-! ## The wrapper -/

/-- Cuts a physical line into text and exact terminator. -/
def splitPhysicalLine (physical : Bytes) : Bytes × Bytes :=
  if physical.getLast? = some lf then
    let text := physical.dropLast
    if text.getLast? = some cr then (text.dropLast, [cr, lf]) else (text, [lf])
  else if physical.getLast? = some cr then (physical.dropLast, [cr])
  else (physical, [])

def pamProviderSuppressionWrapperLine (provider policy managedKey : Bytes)
    (mutationId : UInt64) (suppressionId rawLine : Bytes) : Bytes :=
  kPamProviderSuppressMarkerPrefix ++ provider ++ lit " policy=" ++ policy ++
    lit " key=" ++ managedKey ++ lit " mutation=" ++ toDecimal mutationId.toNat ++
    lit " suppression=" ++ suppressionId ++ lit " raw=" ++ rawLine

/-- Reads `name=` and the text up to the next blank. -/
def readTokenField (name rest : Bytes) : Except Bytes (Bytes × Bytes) :=
  let field := name ++ lit "="
  if ¬ field <+: rest then
    .error (lit "FIC PAM suppression wrapper: expected " ++ name ++ lit "= field")
  else
    let rest := rest.drop field.length
    match Bytes.find (lit " ") rest with
    | none =>
      .error (lit "FIC PAM suppression wrapper: missing " ++ name ++
        lit "= field terminator")
    | some space => .ok (rest.take space, rest.drop (space + 1))

/-- The checks on the fields of a wrapper whose layout was recognised. -/
def checkSuppressionFields (provider policy key mutation suppression raw : Bytes) :
    Except Bytes PamProviderSuppressedLine :=
  if !isValidPamProviderIdentityToken policy then
    .error (lit "FIC PAM suppression wrapper: invalid policy identity")
  else if !isValidPamProviderManagedKey key then
    .error (lit "FIC PAM suppression wrapper: invalid managed key")
  else
    match parsePhysicalMutationId mutation with
    | .error mutationError =>
      .error (lit "FIC PAM suppression wrapper: " ++ mutationError)
    | .ok mutationId =>
      if !isValidPamProviderSuppressionId suppression then
        .error (lit "FIC PAM suppression wrapper: invalid suppression id")
      else if raw.isEmpty || raw.contains lf || raw.contains 0 then
        .error (lit ("FIC PAM suppression wrapper: embedded raw line must be a " ++
          "single non-empty physical line"))
      else if !pamProviderFlagLineIsActiveOccurrence provider raw key then
        .error (lit ("FIC PAM suppression wrapper: embedded raw line is not an " ++
          "active occurrence of the managed key ") ++ key ++ lit " (fail closed)")
      else
        .ok
          { provider := provider
            policy := policy
            managedKey := key
            mutationId := mutationId
            suppressionId := suppression
            rawLine := raw }

def parsePamProviderSuppressionWrapper (physicalLine : Bytes) :
    Except Bytes PamProviderSuppressedLine := do
  let rest ←
    match markerRest kPamProviderSuppressMarkerPrefix physicalLine with
    | none => .error (lit "line is not a canonical FIC PAM suppression wrapper")
    | some rest => .ok rest
  let (provider, rest) ←
    match Bytes.find (lit " ") rest with
    | none => .error (lit "FIC PAM suppression wrapper: missing provider field")
    | some providerEnd => .ok (rest.take providerEnd, rest.drop (providerEnd + 1))
  if !isValidPamProviderIdentityToken provider then
    .error (lit "FIC PAM suppression wrapper: invalid provider identity")
  else
    let (policy, rest) ← readTokenField (lit "policy") rest
    let (key, rest) ← readTokenField (lit "key") rest
    let (mutation, rest) ← readTokenField (lit "mutation") rest
    let (suppression, rest) ← readTokenField (lit "suppression") rest
    if ¬ lit "raw=" <+: rest then
      .error (lit "FIC PAM suppression wrapper: raw= must be the last field delimiter")
    else
      checkSuppressionFields provider policy key mutation suppression (rest.drop 4)

/-! ## Splitting a physical line -/

theorem splitPhysicalLine_crlf (text : Bytes) :
    splitPhysicalLine (text ++ [cr, lf]) = (text, [cr, lf]) := by
  have hdrop : (text ++ [cr, lf]).dropLast = text ++ [cr] := by
    rw [show text ++ [cr, lf] = (text ++ [cr]) ++ [lf] by simp, List.dropLast_concat]
  simp [splitPhysicalLine, hdrop]

theorem splitPhysicalLine_lf (h : text.getLast? ≠ some cr) :
    splitPhysicalLine (text ++ [lf]) = (text, [lf]) := by
  simp [splitPhysicalLine, h]

theorem splitPhysicalLine_cr (text : Bytes) :
    splitPhysicalLine (text ++ [cr]) = (text, [cr]) := by
  have hne : cr ≠ lf := by decide
  simp [splitPhysicalLine, hne]

theorem splitPhysicalLine_bare (hlf : text.getLast? ≠ some lf) (hcr : text.getLast? ≠ some cr) :
    splitPhysicalLine text = (text, []) := by
  simp [splitPhysicalLine, hlf, hcr]

/-- The four ways a physical line can end. -/
theorem splitPhysicalLine_cases (physical : Bytes) :
    (∃ text, physical = text ++ [cr, lf]) ∨
    (∃ text, physical = text ++ [lf] ∧ text.getLast? ≠ some cr) ∨
    (∃ text, physical = text ++ [cr]) ∨
    (physical.getLast? ≠ some lf ∧ physical.getLast? ≠ some cr) := by
  by_cases hlf : physical.getLast? = some lf
  · obtain ⟨text, rfl⟩ := List.getLast?_eq_some_iff.mp hlf
    by_cases hcr : text.getLast? = some cr
    · obtain ⟨text, rfl⟩ := List.getLast?_eq_some_iff.mp hcr
      exact .inl ⟨text, by simp⟩
    · exact .inr (.inl ⟨text, rfl, hcr⟩)
  · by_cases hcr : physical.getLast? = some cr
    · obtain ⟨text, rfl⟩ := List.getLast?_eq_some_iff.mp hcr
      exact .inr (.inr (.inl ⟨text, rfl⟩))
    · exact .inr (.inr (.inr ⟨hlf, hcr⟩))

theorem splitPhysicalLine_append (physical : Bytes) :
    (splitPhysicalLine physical).1 ++ (splitPhysicalLine physical).2 = physical := by
  rcases splitPhysicalLine_cases physical with ⟨text, rfl⟩ | ⟨text, rfl, h⟩ | ⟨text, rfl⟩ | h
  · rw [splitPhysicalLine_crlf]
  · rw [splitPhysicalLine_lf h]
  · rw [splitPhysicalLine_cr]
  · rw [splitPhysicalLine_bare h.1 h.2, List.append_nil]

theorem splitPhysicalLine_terminator (physical : Bytes) :
    (splitPhysicalLine physical).2.all isLineEnd = true := by
  rcases splitPhysicalLine_cases physical with ⟨text, rfl⟩ | ⟨text, rfl, h⟩ | ⟨text, rfl⟩ | h
  · rw [splitPhysicalLine_crlf]
    rfl
  · rw [splitPhysicalLine_lf h]
    rfl
  · rw [splitPhysicalLine_cr]
    rfl
  · rw [splitPhysicalLine_bare h.1 h.2]
    rfl

/-- Text in front of a non-empty line text does not move the cut. -/
theorem splitPhysicalLine_front (front : Bytes) {physical : Bytes}
    (h : (splitPhysicalLine physical).1 ≠ []) :
    splitPhysicalLine (front ++ physical) =
      (front ++ (splitPhysicalLine physical).1, (splitPhysicalLine physical).2) := by
  rcases splitPhysicalLine_cases physical with
    ⟨text, rfl⟩ | ⟨text, rfl, hcr⟩ | ⟨text, rfl⟩ | ⟨hlf, hcr⟩
  · rw [← List.append_assoc, splitPhysicalLine_crlf, splitPhysicalLine_crlf]
  · rw [splitPhysicalLine_lf hcr] at h ⊢
    rw [← List.append_assoc, splitPhysicalLine_lf]
    rwa [List.getLast?_append_of_ne_nil _ h]
  · rw [← List.append_assoc, splitPhysicalLine_cr, splitPhysicalLine_cr]
  · rw [splitPhysicalLine_bare hlf hcr] at h ⊢
    refine splitPhysicalLine_bare ?_ ?_ <;> rwa [List.getLast?_append_of_ne_nil _ h]

theorem splitPhysicalLine_concat_lf {physical : Bytes} (h : lf ∉ physical) :
    splitPhysicalLine (physical ++ [lf]) =
      ((splitPhysicalLine physical).1, (splitPhysicalLine physical).2 ++ [lf]) := by
  rcases splitPhysicalLine_cases physical with
    ⟨text, rfl⟩ | ⟨text, rfl, -⟩ | ⟨text, rfl⟩ | ⟨hlf, hcr⟩
  · simp at h
  · simp at h
  · rw [splitPhysicalLine_cr, List.append_assoc]
    exact splitPhysicalLine_crlf text
  · rw [splitPhysicalLine_bare hlf hcr, splitPhysicalLine_lf hcr]
    rfl

/-! ## Active occurrences and trailing white space -/

private theorem takeWhile_concat_neg (text : Bytes) (h : p c = false) :
    (text ++ [c]).takeWhile p = text.takeWhile p := by
  rw [List.takeWhile_append]
  split_ifs with hall
  · rw [List.takeWhile_cons, h, if_neg Bool.false_ne_true, List.append_nil,
      (List.takeWhile_prefix p).eq_of_length hall]
  · rfl

theorem activeOccurrence_concat_space (provider managedKey text : Bytes)
    (hspace : isSpace c = true) :
    pamProviderFlagLineIsActiveOccurrence provider (text ++ [c]) managedKey =
      pamProviderFlagLineIsActiveOccurrence provider text managedKey := by
  have hhash : (c != '#'.toUInt8) = true := bne_iff_ne.mpr fun h => by
    rw [h] at hspace
    exact absurd hspace (by decide)
  have hstop : (!isSpace c && c != '='.toUInt8) = false := by simp [hspace]
  unfold pamProviderFlagLineIsActiveOccurrence flagLineKey
  rw [List.takeWhile_append]
  by_cases hall : (text.takeWhile fun c => c != '#'.toUInt8).length = text.length
  · -- without a comment the visible part may have `c` at its end
    rw [if_pos hall, (List.takeWhile_prefix _).eq_of_length hall, List.takeWhile_cons,
      if_pos hhash, List.takeWhile_nil, List.dropWhile_append]
    cases text.dropWhile isSpace with
    | nil => simp [hspace]
    | cons b rest =>
      have hkey := takeWhile_concat_neg (p := fun c => !isSpace c && c != '='.toUInt8) (b :: rest)
        hstop
      simp only [List.isEmpty_cons, Bool.false_eq_true, if_false, hkey]
      rfl
  · rw [if_neg hall]

/-- Nor do the line ends that the wrapper's reader strips. -/
theorem activeOccurrence_rdropWhile (provider managedKey text : Bytes) :
    pamProviderFlagLineIsActiveOccurrence provider (text.rdropWhile isLineEnd) managedKey =
      pamProviderFlagLineIsActiveOccurrence provider text managedKey := by
  induction text using List.reverseRecOn with
  | nil => rfl
  | append_singleton text c ih =>
    by_cases hc : isLineEnd c = true
    · rw [List.rdropWhile_concat_pos _ _ _ hc, ih,
        activeOccurrence_concat_space _ _ _ (isSpace_of_isLineEnd hc)]
    · rw [List.rdropWhile_concat_neg _ _ _ hc]

theorem activeOccurrence_ne_nil {provider managedKey : Bytes}
    (h : pamProviderFlagLineIsActiveOccurrence provider text managedKey = true) : text ≠ [] := by
  rintro rfl
  simp [pamProviderFlagLineIsActiveOccurrence] at h

/-! ## The wrapper reads back -/

theorem readTokenField_token (name : Bytes) {token : Bytes} (rest : Bytes)
    (h : ' '.toUInt8 ∉ token) :
    readTokenField name (name ++ lit "=" ++ (token ++ lit " " ++ rest)) =
      .ok (token, rest) := by
  have hfield : name ++ lit "=" <+: name ++ lit "=" ++ (token ++ lit " " ++ rest) :=
    List.prefix_append _ _
  have hfind : Bytes.find (lit " ") (token ++ lit " " ++ rest) = some token.length := by
    rw [List.append_assoc]
    exact Bytes.find_append_delimiter h
  have hdrop : (token ++ lit " " ++ rest).drop (token.length + 1) = rest := by
    rw [show 1 = (lit " ").length by decide, ← List.length_append, List.drop_left]
  simp only [readTokenField, hfield, not_true, if_false, List.drop_left, hfind, hdrop]
  rw [List.append_assoc, List.take_left]

private theorem wrapperLine_fields (provider policy managedKey : Bytes)
    (mutationId : UInt64) (suppressionId raw : Bytes) :
    pamProviderSuppressionWrapperLine provider policy managedKey mutationId suppressionId
        raw =
      kPamProviderSuppressMarkerPrefix ++ (provider ++ lit " " ++
        (lit "policy" ++ lit "=" ++ (policy ++ lit " " ++
        (lit "key" ++ lit "=" ++ (managedKey ++ lit " " ++
        (lit "mutation" ++ lit "=" ++ (toDecimal mutationId.toNat ++ lit " " ++
        (lit "suppression" ++ lit "=" ++ (suppressionId ++ lit " " ++
        (lit "raw=" ++ raw)))))))))) := by
  have hpolicy : lit " policy=" = lit " " ++ (lit "policy" ++ lit "=") := rfl
  have hkey : lit " key=" = lit " " ++ (lit "key" ++ lit "=") := rfl
  have hmutation : lit " mutation=" = lit " " ++ (lit "mutation" ++ lit "=") := rfl
  have hsuppression : lit " suppression=" = lit " " ++ (lit "suppression" ++ lit "=") := rfl
  have hraw : lit " raw=" = lit " " ++ lit "raw=" := rfl
  simp only [pamProviderSuppressionWrapperLine, hpolicy, hkey, hmutation, hsuppression,
    hraw, List.append_assoc]

/-- The wrapper up to the embedded text. -/
def wrapperFront (provider policy managedKey : Bytes) (mutationId : UInt64)
    (suppressionId : Bytes) : Bytes :=
  pamProviderSuppressionWrapperLine provider policy managedKey mutationId suppressionId []

section Fields

variable {provider policy managedKey suppressionId : Bytes} {mutationId : UInt64}
  (hprovider : isValidPamProviderIdentityToken provider = true)
  (hpolicy : isValidPamProviderIdentityToken policy = true)
  (hkey : isValidPamProviderManagedKey managedKey = true)
  (hid : isValidPamProviderSuppressionId suppressionId = true)
include hprovider hpolicy hkey hid

/-- The reader finds the six fields of a written wrapper. -/
theorem parsePamProviderSuppressionWrapper_fields (raw : Bytes) :
    parsePamProviderSuppressionWrapper
        (pamProviderSuppressionWrapperLine provider policy managedKey mutationId
          suppressionId raw) =
      checkSuppressionFields provider policy managedKey (toDecimal mutationId.toNat)
        suppressionId raw := by
  have hblank : ∀ {token : Bytes}, isValidPamProviderIdentityToken token = true →
      ' '.toUInt8 ∉ token := fun h => not_mem_identityToken h (by decide)
  have hkeyBlank : ' '.toUInt8 ∉ managedKey := not_mem_managedKey hkey (by decide)
  have hdigits : ' '.toUInt8 ∉ toDecimal mutationId.toNat := by
    intro hmem
    exact absurd (toDecimal_isDigit hmem) (by decide)
  have hfind : ∀ rest : Bytes, Bytes.find (lit " ") (provider ++ lit " " ++ rest) =
      some provider.length := by
    intro rest
    rw [List.append_assoc]
    exact Bytes.find_append_delimiter (hblank hprovider)
  have htake : ∀ rest : Bytes, (provider ++ lit " " ++ rest).take provider.length =
      provider := by
    intro rest
    rw [List.append_assoc, List.take_left]
  have hdrop : ∀ rest : Bytes, (provider ++ lit " " ++ rest).drop (provider.length + 1) =
      rest := by
    intro rest
    rw [show 1 = (lit " ").length by decide, ← List.length_append, List.drop_left]
  have hraw : lit "raw=" <+: lit "raw=" ++ raw := List.prefix_append _ _
  have hrawDrop : (lit "raw=" ++ raw).drop 4 = raw := by
    rw [show 4 = (lit "raw=").length by decide, List.drop_left]
  have hrest : ∀ rest : Bytes, markerRest kPamProviderSuppressMarkerPrefix
      (kPamProviderSuppressMarkerPrefix ++ (provider ++ lit " " ++ rest)) =
      some (provider ++ lit " " ++ rest) :=
    fun rest => markerRest_append (by simp [identityToken_ne_nil hprovider])
  rw [wrapperLine_fields, parsePamProviderSuppressionWrapper]
  simp only [hrest, hfind, htake, hdrop, hprovider, bind, Except.bind, Bool.not_true,
    Bool.false_eq_true, if_false, readTokenField_token _ _ (hblank hpolicy),
    readTokenField_token _ _ hkeyBlank, readTokenField_token _ _ hdigits,
    readTokenField_token _ _ (hblank hid), hraw, not_true, hrawDrop]

/-- A wrapper written for an active occurrence without line feed and NUL
reads back field by field. -/
theorem parsePamProviderSuppressionWrapper_line {raw : Bytes} (hmutation : mutationId ≠ 0)
    (hactive : pamProviderFlagLineIsActiveOccurrence provider raw managedKey = true)
    (hlf : lf ∉ raw) (hnul : (0 : UInt8) ∉ raw) :
    parsePamProviderSuppressionWrapper
        (pamProviderSuppressionWrapperLine provider policy managedKey mutationId
          suppressionId raw) =
      .ok
        { provider := provider
          policy := policy
          managedKey := managedKey
          mutationId := mutationId
          suppressionId := suppressionId
          rawLine := raw } := by
  have hempty : raw.isEmpty = false := by simp [activeOccurrence_ne_nil hactive]
  have hlf' : raw.contains lf = false := by simpa using hlf
  have hnul' : raw.contains 0 = false := by simpa using hnul
  rw [parsePamProviderSuppressionWrapper_fields hprovider hpolicy hkey hid]
  simp only [checkSuppressionFields, hpolicy, hkey, parsePhysicalMutationId_toDecimal
    hmutation, hid, hempty, hlf', hnul', hactive, Bool.not_true, Bool.false_eq_true,
    Bool.or_self, if_false]

/-- A NUL byte in the text makes the written wrapper unreadable. -/
theorem parsePamProviderSuppressionWrapper_nul {raw : Bytes} {wrapper : PamProviderSuppressedLine}
    (h : parsePamProviderSuppressionWrapper
      (pamProviderSuppressionWrapperLine provider policy managedKey mutationId
        suppressionId raw) = .ok wrapper) : (0 : UInt8) ∉ raw := by
  rw [parsePamProviderSuppressionWrapper_fields hprovider hpolicy hkey hid] at h
  intro hmem
  have hnul : raw.contains 0 = true := by simpa using hmem
  unfold checkSuppressionFields at h
  cases hmutation : parsePhysicalMutationId (toDecimal mutationId.toNat) with
  | error e =>
    simp only [hpolicy, hkey, hmutation, Bool.not_true, Bool.false_eq_true, if_false,
      reduceCtorEq] at h
  | ok id =>
    simp only [hpolicy, hkey, hmutation, hid, hnul, Bool.not_true, Bool.false_eq_true,
      if_false, Bool.or_true, if_true, reduceCtorEq] at h

theorem lf_not_mem_wrapperFront (mutationId : UInt64) :
    lf ∉ wrapperFront provider policy managedKey mutationId suppressionId := by
  have hdigits : lf ∉ toDecimal mutationId.toNat := by
    intro hmem
    exact absurd (toDecimal_isDigit hmem) (by decide)
  have h1 : lf ∉ provider := not_mem_identityToken hprovider (by decide)
  have h2 : lf ∉ policy := not_mem_identityToken hpolicy (by decide)
  have h3 : lf ∉ managedKey := not_mem_managedKey hkey (by decide)
  have h4 : lf ∉ suppressionId := not_mem_identityToken hid (by decide)
  have hmarker : lf ∉ kPamProviderSuppressMarkerPrefix := by decide
  have hp : lf ∉ lit " policy=" := by decide
  have hk : lf ∉ lit " key=" := by decide
  have hm : lf ∉ lit " mutation=" := by decide
  have hs : lf ∉ lit " suppression=" := by decide
  have hr : lf ∉ lit " raw=" := by decide
  simp only [wrapperFront, pamProviderSuppressionWrapperLine, List.mem_append, hdigits, h1,
    h2, h3, h4, hmarker, hp, hk, hm, hs, hr, List.not_mem_nil, or_self, not_false_iff]

end Fields

/-! ## A wrapped physical line -/

theorem wrapperFront_append (provider policy managedKey : Bytes) (mutationId : UInt64)
    (suppressionId raw : Bytes) :
    wrapperFront provider policy managedKey mutationId suppressionId ++ raw =
      pamProviderSuppressionWrapperLine provider policy managedKey mutationId suppressionId
        raw := by
  simp [wrapperFront, pamProviderSuppressionWrapperLine]

theorem wrapperFront_rdropWhile (provider policy managedKey : Bytes) (mutationId : UInt64)
    (suppressionId : Bytes) :
    (wrapperFront provider policy managedKey mutationId suppressionId).rdropWhile isLineEnd =
      wrapperFront provider policy managedKey mutationId suppressionId := by
  rw [wrapperFront, pamProviderSuppressionWrapperLine, List.append_nil,
    show lit " raw=" = lit " raw" ++ [61] by decide, ← List.append_assoc]
  exact List.rdropWhile_concat_neg _ _ _ (by decide)

theorem rdropWhile_append_self {a : Bytes} (b : Bytes) (h : a.rdropWhile p = a) :
    (a ++ b).rdropWhile p = a ++ b.rdropWhile p := by
  induction b using List.reverseRecOn with
  | nil => simp [h]
  | append_singleton b c ih =>
    rw [← List.append_assoc]
    by_cases hc : p c = true
    · rw [List.rdropWhile_concat_pos _ _ _ hc, List.rdropWhile_concat_pos _ _ _ hc, ih]
    · rw [List.rdropWhile_concat_neg _ _ _ hc, List.rdropWhile_concat_neg _ _ _ hc,
        List.append_assoc]

/-- The reader of a wrapped physical line sees the wrapper of the text
without any trailing line ends: all of them, not only the terminator. -/
theorem physicalLineContent_wrapped (provider policy managedKey : Bytes)
    (mutationId : UInt64) (suppressionId line : Bytes) :
    physicalLineContent
        (wrapperFront provider policy managedKey mutationId suppressionId ++ line) =
      pamProviderSuppressionWrapperLine provider policy managedKey mutationId suppressionId
        ((splitPhysicalLine line).1.rdropWhile isLineEnd) := by
  rw [physicalLineContent, rdropWhile_append_self _ (wrapperFront_rdropWhile _ _ _ _ _),
    wrapperFront_append]
  congr 1
  conv_lhs => rw [← splitPhysicalLine_append line]
  exact rdropWhile_append_of_pos (List.all_eq_true.mp (splitPhysicalLine_terminator line)) _

/-! ## Fresh ids -/

variable {id : Bytes} {value : Nat}

/-- The number behind the `s` of an id; other ids do not count. -/
def suppressionSuffix : Bytes → Option Nat
  | [] => none
  | first :: suffix =>
    if suffix.isEmpty || first ≠ 's'.toUInt8 then none
    else if !suffix.all isDigit || suffix.head? = some '0'.toUInt8 then none
    else if ofDecimal suffix < 2 ^ 64 then some (ofDecimal suffix)
    else none

def nextPamProviderSuppressionId (existingIds : List Bytes) : Bytes :=
  let maxSuffix := (existingIds.filterMap suppressionSuffix).foldl max 0
  lit "s" ++ toDecimal ((maxSuffix + 1) % 2 ^ 64)

/-- The id `s<n>`. -/
def sequenceId (n : Nat) : Bytes := lit "s" ++ toDecimal n

theorem sequenceId_injective : Function.Injective sequenceId := by
  intro m n h
  rw [← ofDecimal_toDecimal m, ← ofDecimal_toDecimal n, List.append_cancel_left h]

theorem suppressionSuffix_eq_some :
    suppressionSuffix id = some value ↔ value ≠ 0 ∧ value < 2 ^ 64 ∧ id = sequenceId value := by
  constructor
  · intro h
    cases id with
    | nil => cases h
    | cons first suffix =>
      rw [suppressionSuffix] at h
      split_ifs at h with hfront hdigits hvalue
      simp only [Bool.or_eq_true, decide_eq_true_eq, not_or, Bool.not_eq_true, ne_eq, not_not,
        Bool.not_eq_true', Bool.not_eq_false, List.isEmpty_eq_false_iff] at hfront hdigits
      obtain ⟨htext, hne⟩ := toDecimal_ofDecimal hdigits.1 hfront.1 hdigits.2
      rw [← Option.some.inj h, sequenceId, htext, hfront.2]
      exact ⟨hne, hvalue, rfl⟩
  · rintro ⟨hne, hlt, rfl⟩
    have hdigits : (toDecimal value).all isDigit = true :=
      List.all_eq_true.mpr fun b hb => toDecimal_isDigit hb
    have hfirst : (toDecimal value).head? ≠ some '0'.toUInt8 := toDecimal_head?_ne_zero hne
    have hs : sequenceId value = 's'.toUInt8 :: toDecimal value := rfl
    rw [hs, suppressionSuffix]
    simp only [ofDecimal_toDecimal, hlt, if_true]
    simp [toDecimal_ne_nil, hdigits, hfirst]

/-- The largest number in use, below which all others are. -/
theorem maxSuffix_spec (ids : List Bytes) :
    ∃ top, nextPamProviderSuppressionId ids = sequenceId ((top + 1) % 2 ^ 64) ∧
      (top = 0 ∨ top < 2 ^ 64 ∧ sequenceId top ∈ ids) ∧
      ∀ n, n ≠ 0 → n < 2 ^ 64 → sequenceId n ∈ ids → n ≤ top := by
  refine ⟨_, rfl, ?_, ?_⟩
  all_goals rw [List.foldl_max, Nat.zero_max]
  · cases hmax : (ids.filterMap suppressionSuffix).max? with
    | none => exact .inl rfl
    | some top =>
      obtain ⟨id, hid, htop⟩ := List.mem_filterMap.mp (List.max?_mem hmax)
      obtain ⟨-, hlt, rfl⟩ := suppressionSuffix_eq_some.mp htop
      exact .inr ⟨hlt, hid⟩
  · intro n hne hlt hmem
    have hn : n ∈ ids.filterMap suppressionSuffix :=
      List.mem_filterMap.mpr ⟨_, hmem, suppressionSuffix_eq_some.mpr ⟨hne, hlt, rfl⟩⟩
    cases hmax : (ids.filterMap suppressionSuffix).max? with
    | none => simp [List.max?_eq_none_iff.mp hmax] at hn
    | some top => exact (List.max?_eq_some_iff.mp hmax).2 n hn

/-- The next id is one of `s1`, `s2`, … and fresh exactly if the last number is not
in use; behind it comes `s0`. -/
theorem nextPamProviderSuppressionId_fresh_iff (ids : List Bytes) :
    ((∃ n ≠ 0, nextPamProviderSuppressionId ids = sequenceId n) ∧
        nextPamProviderSuppressionId ids ∉ ids) ↔ lit "s18446744073709551615" ∉ ids := by
  obtain ⟨top, hnext, htop, hbound⟩ := maxSuffix_spec ids
  rw [show lit "s18446744073709551615" = sequenceId (2 ^ 64 - 1) by decide +kernel]
  have hfits : top < 2 ^ 64 := by
    rcases htop with rfl | ⟨hlt, -⟩
    · decide
    · exact hlt
  constructor
  · rintro ⟨⟨n, hn, heq⟩, -⟩ hlast
    have hle := hbound _ (by decide) (by decide) hlast
    rw [hnext, show (top + 1) % 2 ^ 64 = 0 by omega] at heq
    exact hn (sequenceId_injective heq).symm
  · intro hlast
    have hlt : top + 1 < 2 ^ 64 := by
      by_contra hge
      obtain rfl : top = 2 ^ 64 - 1 := by omega
      exact hlast (htop.resolve_left (by decide)).2
    rw [hnext, Nat.mod_eq_of_lt hlt]
    refine ⟨⟨top + 1, by omega, rfl⟩, fun hmem => ?_⟩
    have hle := hbound _ (by omega) hlt hmem
    omega

theorem nextPamProviderSuppressionId_repeats :
    nextPamProviderSuppressionId [lit "s18446744073709551615", lit "s0"] ∈
      [lit "s18446744073709551615", lit "s0"] := by
  decide +kernel

end Fic.Pam
