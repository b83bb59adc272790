import Fic.Lib.Decimal
import Fic.Lib.Lines

/-!
# Grammar of the managed block in a shared PAM provider file

FIC owns one marked block inside a configuration file it shares with the
administrator.  This file embeds the marker texts and the token and body
validators of `PamProviderManagedBlock.h`: what FIC writes for a block, an
entry, a disabled flag and a suppressed line, and the strict readers of those
texts.  The lemmas say that each reader accepts exactly what the matching
writer produced.
-/

namespace Fic.Pam

open Fic.Lib

variable {key marker provider rest token value : Bytes} {c : UInt8}

/-! ## Marker texts -/

def kPamProviderBlockBeginMarkerPrefix : Bytes :=
  lit "# FIC_PAM_PROVIDER_BLOCK_BEGIN version=1 provider="

def kPamProviderBlockEndMarker : Bytes := lit "# FIC_PAM_PROVIDER_BLOCK_END"

def kPamProviderEntryBeginMarkerPrefix : Bytes :=
  lit "# FIC_PAM_ENTRY_BEGIN version=1 policy="

def kPamProviderEntryEndMarker : Bytes := lit "# FIC_PAM_ENTRY_END"

/-- Any mention of this word outside a canonical marker is a conflict. -/
def kPamProviderReservedMarkerNamespace : Bytes := lit "FIC_PAM_"

def kPamProviderBlockLeadField : Bytes := lit " lead="
def kPamProviderBlockLeadNone : Bytes := lit "none"
def kPamProviderBlockLeadOwnedNewline : Bytes := lit "newline"

def kPamProviderSuppressMarkerPrefix : Bytes :=
  lit "# FIC_PAM_SUPPRESS version=1 provider="

def kPamProviderFlagDisabledSentinelPrefix : Bytes :=
  lit "# FIC_PAM_FLAG_DISABLED version=1 key="

/-- The provider whose configuration has its own assignment syntax and no
presence flags. -/
def pamPasswdqc : Bytes := lit "pam_passwdqc"

def pamProviderBlockBeginMarker (provider : Bytes) (leadOwnedNewline : Bool) : Bytes :=
  kPamProviderBlockBeginMarkerPrefix ++ provider ++ kPamProviderBlockLeadField ++
    (if leadOwnedNewline then kPamProviderBlockLeadOwnedNewline
     else kPamProviderBlockLeadNone)

def pamProviderEntryBeginMarker (policy : Bytes) (mutationId : UInt64) : Bytes :=
  kPamProviderEntryBeginMarkerPrefix ++ policy ++ lit " mutation=" ++
    toDecimal mutationId.toNat

/-! ## Tokens -/

def isIdentityChar (c : UInt8) : Bool :=
  ('a'.toUInt8 ≤ c && c ≤ 'z'.toUInt8) || ('0'.toUInt8 ≤ c && c ≤ '9'.toUInt8) ||
    c == '_'.toUInt8 || c == '-'.toUInt8

def isValidPamProviderIdentityToken (token : Bytes) : Bool :=
  !token.isEmpty && token.all isIdentityChar

def isManagedKeyChar (c : UInt8) : Bool :=
  isAlnum c || c == '_'.toUInt8 || c == '-'.toUInt8

def isValidPamProviderManagedKey (key : Bytes) : Bool :=
  !key.isEmpty && key.all isManagedKeyChar

def isValidPamProviderSuppressionId (token : Bytes) : Bool :=
  isValidPamProviderIdentityToken token

theorem not_mem_identityToken (h : isValidPamProviderIdentityToken token = true)
    (hc : isIdentityChar c = false) : c ∉ token := by
  rw [isValidPamProviderIdentityToken, Bool.and_eq_true] at h
  exact not_mem_of_all h.2 hc

theorem identityToken_ne_nil (h : isValidPamProviderIdentityToken token = true) : token ≠ [] := by
  rintro rfl
  simp [isValidPamProviderIdentityToken] at h

theorem not_mem_managedKey (h : isValidPamProviderManagedKey key = true)
    (hc : isManagedKeyChar c = false) : c ∉ key := by
  rw [isValidPamProviderManagedKey, Bool.and_eq_true] at h
  exact not_mem_of_all h.2 hc

theorem managedKey_ne_nil (h : isValidPamProviderManagedKey key = true) : key ≠ [] := by
  rintro rfl
  simp [isValidPamProviderManagedKey] at h

/-! ## Entry bodies -/

def pamProviderValueFreeOfControls (value : Bytes) : Bool :=
  !value.any (fun c => c == cr || c == lf) && !value.contains 0

/-- The text between key and value. -/
def pamProviderEntryDelimiter (provider : Bytes) : Bytes :=
  if provider = pamPasswdqc then lit "=" else lit " = "

def pamProviderEntryBody (key value provider : Bytes) : Bytes :=
  key ++ pamProviderEntryDelimiter provider ++ value

def isValidPamProviderEntryValue (value : Bytes) : Bool :=
  if value.isEmpty || !pamProviderValueFreeOfControls value ||
      value.contains '#'.toUInt8 then false
  else !value.head?.any isSpace && !value.getLast?.any isSpace

/-- The key and value of a canonical assignment body. -/
def parseCanonicalPamProviderEntryBody (body provider : Bytes) :
    Option (Bytes × Bytes) :=
  let delimiter := pamProviderEntryDelimiter provider
  match Bytes.find delimiter body with
  | none => none
  | some separator =>
    if provider = pamPasswdqc ∧ body.any isSpace then none
    else
      let key := body.take separator
      let value := body.drop (separator + delimiter.length)
      if isValidPamProviderManagedKey key && isValidPamProviderEntryValue value then
        some (key, value)
      else none

def pamProviderFlagDisabledBody (key : Bytes) : Bytes :=
  kPamProviderFlagDisabledSentinelPrefix ++ key

/-- The text behind a marker's fixed part, when there is any. -/
def markerRest (marker line : Bytes) : Option Bytes :=
  if line.length ≤ marker.length ∨ ¬ marker <+: line then none
  else some (line.drop marker.length)

/-- The key of a disabled-flag sentinel. -/
def parseCanonicalPamProviderFlagDisabledBody (body : Bytes) : Option Bytes :=
  match markerRest kPamProviderFlagDisabledSentinelPrefix body with
  | none => none
  | some key => if isValidPamProviderManagedKey key then some key else none

/-- What the body line of an entry says. -/
inductive PamProviderManagedEntryKind
  | Assignment
  | FlagEnabled
  | FlagDisabled
  deriving DecidableEq, Repr

def pamProviderFlagEntryBody (kind : PamProviderManagedEntryKind) (key : Bytes) : Bytes :=
  if kind = .FlagDisabled then pamProviderFlagDisabledBody key else key

/-! ## Readers accept what the writers produce -/

/-- No key contains the first byte of the delimiter. -/
private theorem entryDelimiter_shape (provider : Bytes) :
    ∃ c rest, pamProviderEntryDelimiter provider = c :: rest ∧
      isManagedKeyChar c = false := by
  unfold pamProviderEntryDelimiter
  split_ifs
  · exact ⟨61, [], by decide, by decide⟩
  · exact ⟨32, [61, 32], by decide, by decide⟩

/-- A canonical body gives back the key and the value it was built from. -/
theorem parseCanonicalPamProviderEntryBody_body (hkey : isValidPamProviderManagedKey key = true) :
    parseCanonicalPamProviderEntryBody (pamProviderEntryBody key value provider) provider =
      if provider = pamPasswdqc ∧
          (pamProviderEntryBody key value provider).any isSpace then none
      else if isValidPamProviderEntryValue value then some (key, value) else none := by
  obtain ⟨c, rest, hdelim, hc⟩ := entryDelimiter_shape provider
  have hfind : Bytes.find (pamProviderEntryDelimiter provider)
      (pamProviderEntryBody key value provider) = some key.length := by
    rw [pamProviderEntryBody, hdelim, List.append_assoc, List.cons_append]
    exact Bytes.find_append_delimiter (not_mem_managedKey hkey hc)
  have htake : (pamProviderEntryBody key value provider).take key.length = key := by
    rw [pamProviderEntryBody, List.append_assoc, List.take_left]
  have hdrop : (pamProviderEntryBody key value provider).drop
      (key.length + (pamProviderEntryDelimiter provider).length) = value := by
    rw [pamProviderEntryBody, ← List.length_append, List.drop_left]
  simp only [parseCanonicalPamProviderEntryBody, hfind, htake, hdrop, hkey, Bool.true_and]

theorem parseCanonicalPamProviderEntryBody_key (provider : Bytes)
    (hkey : isValidPamProviderManagedKey key = true) :
    parseCanonicalPamProviderEntryBody key provider = none := by
  obtain ⟨c, rest, hdelim, hc⟩ := entryDelimiter_shape provider
  have hfind : Bytes.find (pamProviderEntryDelimiter provider) key = none := by
    rw [hdelim]
    exact Bytes.find_eq_none_of_not_mem (not_mem_managedKey hkey hc)
  simp only [parseCanonicalPamProviderEntryBody, hfind]

theorem markerRest_append (h : rest ≠ []) : markerRest marker (marker ++ rest) = some rest := by
  have hlen : 0 < rest.length := List.length_pos_iff.mpr h
  have hlong : ¬ (marker ++ rest).length ≤ marker.length := by
    rw [List.length_append]
    omega
  have hstart : marker <+: marker ++ rest := List.prefix_append marker rest
  rw [markerRest, if_neg (by simp only [hlong, hstart, not_true, or_self, not_false_iff]),
    List.drop_left]

theorem markerRest_eq_some {line : Bytes} (h : markerRest marker line = some rest) :
    line = marker ++ rest ∧ rest ≠ [] := by
  unfold markerRest at h
  split_ifs at h with hcond
  push Not at hcond
  obtain ⟨tail, rfl⟩ := hcond.2
  rw [List.drop_left, Option.some.injEq] at h
  subst h
  refine ⟨rfl, ?_⟩
  rintro rfl
  simp at hcond

theorem parseCanonicalPamProviderFlagDisabledBody_body
    (hkey : isValidPamProviderManagedKey key = true) :
    parseCanonicalPamProviderFlagDisabledBody (pamProviderFlagDisabledBody key) =
      some key := by
  simp only [parseCanonicalPamProviderFlagDisabledBody, pamProviderFlagDisabledBody,
    markerRest_append (managedKey_ne_nil hkey), hkey, if_true]

/-- An accepted body starts with its key and ends with its value. -/
theorem parseCanonicalPamProviderEntryBody_eq_some {body : Bytes}
    (h : parseCanonicalPamProviderEntryBody body provider = some (key, value)) :
    body = pamProviderEntryBody key value provider ∧
      isValidPamProviderManagedKey key = true ∧
      isValidPamProviderEntryValue value = true := by
  simp only [parseCanonicalPamProviderEntryBody] at h
  split at h
  · contradiction
  · rename_i separator hfind
    split_ifs at h with hspace hvalid
    rw [Option.some.injEq, Prod.mk.injEq] at h
    obtain ⟨rfl, rfl⟩ := h
    rw [Bool.and_eq_true] at hvalid
    exact ⟨Bytes.find_eq_some_append hfind, hvalid⟩

theorem parseCanonicalPamProviderEntryBody_comment (rest provider : Bytes) :
    parseCanonicalPamProviderEntryBody ('#'.toUInt8 :: rest) provider = none := by
  cases hparse : parseCanonicalPamProviderEntryBody ('#'.toUInt8 :: rest) provider with
  | none => rfl
  | some pair =>
    obtain ⟨key, value⟩ := pair
    obtain ⟨hbody, hkey, -⟩ := parseCanonicalPamProviderEntryBody_eq_some hparse
    have hhash : '#'.toUInt8 ∉ key := not_mem_managedKey hkey (by decide)
    cases key with
    | nil => exact absurd rfl (managedKey_ne_nil hkey)
    | cons c key =>
      rw [pamProviderEntryBody, List.cons_append, List.cons_append, List.cons.injEq] at hbody
      exact absurd (by simp [hbody.1]) hhash

end Fic.Pam
