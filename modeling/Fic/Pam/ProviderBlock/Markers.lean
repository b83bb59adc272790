import Fic.Pam.ProviderBlock.Grammar

/-!
# Marker lines of the managed block

The strict readers of the block, entry and suppression markers, as
`PamProviderManagedBlock.cpp` has them, with the texts of their refusals.
For each marker FIC writes, one lemma says that the reader returns the fields
it was written from.
-/

namespace Fic.Pam

open Fic.Lib

variable {line text : Bytes} {c : UInt8}

/-! ## Lines and their terminators -/

def isLineEnd (b : UInt8) : Bool := b == lf || b == cr

def isBlank (b : UInt8) : Bool := b == ' '.toUInt8 || b == '\t'.toUInt8

def lineContent (physicalLine : Bytes) : Bytes :=
  (physicalLine.rdropWhile isLineEnd).rdropWhile isBlank

def physicalLineContent (physicalLine : Bytes) : Bytes :=
  physicalLine.rdropWhile isLineEnd

def mentionsReservedNamespace (line : Bytes) : Bool :=
  Bytes.hasWord kPamProviderReservedMarkerNamespace line

/-! ## Marker readers -/

/-- A canonical decimal mutation id: digits only, no leading zero, non-zero,
within 64 bits. -/
def parsePhysicalMutationId (text : Bytes) : Except Bytes UInt64 :=
  if text.isEmpty || decide (20 < text.length) || !text.all isDigit then
    .error (lit "malformed physical mutation id inside FIC PAM provider block: " ++ text)
  else if text.head? = some '0'.toUInt8 ∨ text = lit "0" then
    .error (lit "physical mutation id must be canonical decimal > 0: " ++ text)
  else if 2 ^ 64 ≤ ofDecimal text ∨ ofDecimal text = 0 then
    .error (lit "physical mutation id out of range: " ++ text)
  else .ok (UInt64.ofNat (ofDecimal text))

/-- Policy and mutation id of an entry BEGIN marker.  A line that is not an
entry marker at all is refused with the empty text. -/
def parseEntryBeginMarker (line : Bytes) : Except Bytes (Bytes × UInt64) :=
  match markerRest kPamProviderEntryBeginMarkerPrefix line with
  | none => .error []
  | some rest =>
    match Bytes.find (lit " mutation=") rest with
    | none => .error (lit "foreign FIC-подобный malformed ENTRY BEGIN marker: " ++ line)
    | some mutation =>
      let policy := rest.take mutation
      let idText := rest.drop (mutation + 10)
      if !isValidPamProviderIdentityToken policy then
        .error (lit "invalid policy identity inside FIC PAM provider block: " ++ policy)
      else (parsePhysicalMutationId idText).map fun id => (policy, id)

/-- Provider and lead contract of a block BEGIN marker. -/
def parseBlockBeginMarker (line : Bytes) : Except Bytes (Bytes × Bool) :=
  match markerRest kPamProviderBlockBeginMarkerPrefix line with
  | none => .error []
  | some rest =>
    let ambiguous : Bytes :=
      lit "foreign FIC-подобный block BEGIN marker без однозначного поля lead=: " ++ line
    match Bytes.find kPamProviderBlockLeadField rest with
    | none => .error ambiguous
    | some lead =>
      if (Bytes.find kPamProviderBlockLeadField (rest.drop (lead + 1))).isSome then
        .error ambiguous
      else
        let provider := rest.take lead
        let leadValue := rest.drop (lead + kPamProviderBlockLeadField.length)
        let checked (leadOwnedNewline : Bool) : Except Bytes (Bytes × Bool) :=
          if !isValidPamProviderIdentityToken provider then
            .error (lit "invalid provider identity inside FIC PAM provider block: " ++
              provider)
          else .ok (provider, leadOwnedNewline)
        if leadValue = kPamProviderBlockLeadNone then checked false
        else if leadValue = kPamProviderBlockLeadOwnedNewline then checked true
        else
          .error (lit "неизвестное значение lead= внутри FIC PAM provider block BEGIN: " ++
            leadValue)

private theorem markerRest_eq_none {marker : Bytes} (h : ¬ marker <+: line) :
    markerRest marker line = none := by
  rw [markerRest, if_pos (.inr h)]

theorem parseBlockBeginMarker_of_not_prefix (h : ¬ kPamProviderBlockBeginMarkerPrefix <+: line) :
    parseBlockBeginMarker line = .error [] := by
  rw [parseBlockBeginMarker, markerRest_eq_none h]

theorem parseEntryBeginMarker_of_not_prefix (h : ¬ kPamProviderEntryBeginMarkerPrefix <+: line) :
    parseEntryBeginMarker line = .error [] := by
  rw [parseEntryBeginMarker, markerRest_eq_none h]

/-! ## Markers read back -/

/-- The text is empty or ends in a byte that is not white space. -/
def endsVisible (text : Bytes) : Bool := text.getLast?.all fun c => !isSpace c

theorem endsVisible_append {a b : Bytes} (h : b ≠ []) :
    endsVisible (a ++ b) = endsVisible b := by
  rw [endsVisible, endsVisible, List.getLast?_append_of_ne_nil a h]

theorem endsVisible_of_all (h : text.all (fun c => !isSpace c) = true) :
    endsVisible text = true := by
  unfold endsVisible
  cases hlast : text.getLast? with
  | none => rfl
  | some c => exact List.all_eq_true.mp h c (List.mem_of_getLast? hlast)

private theorem rdropWhile_eq_self_of_endsVisible {p : UInt8 → Bool} (h : endsVisible text = true)
    (hp : ∀ c, p c = true → isSpace c = true) : text.rdropWhile p = text := by
  rw [List.rdropWhile_eq_self_iff]
  intro hne hlast
  rw [endsVisible, List.getLast?_eq_some_getLast hne] at h
  simp [hp _ hlast] at h

theorem isSpace_of_isLineEnd (h : isLineEnd c = true) : isSpace c = true := by
  simp only [isLineEnd, Bool.or_eq_true, beq_iff_eq] at h
  rcases h with rfl | rfl <;> rfl

theorem isSpace_of_isBlank (h : isBlank c = true) : isSpace c = true := by
  simp only [isBlank, Bool.or_eq_true, beq_iff_eq] at h
  rcases h with rfl | rfl <;> rfl

theorem physicalLineContent_terminated (h : endsVisible text = true) :
    physicalLineContent (text ++ [lf]) = text := by
  rw [physicalLineContent, List.rdropWhile_concat_pos _ _ _ (by rfl)]
  exact rdropWhile_eq_self_of_endsVisible h fun _ => isSpace_of_isLineEnd

theorem lineContent_terminated (h : endsVisible text = true) :
    lineContent (text ++ [lf]) = text := by
  have hline := physicalLineContent_terminated h
  rw [physicalLineContent] at hline
  rw [lineContent, hline]
  exact rdropWhile_eq_self_of_endsVisible h fun _ => isSpace_of_isBlank

/-- The writer's decimal text of a non-zero id is canonical. -/
theorem parsePhysicalMutationId_toDecimal {id : UInt64} (h : id ≠ 0) :
    parsePhysicalMutationId (toDecimal id.toNat) = .ok id := by
  have hne : id.toNat ≠ 0 := fun e => h (UInt64.toNat_inj.mp e)
  have hempty : (toDecimal id.toNat).isEmpty = false := by
    simp [toDecimal_ne_nil]
  have hlen : ¬ 20 < (toDecimal id.toNat).length :=
    not_lt.mpr (toDecimal_length_le id.toNat_lt)
  have hdigits : (toDecimal id.toNat).all isDigit = true :=
    List.all_eq_true.mpr fun b hb => toDecimal_isDigit hb
  have hhead : (toDecimal id.toNat).head? ≠ some '0'.toUInt8 :=
    toDecimal_head?_ne_zero hne
  have hzero : toDecimal id.toNat ≠ lit "0" := fun e => hhead (by rw [e]; decide)
  have hlt : ¬ 2 ^ 64 ≤ id.toNat := not_le.mpr id.toNat_lt
  simp only [parsePhysicalMutationId, hempty, hlen, hdigits, hhead, hzero,
    ofDecimal_toDecimal, hlt, hne, decide_false, Bool.or_self, Bool.not_true,
    Bool.false_eq_true, or_self, if_false, UInt64.ofNat_toNat]

theorem parseEntryBeginMarker_marker {policy : Bytes} {id : UInt64}
    (hpolicy : isValidPamProviderIdentityToken policy = true) (hid : id ≠ 0) :
    parseEntryBeginMarker (pamProviderEntryBeginMarker policy id) = .ok (policy, id) := by
  have hrest : markerRest kPamProviderEntryBeginMarkerPrefix
      (pamProviderEntryBeginMarker policy id) =
      some (policy ++ (lit " mutation=" ++ toDecimal id.toNat)) := by
    rw [pamProviderEntryBeginMarker, List.append_assoc, List.append_assoc]
    exact markerRest_append (by simp [identityToken_ne_nil hpolicy])
  have hblank : (32 : UInt8) ∉ policy := not_mem_identityToken hpolicy (by decide)
  have hfind : Bytes.find (lit " mutation=")
      (policy ++ (lit " mutation=" ++ toDecimal id.toNat)) = some policy.length :=
    Bytes.find_append_delimiter hblank
  have hdrop : (policy ++ (lit " mutation=" ++ toDecimal id.toNat)).drop
      (policy.length + 10) = toDecimal id.toNat := by
    rw [← List.drop_drop, List.drop_left, show 10 = (lit " mutation=").length by decide,
      List.drop_left]
  simp only [parseEntryBeginMarker, hrest, hfind, List.take_left, hdrop, hpolicy,
    parsePhysicalMutationId_toDecimal hid, Bool.not_true, Bool.false_eq_true, if_false,
    Except.map]

theorem parseBlockBeginMarker_marker {provider : Bytes} (lead : Bool)
    (hprovider : isValidPamProviderIdentityToken provider = true) :
    parseBlockBeginMarker (pamProviderBlockBeginMarker provider lead) =
      .ok (provider, lead) := by
  have hrest : ∀ value : Bytes, markerRest kPamProviderBlockBeginMarkerPrefix
      (kPamProviderBlockBeginMarkerPrefix ++ provider ++ kPamProviderBlockLeadField ++
        value) = some (provider ++ (kPamProviderBlockLeadField ++ value)) := by
    intro value
    rw [List.append_assoc, List.append_assoc]
    exact markerRest_append (by simp [identityToken_ne_nil hprovider])
  have hblank : (32 : UInt8) ∉ provider := not_mem_identityToken hprovider (by decide)
  have hfind : ∀ value : Bytes, Bytes.find kPamProviderBlockLeadField
      (provider ++ (kPamProviderBlockLeadField ++ value)) = some provider.length :=
    fun value => Bytes.find_append_delimiter hblank
  have hdrop : ∀ value : Bytes, (provider ++ (kPamProviderBlockLeadField ++ value)).drop
      (provider.length + kPamProviderBlockLeadField.length) = value := by
    intro value
    rw [← List.drop_drop, List.drop_left, List.drop_left]
  -- behind the first blank of the lead field there is no second one
  have honce : ∀ value : Bytes, (32 : UInt8) ∉ value →
      Bytes.find kPamProviderBlockLeadField
        ((provider ++ (kPamProviderBlockLeadField ++ value)).drop (provider.length + 1)) =
      none := by
    intro value hvalue
    rw [← List.drop_drop, List.drop_left]
    change Bytes.find (32 :: lit "lead=") (lit "lead=" ++ value) = none
    refine Bytes.find_eq_none_of_not_mem ?_
    simp only [List.mem_append, hvalue, or_false]
    decide
  have hnone : kPamProviderBlockLeadOwnedNewline ≠ kPamProviderBlockLeadNone := by decide
  cases lead
  · simp only [pamProviderBlockBeginMarker, Bool.false_eq_true, if_false,
      parseBlockBeginMarker, hrest, hfind, honce kPamProviderBlockLeadNone (by decide),
      hdrop, List.take_left, hprovider, Option.isSome_none, Bool.not_true, if_true]
  · simp only [pamProviderBlockBeginMarker, if_true, Bool.false_eq_true, if_false,
      parseBlockBeginMarker, hrest, hfind,
      honce kPamProviderBlockLeadOwnedNewline (by decide), hdrop, List.take_left,
      hprovider, Option.isSome_none, Bool.not_true, hnone]

end Fic.Pam
