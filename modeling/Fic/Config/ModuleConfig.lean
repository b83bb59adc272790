import Fic.Lib.Decimal
import Fic.Lib.Lines
import Fic.Lib.OrderedMap
import Fic.Lib.Trim

/-!
# The configuration of a module

A module keeps the status, the value and the severity of its policies as lines `key=value`
of one file.  `setPolicyValue` writes the value that the type of a policy has accepted,
as it is.  `setPolicyValue_roundTrips_iff` says when the file gives it back: the value has to
be one that a line can hold.  The rest of the file has to mean the same after a load and a
save, and only a key with white space behind it does not: a load keeps `key` and a vertical tab
behind a blank as `key` and the blank, and the next one takes the blank away.
-/

namespace Fic.Config

open Fic.Lib

/-! ## Lines -/

def hash : UInt8 := '#'.toUInt8

def delimiter : UInt8 := '='.toUInt8

/-- The bytes `trim` removes. -/
def isBlank (c : UInt8) : Bool := (lit " \t\r\n").contains c

/-- The second part of `trim`: a run of white space becomes its first byte. -/
def collapse (space : Bool) : Bytes → Bytes
  | [] => []
  | c :: text =>
    if isSpace c then if space then collapse true text else c :: collapse true text
    else c :: collapse false text

/-- The lines `std::getline` reads. -/
def getLines (content : Bytes) : List Bytes := (physicalLines content).map (·.takeWhile (· ≠ lf))

/-- What a line without a comment assigns; an empty line has no delimiter. -/
def parseEntry (line : Bytes) : Option (Bytes × Bytes) :=
  if hash ∈ line ∨ delimiter ∉ line then none
  else some (collapse false (trim isBlank (line.takeWhile (· ≠ delimiter))),
    trim isBlank ((line.dropWhile (· ≠ delimiter)).drop 1))

structure ConfigFile where
  entries : List (Bytes × Bytes)
  lines : List Bytes

/-- One line: the entries behind it, and the line as it is kept. -/
def loadLine (entries : List (Bytes × Bytes)) (line : Bytes) : List (Bytes × Bytes) × Bytes :=
  match parseEntry (trim isBlank line) with
  | none => (entries, trim isBlank line)
  | some (parameter, value) =>
    if parameter.isEmpty then (entries, parameter ++ delimiter :: value)
    else if (entries.lookup parameter).isSome then
      (entries, hash :: (parameter ++ delimiter :: value))
    else (entries ++ [(parameter, value)], parameter ++ delimiter :: value)

def loadLines (entries : List (Bytes × Bytes)) : List Bytes → ConfigFile
  | [] => { entries, lines := [] }
  | line :: lines =>
    let loaded := loadLine entries line
    let file := loadLines loaded.1 lines
    { file with lines := loaded.2 :: file.lines }

def loadConfig (content : Bytes) : ConfigFile := loadLines [] (getLines content)

/-- The parameter of a line as `setValue` looks for it. -/
def parameterOf (line : Bytes) : Option Bytes :=
  if delimiter ∈ line then some (trim isBlank (line.takeWhile (· ≠ delimiter))) else none

/-- The first line of the parameter is replaced; a new one goes to the end. -/
def setLine (parameter newLine : Bytes) : List Bytes → List Bytes
  | [] => [newLine]
  | line :: lines =>
    if parameterOf line = some parameter then newLine :: lines
    else line :: setLine parameter newLine lines

namespace ConfigFile

def setValue (file : ConfigFile) (parameter value : Bytes) : ConfigFile :=
  { entries := (parameter, value) :: file.entries
    lines := setLine parameter (parameter ++ delimiter :: value) file.lines }

def pendingContent (file : ConfigFile) : Bytes := file.lines.flatMap (· ++ [lf])

/-! ## Policies -/

end ConfigFile

def statusKey (policy : Bytes) : Bytes := policy ++ lit ".status"

def valueKey (policy : Bytes) : Bytes := policy ++ lit ".value"

def violationSeverityKey (policy : Bytes) : Bytes := policy ++ lit ".violation_severity"

inductive ViolationSeverity
  | None
  | Soft
  | Standard
  | Hard
  | Isolate
  deriving DecidableEq, Repr

def kViolationTokens : List (Bytes × ViolationSeverity) :=
  [(lit "NONE", .None), (lit "SOFT", .Soft), (lit "STANDARD", .Standard), (lit "HARD", .Hard),
    (lit "ISOLATE", .Isolate)]

def statusOf (text : Option Bytes) : Bytes :=
  if text = some (lit "ENABLE") then lit "ENABLE" else lit "DISABLE"

def valueOf (text : Option Bytes) : Bytes := text.getD []

/-- A severity that cannot be understood is treated as `Isolate`. -/
def violationSeverityOf : Option Bytes → ViolationSeverity
  | none => .None
  | some token => (kViolationTokens.lookup token).getD .Isolate

/-- What is said about a policy by the texts of its keys. -/
def policySettings (read : Bytes → Option Bytes) (policy : Bytes) :
    Bytes × Bytes × ViolationSeverity :=
  (statusOf (read (statusKey policy)), valueOf (read (valueKey policy)),
    violationSeverityOf (read (violationSeverityKey policy)))

namespace ConfigFile

def hasPolicyStatus (file : ConfigFile) (policy : Bytes) : Bool :=
  (file.entries.lookup (statusKey policy)).isSome

def getPolicyStatus (file : ConfigFile) (policy : Bytes) : Bytes :=
  statusOf (file.entries.lookup (statusKey policy))

def getPolicyValue (file : ConfigFile) (policy : Bytes) : Bytes :=
  valueOf (file.entries.lookup (valueKey policy))

def getPolicyViolationSeverity (file : ConfigFile) (policy : Bytes) : ViolationSeverity :=
  violationSeverityOf (file.entries.lookup (violationSeverityKey policy))

/-- `ModuleConfigFileHandler::setPolicyValue` for a policy with a name. -/
def setPolicyValue (file : ConfigFile) (policy value : Bytes) : ConfigFile :=
  (if file.hasPolicyStatus policy then file else file.setValue (statusKey policy) (lit "DISABLE"))
    |>.setValue (valueKey policy) value

end ConfigFile

structure PolicyType where
  validate : Bytes → Bool
  postprocessingValue : Bytes → Bytes

/-- The sign has been read; the digits in front of the text are the number. -/
def scanInt (negative : Bool) (text : Bytes) : Option (Int × Bytes) :=
  let digits := text.takeWhile isDigit
  let number : Int := if negative then -ofDecimal digits else ofDecimal digits
  if digits.isEmpty ∨ number < -2 ^ 31 ∨ 2 ^ 31 ≤ number then none
  else some (number, text.dropWhile isDigit)

/-- `std::from_chars` and the text behind the number. -/
def fromChars (text : Bytes) : Option (Int × Bytes) :=
  if text.head? = some '-'.toUInt8 then scanInt true (text.drop 1) else scanInt false text

/-- `std::stoi` and the text behind the number, which it does not look at. -/
def stoi (text : Bytes) : Option (Int × Bytes) :=
  let text := text.dropWhile isSpace
  if text.head? = some '+'.toUInt8 then scanInt false (text.drop 1) else fromChars text

def intPolicyTypeValue (min max : Int) (defaultPresent : Bool) : PolicyType where
  validate value :=
    match if defaultPresent then stoi value else fromChars value with
    | none => false
    | some (number, rest) => (defaultPresent || rest.isEmpty) && min ≤ number && number ≤ max
  postprocessingValue value := value

/-- The reader takes such a key as it is written. -/
def IsKey (key : Bytes) : Prop :=
  key ≠ [] ∧ ∀ c ∈ key, isSpace c = false ∧ c ≠ hash ∧ c ≠ delimiter

instance (key : Bytes) : Decidable (IsKey key) := inferInstanceAs (Decidable (_ ∧ _))

/-- The modules with the policies of their submodules. -/
structure PolicyRegistry where
  modules : List (Bytes × List (List (Bytes × PolicyType)))
  names : ∀ module ∈ modules, ∀ submodule ∈ module.2, ∀ policy ∈ submodule, IsKey policy.1

def findPolicy (registry : PolicyRegistry) (module policy : Bytes) : Option PolicyType :=
  (registry.modules.lookup module).bind fun submodules => submodules.findSome? (·.lookup policy)

/-- The new content of the file of the module; `none` is a file that cannot be loaded. -/
def setPolicyValue (registry : PolicyRegistry) (module policy logicalValue : Bytes)
    (content : Option Bytes) (saves : Bool) : Except Bytes Bytes :=
  match findPolicy registry module policy with
  | none => .error (lit "policy does not exist")
  | some type =>
    if !type.validate logicalValue then .error (lit "policy value is invalid")
    else if (type.postprocessingValue logicalValue).isEmpty then
      .error (lit "policy value serialization failed")
    else
      match content with
      | none => .error (lit "could not load module configuration")
      | some content =>
        if policy.isEmpty then .error (lit "could not set policy value")
        else if !saves then .error (lit "could not save module configuration")
        else .ok ((loadConfig content).setPolicyValue policy
          (type.postprocessingValue logicalValue)).pendingContent

/-! ## Reading one line -/

variable {a b line parameter value key other policy content : Bytes} {lines : List Bytes}
  {entries : List (Bytes × Bytes)} {file : ConfigFile}

theorem isBlank_of_isSpace : ∀ c, isSpace c = false → isBlank c = false := by
  decide +kernel

theorem IsKey.trim (h : IsKey key) : trim isBlank key = key :=
  trim_eq_self fun c hc => isBlank_of_isSpace c (h.2 c hc).1

theorem collapse_eq_iff (h : ∀ c ∈ key, isSpace c = false) (text : Bytes) :
    collapse false text = key ↔ text = key := by
  induction text generalizing key with
  | nil => rfl
  | cons c text ih =>
    rw [collapse]
    by_cases hc : isSpace c = true
    · -- the first white space of a text stays, and a key has none
      have hkey : c ∉ key := fun hin => by simp [h c hin] at hc
      rw [if_pos hc, if_neg Bool.false_ne_true]
      constructor <;> rintro rfl <;> simp at hkey
    · cases key with
      | nil => simp [hc]
      | cons d key =>
        rw [if_neg hc, List.cons.injEq, List.cons.injEq,
          ih fun c hc => h c (List.mem_cons_of_mem d hc)]

theorem collapse_sublist (space : Bool) (text : Bytes) : (collapse space text).Sublist text := by
  induction text generalizing space with
  | nil => exact .slnil
  | cons c text ih =>
    rw [collapse]
    split_ifs
    · exact (ih _).cons _
    · exact (ih _).cons_cons _
    · exact (ih _).cons_cons _

theorem parseEntry_trim (ha : delimiter ∉ a) :
    parseEntry (trim isBlank (a ++ delimiter :: b)) =
      if hash ∈ a ++ delimiter :: b then none
      else some (collapse false (trim isBlank a), trim isBlank b) := by
  have hhash : hash ∈ trim isBlank (a ++ delimiter :: b) ↔ hash ∈ a ++ delimiter :: b :=
    mem_trim (by decide)
  have hdelimiter : delimiter ∉ a.dropWhile isBlank :=
    fun h => ha ((List.dropWhile_suffix _).sublist.subset h)
  rw [parseEntry]
  simp only [hhash]
  rw [trim_append_cons (by decide), takeWhile_cut hdelimiter, dropWhile_cut hdelimiter,
    List.drop_one, List.tail_cons, trim_dropWhile, trim_rdropWhile]
  simp

theorem parameterOf_cut (ha : delimiter ∉ a) :
    parameterOf (a ++ delimiter :: b) = some (trim isBlank a) := by
  rw [parameterOf, if_pos (by simp), takeWhile_cut ha]

/-- What a line assigns, and where it stands. -/
theorem parseEntry_inv (h : parseEntry (trim isBlank line) = some (parameter, value)) :
    ∃ a b, line = a ++ delimiter :: b ∧ delimiter ∉ a ∧ hash ∉ line ∧
      parameter = collapse false (trim isBlank a) ∧ value = trim isBlank b := by
  have hmem : delimiter ∈ line := by
    by_contra hno
    rw [parseEntry, if_pos (.inr fun hin => hno ((trim_sublist line).subset hin))] at h
    contradiction
  obtain ⟨a, b, rfl, ha⟩ := List.eq_append_cons_of_mem hmem
  rw [parseEntry_trim ha] at h
  split_ifs at h with hhash
  obtain ⟨rfl, rfl⟩ := Prod.mk.inj (Option.some.inj h)
  exact ⟨a, b, rfl, ha, hhash, rfl, rfl⟩

/-- The reader and the writer find the same key in a line. -/
theorem parseEntry_key (h : parseEntry (trim isBlank line) = some (parameter, value))
    (hkey : IsKey key) : parameter = key ↔ parameterOf line = some key := by
  obtain ⟨a, b, rfl, ha, -, rfl, -⟩ := parseEntry_inv h
  rw [collapse_eq_iff fun c hc => (hkey.2 c hc).1, parameterOf_cut ha, Option.some_inj]

/-- A value that a line gives back. -/
structure PlainValue (value : Bytes) : Prop where
  oneLine : lf ∉ value
  noComment : hash ∉ value
  trimmed : trim isBlank value = value

theorem parseEntry_written (hkey : IsKey key) (hvalue : PlainValue value) :
    parseEntry (trim isBlank (key ++ delimiter :: value)) = some (key, value) := by
  have hhash : hash ∉ key ++ delimiter :: value := by
    have hnot : hash ∉ key := fun h => (hkey.2 hash h).2.1 rfl
    simp [hvalue.noComment, hnot, show hash ≠ delimiter by decide]
  rw [parseEntry_trim fun h => (hkey.2 _ h).2.2 rfl, if_neg hhash, hkey.trim, hvalue.trimmed,
    (collapse_eq_iff (fun c hc => (hkey.2 c hc).1) key).mpr rfl]

/-! ## Reading a file -/

/-- The first line that assigns the key decides. -/
def assigned (key : Bytes) : List Bytes → Option Bytes
  | [] => none
  | line :: lines =>
    match parseEntry (trim isBlank line) with
    | none => assigned key lines
    | some (parameter, value) => if parameter = key then some value else assigned key lines

theorem lookup_loadLines (hkey : key ≠ []) (lines : List Bytes) :
    (loadLines entries lines).entries.lookup key =
      (entries.lookup key).or (assigned key lines) := by
  induction lines generalizing entries with
  | nil => simp [loadLines, assigned]
  | cons line lines ih =>
    rw [loadLines, assigned]
    dsimp only
    rw [ih, loadLine]
    cases parseEntry (trim isBlank line) with
    | none => rfl
    | some entry =>
      obtain ⟨parameter, value⟩ := entry
      dsimp only
      split_ifs with hempty heq hknown heq heq
      · exact absurd (heq ▸ List.isEmpty_iff.mp hempty) hkey
      · rfl
      · obtain ⟨known, hknown⟩ := Option.isSome_iff_exists.mp hknown
        rw [← heq, hknown, Option.some_or, Option.some_or]
      · rfl
      · rw [List.lookup_append, heq]
        simp
      · have hne : (key == parameter) = false := by simpa using Ne.symm heq
        rw [List.lookup_append, List.lookup_cons, hne, List.lookup_nil, Option.or_none]

theorem plainValue_of_assigned (hlines : ∀ line ∈ lines, lf ∉ line)
    (h : assigned key lines = some value) : PlainValue value := by
  induction lines with
  | nil => contradiction
  | cons line lines ih =>
    obtain ⟨hline, hlines⟩ := List.forall_mem_cons.mp hlines
    rw [assigned] at h
    split at h
    · exact ih hlines h
    · rename_i parameter written hparse
      split_ifs at h
      · obtain ⟨a, b, rfl, -, hhash, -, rfl⟩ := parseEntry_inv hparse
        have hmem : ∀ c ∈ value, c ∈ a ++ delimiter :: b := by
          intro c hc
          rw [← Option.some.inj h] at hc
          simp [(trim_sublist b).subset hc]
        exact ⟨fun hin => hline (hmem _ hin), fun hin => hhash (hmem _ hin),
          Option.some.inj h ▸ trim_trim b⟩
      · exact ih hlines h

theorem loadLine_oneLine (h : lf ∉ line) : lf ∉ (loadLine entries line).2 := by
  rw [loadLine]
  split
  · exact fun hin => h ((trim_sublist line).subset hin)
  · rename_i parameter value hparse
    obtain ⟨a, b, rfl, -, -, rfl, rfl⟩ := parseEntry_inv hparse
    have ha : lf ∉ collapse false (trim isBlank a) := fun hin =>
      h (List.mem_append_left _ ((trim_sublist a).subset ((collapse_sublist _ _).subset hin)))
    have hb : lf ∉ trim isBlank b := fun hin =>
      h (List.mem_append_right _ (List.mem_cons_of_mem _ ((trim_sublist b).subset hin)))
    have hwritten : lf ∉ collapse false (trim isBlank a) ++ delimiter :: trim isBlank b := by
      simp [ha, hb, show lf ≠ delimiter by decide]
    split_ifs
    · exact hwritten
    · simp [hwritten, show lf ≠ hash by decide]
    · exact hwritten

theorem loadLines_oneLine (h : ∀ line ∈ lines, lf ∉ line) :
    ∀ line ∈ (loadLines entries lines).lines, lf ∉ line := by
  induction lines generalizing entries with
  | nil => exact h
  | cons line lines ih =>
    obtain ⟨hline, hlines⟩ := List.forall_mem_cons.mp h
    exact List.forall_mem_cons.mpr ⟨loadLine_oneLine hline, ih hlines⟩

theorem getLines_oneLine (content : Bytes) : ∀ line ∈ getLines content, lf ∉ line := by
  intro line hline hin
  obtain ⟨physical, -, rfl⟩ := List.mem_map.mp hline
  simpa using List.mem_takeWhile_imp hin

theorem loadConfig_oneLine : ∀ line ∈ (loadConfig content).lines, lf ∉ line :=
  loadLines_oneLine (getLines_oneLine content)

theorem getLines_pendingContent (h : ∀ line ∈ lines, lf ∉ line) :
    getLines (lines.flatMap (· ++ [lf])) = lines := by
  induction lines with
  | nil => rfl
  | cons line lines ih =>
    obtain ⟨hline, hlines⟩ := List.forall_mem_cons.mp h
    rw [getLines, List.flatMap_cons, List.append_assoc, List.singleton_append,
      physicalLines_line hline, List.map_cons, takeWhile_cut hline]
    exact congrArg _ (ih hlines)

/-- What is read back from a file that was saved. -/
theorem lookup_saved (h : ∀ line ∈ file.lines, lf ∉ line) (hkey : key ≠ []) :
    (loadConfig file.pendingContent).entries.lookup key = assigned key file.lines := by
  rw [loadConfig, ConfigFile.pendingContent, getLines_pendingContent h, lookup_loadLines hkey]
  rfl

/-! ## Keys with white space behind them -/

/-- The text in front of the delimiter, without the blanks at its ends. -/
def keyPart (line : Bytes) : Bytes := trim isBlank (line.takeWhile (· ≠ delimiter))

def valuePart (line : Bytes) : Bytes := trim isBlank ((line.dropWhile (· ≠ delimiter)).drop 1)

/-- White space that begins with a blank.  At the end of a key it is one that does not end
with a blank, but with a vertical tab or a form feed. -/
def isPadding (text : Bytes) : Bool := text.head?.any isBlank && text.all isSpace

/-- The line assigns the key, or (`padded`) the key with such white space behind it. -/
def names (padded : Bool) (key line : Bytes) : Bool :=
  !line.contains hash && line.contains delimiter &&
    (keyPart line = key ||
      padded && key.isPrefixOf (keyPart line) && isPadding ((keyPart line).drop key.length))

/-- The value of the first line that does. -/
def firstValue (padded : Bool) (lines : List Bytes) (key : Bytes) : Option Bytes :=
  (lines.find? (names padded key)).map valuePart

theorem parseEntry_parts (line : Bytes) : parseEntry (trim isBlank line) =
    if hash ∈ line ∨ delimiter ∉ line then none
    else some (collapse false (keyPart line), valuePart line) := by
  by_cases hmem : delimiter ∈ line
  · obtain ⟨a, b, rfl, ha⟩ := List.eq_append_cons_of_mem hmem
    rw [parseEntry_trim ha, keyPart, valuePart, takeWhile_cut ha, dropWhile_cut ha]
    simp
  · rw [parseEntry, if_pos (.inr fun hin => hmem ((trim_sublist line).subset hin)),
      if_pos (.inr hmem)]

theorem collapse_append (h : ∀ c ∈ key, isSpace c = false) (text : Bytes) :
    collapse false (key ++ text) = key ++ collapse false text := by
  induction key with
  | nil => rfl
  | cons c key ih =>
    obtain ⟨hc, hkey⟩ := List.forall_mem_cons.mp h
    rw [List.cons_append, collapse, if_neg (by simp [hc]), ih hkey, List.cons_append]

theorem eq_append_of_collapse (h : ∀ c ∈ key, isSpace c = false) {text rest : Bytes}
    (heq : collapse false text = key ++ rest) :
    ∃ rest', text = key ++ rest' ∧ collapse false rest' = rest := by
  induction key generalizing text with
  | nil => exact ⟨text, rfl, heq⟩
  | cons c key ih =>
    obtain ⟨hc, hkey⟩ := List.forall_mem_cons.mp h
    cases text with
    | nil => simp [collapse] at heq
    | cons d text =>
      rw [collapse] at heq
      by_cases hd : isSpace d = true
      · simp only [hd, if_true, Bool.false_eq_true, if_false, List.cons_append,
          List.cons.injEq] at heq
        rw [heq.1, hc] at hd
        contradiction
      · rw [if_neg hd, List.cons_append, List.cons.injEq] at heq
        obtain ⟨rest', rfl, hrest⟩ := ih hkey heq.2
        exact ⟨rest', by rw [heq.1, List.cons_append], hrest⟩

theorem collapse_true_nil_iff (text : Bytes) :
    collapse true text = [] ↔ text.all isSpace = true := by
  induction text with
  | nil => simp [collapse]
  | cons c text ih =>
    rw [collapse, List.all_cons]
    cases isSpace c <;> simp [ih]

theorem collapse_true_head {c : UInt8} {rest text : Bytes} (h : collapse true text = c :: rest) :
    isSpace c = false := by
  induction text with
  | nil => contradiction
  | cons d text ih =>
    rw [collapse, if_pos rfl] at h
    split_ifs at h with hd
    · exact ih h
    · rw [← (List.cons.inj h).1]
      exact Bool.eq_false_iff.mpr hd

theorem isPadding_of_collapse {text : Bytes} (h : ∀ c ∈ collapse false text, isBlank c = true) :
    text = [] ∨ isPadding text = true := by
  have hspace : ∀ c, isBlank c = true → isSpace c = true := by decide +kernel
  cases text with
  | nil => exact .inl rfl
  | cons c text =>
    have hblank : isBlank c = true := h c (by rw [collapse]; split <;> exact List.mem_cons_self)
    rw [collapse, if_pos (hspace c hblank), if_neg Bool.false_ne_true] at h
    have hnil : collapse true text = [] := by
      cases hrest : collapse true text with
      | nil => rfl
      | cons d rest =>
        have hd := hspace d (h d (by simp [hrest]))
        exact absurd ((collapse_true_head hrest).symm.trans hd) Bool.false_ne_true
    rw [isPadding, List.all_cons, (collapse_true_nil_iff text).mp hnil, hspace c hblank]
    exact .inr (by rw [List.head?_cons, Option.any_some, hblank]; rfl)

/-- A load keeps the first byte of the white space behind a key.  When that is a blank, the
next load takes it away. -/
theorem trim_collapse_iff (hkey : IsKey key) {text : Bytes} (htext : trim isBlank text = text) :
    trim isBlank (collapse false text) = key ↔
      text = key ∨ ∃ rest, text = key ++ rest ∧ isPadding rest = true := by
  have hplain : ∀ c ∈ key, isSpace c = false := fun c hc => (hkey.2 c hc).1
  constructor
  · intro h
    have hhead : (collapse false text).dropWhile isBlank = collapse false text := by
      cases text with
      | nil => rfl
      | cons c text =>
        have hc : ¬ isBlank c = true := by
          intro hc
          have hshort := (trim_sublist text (p := isBlank)).length_le
          rw [trim, List.dropWhile_cons_of_pos hc, ← trim] at htext
          rw [htext, List.length_cons] at hshort
          omega
        rw [collapse]
        split <;> exact List.dropWhile_cons_of_neg hc
    rw [trim, hhead] at h
    have hsplit := List.rdropWhile_append_rtakeWhile (p := isBlank) (l := collapse false text)
    rw [h] at hsplit
    obtain ⟨rest, rfl, hrest⟩ := eq_append_of_collapse hplain hsplit.symm
    rcases isPadding_of_collapse fun c hc => List.mem_rtakeWhile_imp (hrest ▸ hc) with rfl | hpad
    · exact .inl (List.append_nil _)
    · exact .inr ⟨rest, rfl, hpad⟩
  · rintro (rfl | ⟨rest, rfl, hpad⟩)
    · rw [(collapse_eq_iff hplain text).mpr rfl, hkey.trim]
    · cases rest with
      | nil => contradiction
      | cons c rest =>
        obtain ⟨hblank, hspace⟩ : isBlank c = true ∧ isSpace c = true ∧
            rest.all isSpace = true := by
          simpa [isPadding] using hpad
        rw [collapse_append hplain, collapse, if_pos hspace.1, if_neg Bool.false_ne_true,
          (collapse_true_nil_iff rest).mpr hspace.2, ← trim_rdropWhile,
          List.rdropWhile_concat_pos _ _ _ hblank, trim_rdropWhile, hkey.trim]

theorem names_eq (padded : Bool) (key line : Bytes) : names padded key line = true ↔
    (hash ∉ line ∧ delimiter ∈ line) ∧ (keyPart line = key ∨
      padded = true ∧ ∃ rest, keyPart line = key ++ rest ∧ isPadding rest = true) := by
  have hprefix : key.isPrefixOf (keyPart line) = true ∧
        isPadding ((keyPart line).drop key.length) = true ↔
      ∃ rest, keyPart line = key ++ rest ∧ isPadding rest = true := by
    rw [List.isPrefixOf_iff_prefix]
    constructor
    · rintro ⟨⟨rest, hrest⟩, hpad⟩
      rw [← hrest, List.drop_left] at hpad
      exact ⟨rest, hrest.symm, hpad⟩
    · rintro ⟨rest, hrest, hpad⟩
      rw [hrest, List.drop_left]
      exact ⟨List.prefix_append _ _, hpad⟩
  simp only [names, Bool.and_eq_true, Bool.or_eq_true, Bool.not_eq_true', List.contains_iff_mem,
    decide_eq_true_eq, and_assoc, hprefix, ← Bool.not_eq_true]

/-- A line that names the key once it is loaded, saved and read again. -/
theorem names_padded (hkey : IsKey key) (line : Bytes) : names true key line = true ↔
    (hash ∉ line ∧ delimiter ∈ line) ∧ trim isBlank (collapse false (keyPart line)) = key := by
  have htrim : trim isBlank (keyPart line) = keyPart line := trim_trim _
  rw [names_eq, trim_collapse_iff hkey htrim]
  simp

theorem firstValue_cons (padded : Bool) : firstValue padded (line :: lines) key =
    if names padded key line then some (valuePart line) else firstValue padded lines key := by
  rw [firstValue, List.find?_cons]
  split <;> simp_all [firstValue]

theorem assigned_cons : assigned key (line :: lines) =
    if (hash ∉ line ∧ delimiter ∈ line) ∧ collapse false (keyPart line) = key then
      some (valuePart line)
    else assigned key lines := by
  rw [assigned, parseEntry_parts]
  by_cases hline : hash ∈ line ∨ delimiter ∉ line
  · rw [if_pos hline, if_neg (by tauto)]
  · rw [if_neg hline]
    exact if_congr (by tauto) rfl rfl

/-- The load that reads the file. -/
theorem assigned_eq (hkey : IsKey key) (lines : List Bytes) :
    assigned key lines = firstValue false lines key := by
  induction lines with
  | nil => rfl
  | cons line lines ih =>
    rw [assigned_cons, firstValue_cons, ih]
    refine if_congr ?_ rfl rfl
    rw [collapse_eq_iff fun c hc => (hkey.2 c hc).1, names_eq]
    simp

theorem parseEntry_kept (h : parseEntry (trim isBlank line) = some (parameter, value)) :
    parseEntry (trim isBlank (parameter ++ delimiter :: value)) =
      some (collapse false (trim isBlank parameter), value) := by
  obtain ⟨a, b, rfl, ha, hhash, rfl, rfl⟩ := parseEntry_inv h
  have hsub : (collapse false (trim isBlank a)).Sublist a :=
    (collapse_sublist _ _).trans (trim_sublist a)
  have hkept : hash ∉ collapse false (trim isBlank a) ++ delimiter :: trim isBlank b :=
    fun hin => hhash ((hsub.append ((trim_sublist b).cons_cons delimiter)).subset hin)
  rw [parseEntry_trim fun hin => ha (hsub.subset hin), if_neg hkept, trim_trim]

/-- The load that reads what the first one has saved. -/
theorem assigned_loadLines (hkey : IsKey key)
    (hentries : ∀ entry ∈ entries, trim isBlank entry.1 ≠ key) (lines : List Bytes) :
    assigned key (loadLines entries lines).lines = firstValue true lines key := by
  induction lines generalizing entries with
  | nil => rfl
  | cons line lines ih =>
    have hplain : ∀ c ∈ key, isSpace c = false := fun c hc => (hkey.2 c hc).1
    rw [firstValue_cons, loadLines, assigned, loadLine]
    cases hparse : parseEntry (trim isBlank line) with
    | none =>
      have hno : ¬ names true key line = true := by
        rw [parseEntry_parts] at hparse
        split_ifs at hparse with hline
        rw [names_padded hkey]
        tauto
      simp only [trim_trim, hparse, if_neg hno, ih hentries]
    | some entry =>
      obtain ⟨parameter, value⟩ := entry
      have hkept := parseEntry_kept hparse
      have hcomment : parseEntry (trim isBlank (hash :: (parameter ++ delimiter :: value))) =
          none := by
        rw [parseEntry_parts, if_pos (.inl List.mem_cons_self)]
      rw [parseEntry_parts] at hparse
      split_ifs at hparse with hline
      obtain ⟨rfl, rfl⟩ := Prod.mk.inj (Option.some.inj hparse)
      have hnames : names true key line = true ↔
          trim isBlank (collapse false (keyPart line)) = key :=
        (names_padded hkey line).trans (by tauto)
      simp only [hnames]
      generalize collapse false (keyPart line) = parameter at hkept hcomment
      by_cases hempty : parameter.isEmpty = true
      · have hne : trim isBlank parameter ≠ key := by
          rw [List.isEmpty_iff.mp hempty]
          exact hkey.1.symm
        simp only [hempty, hkept, collapse_eq_iff hplain, hne, if_true, if_false, ih hentries]
      by_cases hknown : (entries.lookup parameter).isSome = true
      · -- a line that is kept as a comment repeats one in front of it
        obtain ⟨known, hknown'⟩ := Option.isSome_iff_exists.mp hknown
        have hne : trim isBlank parameter ≠ key := hentries _ (mem_of_lookup hknown')
        simp only [hempty, hknown, hcomment, hne, Bool.false_eq_true, if_true, if_false,
          ih hentries]
      · simp only [hempty, hknown, hkept, collapse_eq_iff hplain, Bool.false_eq_true, if_false]
        by_cases hne : trim isBlank parameter = key
        · rw [if_pos hne, if_pos hne]
        · rw [if_neg hne, if_neg hne, ih]
          exact List.forall_mem_append.mpr ⟨hentries, List.forall_mem_singleton.mpr hne⟩

/-! ## Setting a value -/

theorem assigned_setLine (hkey : IsKey key) (hvalue : PlainValue value)
    (lines : List Bytes) :
    assigned other (setLine key (key ++ delimiter :: value) lines) =
      if key = other then some value else assigned other lines := by
  induction lines with
  | nil => simp [setLine, assigned, parseEntry_written hkey hvalue]
  | cons line lines ih =>
    rw [setLine]
    split_ifs with hline heq heq
    · rw [assigned, parseEntry_written hkey hvalue]
      exact if_pos heq
    · -- the line that was replaced assigned the key or nothing
      rw [assigned, parseEntry_written hkey hvalue, assigned]
      dsimp only
      rw [if_neg heq]
      split
      · rfl
      · rename_i parameter _ hparse
        rw [(parseEntry_key hparse hkey).mpr hline, if_neg heq]
    all_goals
      rw [assigned, ih]
      split
      · simp [assigned, *]
      · rename_i parameter _ hparse
        have hne : parameter ≠ key := fun h => hline ((parseEntry_key hparse hkey).mp h)
        grind [assigned]

theorem setLine_oneLine {newLine : Bytes} (hnew : lf ∉ newLine) (h : ∀ line ∈ lines, lf ∉ line) :
    ∀ line ∈ setLine key newLine lines, lf ∉ line := by
  induction lines with
  | nil => simpa [setLine] using hnew
  | cons line lines ih =>
    obtain ⟨hline, hlines⟩ := List.forall_mem_cons.mp h
    rw [setLine]
    split_ifs
    · exact List.forall_mem_cons.mpr ⟨hnew, hlines⟩
    · exact List.forall_mem_cons.mpr ⟨hline, ih hlines⟩

theorem setValue_oneLine (hkey : IsKey key) (hvalue : lf ∉ value)
    (h : ∀ line ∈ file.lines, lf ∉ line) : ∀ line ∈ (file.setValue key value).lines, lf ∉ line := by
  have hnot : lf ∉ key := fun hin => by simpa [isSpace, lf] using (hkey.2 lf hin).1
  exact setLine_oneLine (by simp [hnot, hvalue, show lf ≠ delimiter by decide]) h

/-! ## The round trip -/

theorem IsKey.append (ha : IsKey a) (hb : IsKey b) : IsKey (a ++ b) :=
  ⟨by simp [ha.1], List.forall_mem_append.mpr ⟨ha.2, hb.2⟩⟩

theorem isKey_statusKey (h : IsKey policy) : IsKey (statusKey policy) :=
  h.append (by decide +kernel)

theorem isKey_valueKey (h : IsKey policy) : IsKey (valueKey policy) :=
  h.append (by decide +kernel)

theorem isKey_violationSeverityKey (h : IsKey policy) : IsKey (violationSeverityKey policy) :=
  h.append (by decide +kernel)

/-- The suffixes differ in their last bytes. -/
theorem keys_ne (policy other : Bytes) : valueKey policy ≠ statusKey other ∧
    violationSeverityKey policy ≠ statusKey other ∧
      violationSeverityKey policy ≠ valueKey other := by
  have hlast : (lit ".status").getLast? = some 115 ∧
      (lit ".value").getLast? = some 101 ∧
      (lit ".violation_severity").getLast? = some 121 := by
    decide +kernel
  refine ⟨?_, ?_, ?_⟩ <;> intro h <;> have := congrArg List.getLast? h <;>
    simp [statusKey, valueKey, violationSeverityKey, List.getLast?_append, hlast] at this

variable {registry : PolicyRegistry}

theorem isKey_of_findPolicy {module : Bytes}
    (h : (findPolicy registry module policy).isSome) : IsKey policy := by
  obtain ⟨type, htype⟩ := Option.isSome_iff_exists.mp h
  obtain ⟨submodules, hmodule, hfound⟩ := Option.bind_eq_some_iff.mp htype
  obtain ⟨submodule, hsubmodule, hpolicy⟩ := List.exists_of_findSome?_eq_some hfound
  exact registry.names _ (mem_of_lookup hmodule) _ hsubmodule _ (mem_of_lookup hpolicy)

structure RoundTrips (registry : PolicyRegistry) (module policy stored : Bytes)
    (before after : ConfigFile) : Prop where
  value : after.getPolicyValue policy = stored
  status : after.getPolicyStatus policy = before.getPolicyStatus policy
  others : ∀ other, (findPolicy registry module other).isSome → other ≠ policy →
    after.getPolicyStatus other = before.getPolicyStatus other ∧
      after.getPolicyValue other = before.getPolicyValue other ∧
      after.getPolicyViolationSeverity other = before.getPolicyViolationSeverity other

/-- No line whose key has white space behind it stands in front of the one that assigns the
key and says something else. -/
structure Unshadowed (registry : PolicyRegistry) (module policy : Bytes) (lines : List Bytes) :
    Prop where
  status : (firstValue false lines (statusKey policy)).isSome →
    statusOf (firstValue true lines (statusKey policy)) =
      statusOf (firstValue false lines (statusKey policy))
  others : ∀ other, (findPolicy registry module other).isSome → other ≠ policy →
    policySettings (firstValue true lines) other = policySettings (firstValue false lines) other

section Stored

variable {stored : Bytes} (hpolicy : IsKey policy) (hstored : PlainValue stored)
  (hfile : ∀ line ∈ file.lines, lf ∉ line)
include hpolicy hstored hfile

theorem lookup_stored (hkey : IsKey key) :
    (loadConfig (file.setPolicyValue policy stored).pendingContent).entries.lookup key =
      if valueKey policy = key then some stored
      else if file.hasPolicyStatus policy = false ∧ statusKey policy = key then
        some (lit "DISABLE")
      else assigned key file.lines := by
  have hstatus := isKey_statusKey hpolicy
  have hvalue := isKey_valueKey hpolicy
  have hdisable : PlainValue (lit "DISABLE") := ⟨by decide, by decide, by decide⟩
  rw [ConfigFile.setPolicyValue]
  cases file.hasPolicyStatus policy
  all_goals simp only [Bool.false_eq_true, if_true, if_false, true_and, reduceCtorEq, false_and]
  · have hfile := setValue_oneLine hstatus hdisable.oneLine hfile
    rw [lookup_saved (setValue_oneLine hvalue hstored.oneLine hfile) hkey.1]
    exact (assigned_setLine hvalue hstored _).trans
      (if_congr Iff.rfl rfl (assigned_setLine hstatus hdisable _))
  · rw [lookup_saved (setValue_oneLine hvalue hstored.oneLine hfile) hkey.1]
    exact assigned_setLine hvalue hstored _

theorem value_stored :
    (loadConfig (file.setPolicyValue policy stored).pendingContent).getPolicyValue policy =
      stored := by
  rw [ConfigFile.getPolicyValue, lookup_stored hpolicy hstored hfile (isKey_valueKey hpolicy),
    if_pos rfl, valueOf, Option.getD_some]

/-- A policy without a status becomes disabled, as which it was read before. -/
theorem status_stored :
    (loadConfig (file.setPolicyValue policy stored).pendingContent).getPolicyStatus policy =
      if file.hasPolicyStatus policy then statusOf (assigned (statusKey policy) file.lines)
      else file.getPolicyStatus policy := by
  have hkey := isKey_statusKey hpolicy
  simp only [ConfigFile.getPolicyStatus, lookup_stored hpolicy hstored hfile hkey,
    if_neg (keys_ne policy policy).1]
  cases hstatus : file.hasPolicyStatus policy
  · rw [ConfigFile.hasPolicyStatus, Option.isSome_eq_false_iff,
      Option.isNone_iff_eq_none] at hstatus
    simp [hstatus, statusOf, show lit "DISABLE" ≠ lit "ENABLE" by decide]
  · simp

theorem policySettings_stored (hother : IsKey other) (hne : other ≠ policy) :
    policySettings ((loadConfig
        (file.setPolicyValue policy stored).pendingContent).entries.lookup ·) other =
      policySettings (assigned · file.lines) other := by
  have hsame : ∀ key, IsKey key → valueKey policy ≠ key → statusKey policy ≠ key →
      (loadConfig (file.setPolicyValue policy stored).pendingContent).entries.lookup key =
        assigned key file.lines := by
    intro key hkey hvalue hstatus
    rw [lookup_stored hpolicy hstored hfile hkey, if_neg hvalue, if_neg fun h => hstatus h.2]
  have hstatus := hsame _ (isKey_statusKey hother) (keys_ne policy other).1
    fun h => hne (List.append_cancel_right h).symm
  have hvalue := hsame _ (isKey_valueKey hother) (fun h => hne (List.append_cancel_right h).symm)
    (keys_ne other policy).1.symm
  have hseverity := hsame _ (isKey_violationSeverityKey hother) (keys_ne other policy).2.2.symm
    (keys_ne other policy).2.1.symm
  simp only [policySettings, hstatus, hvalue, hseverity]

end Stored

theorem policySettings_congr {read read' : Bytes → Option Bytes} (hother : IsKey other)
    (h : ∀ key, IsKey key → read key = read' key) :
    policySettings read other = policySettings read' other := by
  simp only [policySettings, h _ (isKey_statusKey hother), h _ (isKey_valueKey hother),
    h _ (isKey_violationSeverityKey hother)]

theorem lookup_loadConfig (hkey : IsKey key) :
    (loadConfig content).entries.lookup key = firstValue false (getLines content) key := by
  rw [loadConfig, lookup_loadLines hkey.1, assigned_eq hkey, List.lookup_nil, Option.none_or]

theorem assigned_loadConfig (hkey : IsKey key) :
    assigned key (loadConfig content).lines = firstValue true (getLines content) key :=
  assigned_loadLines hkey (by simp) _

theorem roundTrips_stored_iff {stored module : Bytes} (hpolicy : IsKey policy)
    (hstored : PlainValue stored) :
    RoundTrips registry module policy stored (loadConfig content)
      (loadConfig ((loadConfig content).setPolicyValue policy stored).pendingContent) ↔
        Unshadowed registry module policy (getLines content) := by
  have hfile := @loadConfig_oneLine content
  have hkey := isKey_statusKey hpolicy
  have hhas : (loadConfig content).hasPolicyStatus policy =
      (firstValue false (getLines content) (statusKey policy)).isSome := by
    rw [ConfigFile.hasPolicyStatus, lookup_loadConfig hkey]
  have hbefore : (loadConfig content).getPolicyStatus policy =
      statusOf (firstValue false (getLines content) (statusKey policy)) := by
    rw [ConfigFile.getPolicyStatus, lookup_loadConfig hkey]
  have hstatus := status_stored hpolicy hstored hfile
  rw [hhas, assigned_loadConfig hkey, hbefore] at hstatus
  have hothers : ∀ other, (findPolicy registry module other).isSome → other ≠ policy →
      (policySettings ((loadConfig ((loadConfig content).setPolicyValue policy
          stored).pendingContent).entries.lookup ·) other =
        policySettings ((loadConfig content).entries.lookup ·) other ↔
      policySettings (firstValue true (getLines content)) other =
        policySettings (firstValue false (getLines content)) other) := by
    intro other hother hne
    have hname := isKey_of_findPolicy hother
    rw [policySettings_stored hpolicy hstored hfile hname hne,
      policySettings_congr hname fun key => assigned_loadConfig,
      policySettings_congr hname fun key => lookup_loadConfig]
  constructor
  · intro back
    refine ⟨fun has => ?_, fun other hother hne => ?_⟩
    · exact ((hstatus.trans (if_pos has)).symm.trans back.status).trans hbefore
    · obtain ⟨hstatus, hvalue, hseverity⟩ := back.others other hother hne
      exact (hothers other hother hne).mp
        (Prod.ext hstatus (Prod.ext hvalue hseverity))
  · intro reads
    refine ⟨value_stored hpolicy hstored hfile, ?_, fun other hother hne => ?_⟩
    · rw [hstatus, hbefore]
      split_ifs with has
      · exact reads.status has
      · rfl
    · have hsame := (hothers other hother hne).mpr (reads.others other hother hne)
      simp only [policySettings, Prod.mk.injEq] at hsame
      exact hsame

/-- Only such values are read from a file. -/
theorem plainValue_of_getPolicyValue (hpolicy : IsKey policy) (hne : value ≠ [])
    (h : (loadConfig content).getPolicyValue policy = value) : PlainValue value := by
  rw [ConfigFile.getPolicyValue, loadConfig, lookup_loadLines (isKey_valueKey hpolicy).1,
    List.lookup_nil, Option.none_or] at h
  cases hassigned : assigned (valueKey policy) (getLines content) with
  | none => simp [hassigned, valueOf, hne.symm] at h
  | some found =>
    rw [hassigned, valueOf, Option.getD_some] at h
    exact h ▸ plainValue_of_assigned (getLines_oneLine content) hassigned

theorem setPolicyValue_eq_ok {module logicalValue content' : Bytes}
    {saves : Bool} {type : PolicyType} (hfound : findPolicy registry module policy = some type)
    (h : setPolicyValue registry module policy logicalValue (some content) saves = .ok content') :
    type.postprocessingValue logicalValue ≠ [] ∧
      content' = ((loadConfig content).setPolicyValue policy
        (type.postprocessingValue logicalValue)).pendingContent := by
  simp only [setPolicyValue, hfound] at h
  split_ifs at h with _ hempty
  exact ⟨by simpa using hempty, (Except.ok.inj h).symm⟩

/-- A value that was accepted is read back, and nothing else has changed, exactly when a line
can hold the value and no key with white space behind it shadows another one. -/
theorem setPolicyValue_roundTrips_iff {registry : PolicyRegistry}
    {module logicalValue content' : Bytes} {saves : Bool} {type : PolicyType}
    (hfound : findPolicy registry module policy = some type)
    (h : setPolicyValue registry module policy logicalValue (some content) saves = .ok content') :
    RoundTrips registry module policy (type.postprocessingValue logicalValue)
        (loadConfig content) (loadConfig content') ↔
      PlainValue (type.postprocessingValue logicalValue) ∧
        Unshadowed registry module policy (getLines content) := by
  obtain ⟨hnonempty, rfl⟩ := setPolicyValue_eq_ok hfound h
  have hpolicy : IsKey policy := isKey_of_findPolicy (by rw [hfound]; rfl)
  constructor
  · intro back
    have hstored := plainValue_of_getPolicyValue hpolicy hnonempty back.value
    exact ⟨hstored, (roundTrips_stored_iff hpolicy hstored).mp back⟩
  · rintro ⟨hstored, reads⟩
    exact (roundTrips_stored_iff hpolicy hstored).mpr reads

def unlockTime : Bytes := lit "failed_authentication_unlock_time"

def identityAccess : PolicyRegistry where
  modules := [(lit "identity_access", [[(unlockTime, intPolicyTypeValue 0 86400 true)]])]
  names := by decide +kernel

def unlockEnabled : Bytes := lit "failed_authentication_unlock_time.status=ENABLE\n"

theorem setPolicyValue_roundTrips_unlockTime :
    RoundTrips identityAccess (lit "identity_access") unlockTime (lit "300")
      (loadConfig unlockEnabled)
      (loadConfig (unlockEnabled ++ lit "failed_authentication_unlock_time.value=300\n")) := by
  have hset : setPolicyValue identityAccess (lit "identity_access") unlockTime (lit "300")
      (some unlockEnabled) true =
        .ok (unlockEnabled ++ lit "failed_authentication_unlock_time.value=300\n") := by
    decide +kernel
  have hplain : PlainValue (lit "300") :=
    ⟨by decide +kernel, by decide +kernel, by decide +kernel⟩
  refine (setPolicyValue_roundTrips_iff rfl hset).mpr ⟨hplain, fun _ => by decide +kernel, ?_⟩
  intro other hother hne
  have hno : (other == unlockTime) = false := by simpa using hne
  simp [findPolicy, identityAccess, List.lookup_cons, hno] at hother

/-- `std::stoi` reads the number in front of the line feed. -/
theorem setPolicyValue_secondLine : ∃ content',
    setPolicyValue identityAccess (lit "identity_access") unlockTime (lit "300\n#") (some []) true =
      .ok content' ∧
    ¬RoundTrips identityAccess (lit "identity_access") unlockTime (lit "300\n#") (loadConfig [])
      (loadConfig content') :=
  ⟨_, rfl, fun h => absurd h.value (by decide +kernel)⟩

end Fic.Config
