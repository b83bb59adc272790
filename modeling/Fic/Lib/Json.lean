import Fic.Lib.Except
import Fic.Lib.OrderedMap

/-!
# JSON values and their accessors

The part of the `nlohmann::json` value type that readers of JSON documents
use.  An object is the list of its members in the order of their keys; a float
is kept as its truncation, all that an integer conversion looks at.

A reader can end in two ways other than with a value: it can refuse the
document with a message, and an accessor can throw (`Fault`).  `Json.guarded`
is a `try` block around a reader.
-/

namespace Fic.Lib

variable {condition : Bool} {error what : Bytes}

inductive Json
  | null
  | bool (value : Bool)
  | unsigned (value : UInt64)
  | integer (value : Int64)
  | float (truncated : Int)
  | string (value : Bytes)
  | array (elements : List Json)
  | object (members : List (Bytes × Json))
  deriving Inhabited, Repr, BEq

/-- Why a reader gives no value. -/
inductive Fault
  | refused (error : Bytes)
  | thrown (what : Bytes)
  deriving DecidableEq, Repr

abbrev Reader (α : Type) := Except Fault α

def refuse {α : Type} (error : Bytes) : Reader α := .error (.refused error)

def throwing {α : Type} (what : Bytes) : Reader α := .error (.thrown what)

/-- Refuses the document unless the condition holds. -/
def require (condition : Bool) (error : Bytes) : Reader Unit :=
  if condition then .ok () else refuse error

@[simp] theorem require_eq_ok : require condition error = .ok () ↔ condition = true := by
  cases condition <;> simp [require, refuse]

@[simp] theorem require_true (error : Bytes) : require true error = .ok () := rfl

/-- Throws unless the condition holds. -/
def requireOrThrow (condition : Bool) (what : Bytes) : Reader Unit :=
  if condition then .ok () else throwing what

@[simp] theorem requireOrThrow_true (what : Bytes) : requireOrThrow true what = .ok () := rfl

@[simp] theorem requireOrThrow_eq_ok :
    requireOrThrow condition what = .ok () ↔ condition = true := by
  cases condition <;> simp [requireOrThrow, throwing]

/-- A `try` block that turns an exception into a refusal. -/
def guarded {α : Type} (error : Bytes → Bytes) (reader : Reader α) : Reader α :=
  match reader with
  | .error (.thrown what) => refuse (error what)
  | result => result

/-! ## Texts

The writer throws on a text that is not UTF-8.  The automaton keeps the number
of continuation bytes to come and the range of the next one. -/

structure Utf8State where
  pending : Nat
  low : UInt8
  high : UInt8
  deriving DecidableEq, Repr

def Utf8State.start : Utf8State := ⟨0, 0x80, 0xBF⟩

/-- Overlong forms, surrogates and values above the last plane are excluded by
the range of the second byte. -/
def Utf8State.lead (b : UInt8) : Option Utf8State :=
  if b < 0x80 then some .start
  else if 0xC2 ≤ b ∧ b ≤ 0xDF then some ⟨1, 0x80, 0xBF⟩
  else if b = 0xE0 then some ⟨2, 0xA0, 0xBF⟩
  else if b = 0xED then some ⟨2, 0x80, 0x9F⟩
  else if 0xE1 ≤ b ∧ b ≤ 0xEF then some ⟨2, 0x80, 0xBF⟩
  else if b = 0xF0 then some ⟨3, 0x90, 0xBF⟩
  else if 0xF1 ≤ b ∧ b ≤ 0xF3 then some ⟨3, 0x80, 0xBF⟩
  else if b = 0xF4 then some ⟨3, 0x80, 0x8F⟩
  else none

def Utf8State.step (s : Utf8State) (b : UInt8) : Option Utf8State :=
  if s.pending = 0 then lead b
  else if s.low ≤ b ∧ b ≤ s.high then some ⟨s.pending - 1, 0x80, 0xBF⟩
  else none

def validUtf8 (text : Bytes) : Bool :=
  (text.foldlM Utf8State.step .start).any fun s => s.pending = 0

namespace Json

/-- Every text in the value is valid UTF-8. -/
def isUtf8 : Json → Bool
  | .string text => validUtf8 text
  | .array elements => allUtf8 elements
  | .object members => membersUtf8 members
  | _ => true
where
  allUtf8 : List Json → Bool
    | [] => true
    | j :: rest => isUtf8 j && allUtf8 rest
  membersUtf8 : List (Bytes × Json) → Bool
    | [] => true
    | (key, j) :: rest => validUtf8 key && isUtf8 j && membersUtf8 rest

/-! ## Objects -/

/-- The object with the given members; the first one with a key counts. -/
def mkObject (members : List (Bytes × Json)) : Json :=
  .object (OrderedMap.ofList members).entries

def typeName : Json → Bytes
  | .null => lit "null"
  | .bool _ => lit "boolean"
  | .unsigned _ | .integer _ | .float _ => lit "number"
  | .string _ => lit "string"
  | .array _ => lit "array"
  | .object _ => lit "object"

def isObject : Json → Bool
  | .object _ => true
  | _ => false

def isArray : Json → Bool
  | .array _ => true
  | _ => false

def isString : Json → Bool
  | .string _ => true
  | _ => false

def isBool : Json → Bool
  | .bool _ => true
  | _ => false

def isUnsigned : Json → Bool
  | .unsigned _ => true
  | _ => false

def isNull : Json → Bool
  | .null => true
  | _ => false

/-- The member with a key; a value that is no object has no members. -/
def find? (key : Bytes) : Json → Option Json
  | .object members => members.lookup key
  | _ => none

def contains (key : Bytes) (j : Json) : Bool := (j.find? key).isSome

def size : Json → Nat
  | .null => 0
  | .array elements => elements.length
  | .object members => members.length
  | _ => 1

/-- The member exists and has the type tested for. -/
def hasMember (key : Bytes) (test : Json → Bool) (j : Json) : Bool :=
  (j.find? key).any test

/-- The value is this string. -/
def isText (text : Bytes) : Json → Bool
  | .string value => value = text
  | _ => false

/-! ## Accessors that throw -/

def typeError (expected : Bytes) (j : Json) : Bytes :=
  lit "[json.exception.type_error.302] type must be " ++ expected ++ lit ", but is " ++
    j.typeName

/-- The accessor `at()`. -/
def atKey (key : Bytes) (j : Json) : Reader Json :=
  match j with
  | .object members =>
    match members.lookup key with
    | some value => .ok value
    | none =>
      throwing (lit "[json.exception.out_of_range.403] key '" ++ key ++ lit "' not found")
  | _ => throwing (lit "[json.exception.type_error.304] cannot use at() with " ++ j.typeName)

def getString : Json → Reader Bytes
  | .string value => .ok value
  | j => throwing (typeError (lit "string") j)

def getBool : Json → Reader Bool
  | .bool value => .ok value
  | j => throwing (typeError (lit "boolean") j)

def getUInt64 : Json → Reader UInt64
  | .unsigned value => .ok value
  | .integer value => .ok value.toUInt64
  | .float truncated => .ok (.ofInt truncated)
  | j => throwing (typeError (lit "number") j)

def getInt64 : Json → Reader Int64
  | .unsigned value => .ok value.toInt64
  | .integer value => .ok value
  | .float truncated => .ok (.ofInt truncated)
  | j => throwing (typeError (lit "number") j)

/-- Unlike the 64 bit conversions this one takes truth values. -/
def getUInt32 : Json → Reader UInt32
  | .unsigned value => .ok value.toUInt32
  | .integer value => .ok value.toUInt64.toUInt32
  | .float truncated => .ok (.ofInt truncated)
  | .bool value => .ok (if value then 1 else 0)
  | j => throwing (typeError (lit "number") j)

def getArray : Json → Reader (List Json)
  | .array elements => .ok elements
  | j => throwing (typeError (lit "array") j)

def getObject : Json → Reader (List (Bytes × Json))
  | .object members => .ok members
  | j => throwing (typeError (lit "object") j)

/-- Reads every element of a list. -/
def readAll {α : Type} (read : Json → Reader α) : List Json → Reader (List α)
  | [] => .ok []
  | j :: rest => do
    let value ← read j
    let values ← readAll read rest
    .ok (value :: values)

/-- Reads the value of every member. -/
def readMembers {α : Type} (read : Json → Reader α) :
    List (Bytes × Json) → Reader (List (Bytes × α))
  | [] => .ok []
  | (key, j) :: rest => do
    let value ← read j
    let values ← readMembers read rest
    .ok ((key, value) :: values)

def getStrings (j : Json) : Reader (List Bytes) := do
  readAll getString (← j.getArray)

/-- A `std::map` with string keys. -/
def getMap {α : Type} (read : Json → Reader α) (j : Json) : Reader (OrderedMap α) := do
  let entries ← readMembers read (← j.getObject)
  .ok (OrderedMap.ofList entries)

/-- The member with a key, or the default if there is none. -/
def value {α : Type} (read : Json → Reader α) (key : Bytes) (default : α) (j : Json) :
    Reader α :=
  match j with
  | .object members =>
    match members.lookup key with
    | some member => read member
    | none => .ok default
  | _ =>
    throwing (lit "[json.exception.type_error.306] cannot use value() with " ++ j.typeName)

def valueString (key : Bytes) (j : Json) : Reader Bytes := j.value getString key []

/-! ## Writing -/

def ofStrings (texts : List Bytes) : Json := .array (texts.map .string)

def ofMap {α : Type} (write : α → Json) (m : OrderedMap α) : Json :=
  .object (m.entries.map fun entry => (entry.1, write entry.2))

def ofOption {α : Type} (write : α → Json) : Option α → Json
  | none => .null
  | some value => write value

/-- A signed number reads back unsigned unless it is negative. -/
def ofInt64 (n : Int64) : Json :=
  if n < 0 then .integer n else .unsigned n.toUInt64

def ofUInt32 (n : UInt32) : Json := .unsigned n.toUInt64

/-! ## Reading back what was written

Objects are written with literal keys, so a lookup runs down the list of
members and compares string literals. -/

section Objects

variable {α : Type} {members : List (Bytes × Json)} {key : Bytes}

@[simp] theorem lookup_lit_cons (a b : String) (v : α) (rest : List (Bytes × α)) :
    List.lookup (lit a) ((lit b, v) :: rest) =
      if a = b then some v else rest.lookup (lit a) := by
  rw [List.lookup_cons]
  by_cases h : a = b
  · simp [h]
  · have hne : (lit a == lit b) = false := by simpa using h
    simp [h, hne]

@[simp] theorem find?_mkObject : (mkObject members).find? key = members.lookup key :=
  OrderedMap.find?_ofList members key

@[simp] theorem contains_mkObject :
    (mkObject members).contains key = (members.lookup key).isSome := by
  rw [contains, find?_mkObject]

@[simp] theorem hasMember_mkObject (test : Json → Bool) :
    (mkObject members).hasMember key test = (members.lookup key).any test := by
  rw [hasMember, find?_mkObject]

@[simp] theorem isObject_mkObject : (mkObject members).isObject = true := rfl

@[simp] theorem isNull_mkObject : (mkObject members).isNull = false := rfl

@[simp] theorem atKey_mkObject :
    (mkObject members).atKey key =
      (members.lookup key).elim
        (throwing (lit "[json.exception.out_of_range.403] key '" ++ key ++ lit "' not found"))
        .ok := by
  have hfind : (OrderedMap.ofList members).entries.lookup key = members.lookup key :=
    OrderedMap.find?_ofList members key
  unfold atKey mkObject
  simp only [hfind]
  cases members.lookup key <;> rfl

@[simp] theorem value_mkObject (read : Json → Reader α) (default : α) :
    (mkObject members).value read key default =
      (members.lookup key).elim (.ok default) read := by
  have hfind : (OrderedMap.ofList members).entries.lookup key = members.lookup key :=
    OrderedMap.find?_ofList members key
  unfold value mkObject
  simp only [hfind]
  cases members.lookup key <;> rfl

@[simp] theorem valueString_mkObject :
    (mkObject members).valueString key = (members.lookup key).elim (.ok []) getString :=
  value_mkObject getString []

end Objects

section Values

variable {α : Type}

@[simp] theorem getString_string (text : Bytes) : getString (.string text) = .ok text := rfl

@[simp] theorem getBool_bool (value : Bool) : getBool (.bool value) = .ok value := rfl

@[simp] theorem getUInt64_unsigned (n : UInt64) : getUInt64 (.unsigned n) = .ok n := rfl

@[simp] theorem getUInt32_ofUInt32 (n : UInt32) : getUInt32 (ofUInt32 n) = .ok n := by
  simp [getUInt32, ofUInt32]

@[simp] theorem getInt64_ofInt64 (n : Int64) : getInt64 (ofInt64 n) = .ok n := by
  unfold ofInt64
  split_ifs <;> simp [getInt64]

@[simp] theorem getUInt64_ofUInt32 (n : UInt32) : getUInt64 (ofUInt32 n) = .ok n.toUInt64 := rfl

@[simp] theorem isString_string (text : Bytes) : isString (.string text) = true := rfl

@[simp] theorem isBool_bool (value : Bool) : isBool (.bool value) = true := rfl

@[simp] theorem isUnsigned_unsigned (n : UInt64) : isUnsigned (.unsigned n) = true := rfl

@[simp] theorem isUnsigned_ofUInt32 (n : UInt32) : isUnsigned (ofUInt32 n) = true := rfl

@[simp] theorem isArray_array (elements : List Json) : isArray (.array elements) = true := rfl

@[simp] theorem getArray_array (elements : List Json) :
    getArray (.array elements) = .ok elements := rfl

@[simp] theorem isArray_ofStrings (texts : List Bytes) : (ofStrings texts).isArray = true := rfl

@[simp] theorem getArray_ofStrings (texts : List Bytes) :
    (ofStrings texts).getArray = .ok (texts.map .string) := rfl

@[simp] theorem isObject_ofMap (write : α → Json) (m : OrderedMap α) :
    (ofMap write m).isObject = true := rfl

@[simp] theorem isText_string (text value : Bytes) :
    isText text (.string value) = decide (value = text) := rfl

variable {read : Json → Reader α} {write : α → Json}

theorem readAll_map {values : List α} (h : ∀ v ∈ values, read (write v) = .ok v) :
    readAll read (values.map write) = .ok values := by
  induction values with
  | nil => rfl
  | cons v values ih =>
    have hrest := ih fun u hu => h u (List.mem_cons_of_mem _ hu)
    simp [readAll, h v List.mem_cons_self, hrest]

@[simp] theorem getStrings_ofStrings (texts : List Bytes) :
    getStrings (ofStrings texts) = .ok texts :=
  readAll_map fun _ _ => rfl

theorem readMembers_map
    {entries : List (Bytes × α)} (h : ∀ e ∈ entries, read (write e.2) = .ok e.2) :
    readMembers read (entries.map fun e => (e.1, write e.2)) = .ok entries := by
  induction entries with
  | nil => rfl
  | cons e entries ih =>
    have hrest := ih fun u hu => h u (List.mem_cons_of_mem _ hu)
    simp [readMembers, h e List.mem_cons_self, hrest]

theorem getMap_ofMap {m : OrderedMap α} (h : ∀ e ∈ m.entries, read (write e.2) = .ok e.2) :
    getMap read (ofMap write m) = .ok m := by
  simp [getMap, ofMap, getObject, readMembers_map h, OrderedMap.ofList_entries]

@[simp] theorem getMap_getString (m : OrderedMap Bytes) :
    getMap getString (ofMap .string m) = .ok m :=
  getMap_ofMap fun _ _ => rfl

end Values

end Json

/-! ## What a reader yields -/

namespace Yields

variable {α : Type} {P : α → Prop} {reader : Reader α}

theorem guarded {error : Bytes → Bytes} (h : Yields P reader) :
    Yields P (Fic.Lib.guarded error reader) := by
  intro a ha
  unfold Fic.Lib.guarded at ha
  split at ha
  · cases ha
  · exact h a ha

theorem require (h : condition = true → Yields P reader) :
    Yields P (Fic.Lib.require condition error >>= fun _ => reader) :=
  .bind fun _ hcondition => h (require_eq_ok.mp hcondition)

theorem requireOrThrow (h : condition = true → Yields P reader) :
    Yields P (Fic.Lib.requireOrThrow condition what >>= fun _ => reader) :=
  .bind fun _ hcondition => h (requireOrThrow_eq_ok.mp hcondition)

theorem readAll {read : Json → Reader α} {elements : List Json} (h : ∀ j, Yields P (read j)) :
    Yields (fun values => values.length = elements.length ∧ ∀ v ∈ values, P v)
      (Json.readAll read elements) := by
  induction elements with
  | nil => exact .ok (by simp)
  | cons j elements ih =>
    refine .bind fun v hv => .bind fun values hvalues => .ok ?_
    obtain ⟨hlength, hall⟩ := ih values hvalues
    exact ⟨by simp [hlength], List.forall_mem_cons.mpr ⟨h j v hv, hall⟩⟩

end Yields

end Fic.Lib
