import Fic.Lib.Bytes

/-!
# Login sessions

The sessions and users a containment backend reports, and `listSessions` of the logind
backend: what it makes of the records of logind.  A record that is incomplete ends the
inventory; an identity or a class it does not know makes the inventory unproven.
-/

namespace Fic.Incident

open Fic.Lib

inductive SessionKind
  | Graphical
  | Terminal
  | Unknown
  deriving DecidableEq, Repr

structure LoginSession where
  id : Bytes := []
  uid : UInt32 := 0
  user : Bytes := []
  type : Bytes := []
  kind : SessionKind := .Unknown
  recovery : Bool := false
  className : Bytes := []
  state : Bytes := []
  remote : Bool := false
  ordinary : Bool := false
  serviceAccount : Bool := false
  objectPath : Bytes := []
  logindOwner : Bytes := []
  startTimestamp : UInt64 := 0
  deriving DecidableEq, Repr

structure LoginUser where
  uid : UInt32 := 0
  name : Bytes := []
  serviceAccount : Bool := false
  recovery : Bool := false
  userManagerRunning : Bool := false
  ordinary : Bool := false
  objectPath : Bytes := []
  logindOwner : Bytes := []
  deriving DecidableEq, Repr

structure SessionInventoryResult where
  proven : Bool := false
  sessions : List LoginSession := []
  diagnostic : Bytes := []
  deriving DecidableEq, Repr

structure ContainmentOutcome where
  performed : Bool := false
  diagnostic : Bytes := []
  deriving DecidableEq, Repr

inductive LookupStatus
  | Found
  | Absent
  | Unproven
  deriving DecidableEq, Repr

structure RegisteredUserLookup where
  status : LookupStatus := .Unproven
  user : LoginUser := {}
  diagnostic : Bytes := []
  deriving DecidableEq, Repr

/-! ## The inventory of logind -/

structure LogindSessionRecord where
  id : Bytes := []
  uid : UInt32 := 0
  name : Bytes := []
  path : Bytes := []
  owner : Bytes := []
  type : Bytes := []
  className : Bytes := []
  state : Bytes := []
  remote : Bool := false
  timestamp : UInt64 := 0
  deriving DecidableEq, Repr

inductive ContainmentIdentity
  | Ordinary
  | Recovery
  | Service
  | Unknown
  deriving DecidableEq, Repr

/-- What the clock and the identity classifier answer for one record. -/
structure RecordAnswer where
  expired : Bool := false
  identity : ContainmentIdentity := .Unknown
  deriving DecidableEq, Repr

def ordinaryClass (name : Bytes) : Bool :=
  name = lit "user" || name = lit "user-early" || name = lit "user-light" ||
    name = lit "user-early-light"

def protectedSessionClass (name : Bytes) : Bool :=
  name = lit "greeter" || name = lit "lock-screen" || name = lit "manager" ||
    name = lit "manager-early" || name = lit "background" || name = lit "background-light"

def knownSessionState (state : Bytes) : Bool :=
  state = lit "online" || state = lit "active" || state = lit "closing"

/-- `classifySession`, which looks at the type alone. -/
def classifyType (type : Bytes) : SessionKind :=
  if type = lit "x11" ∨ type = lit "wayland" ∨ type = lit "mir" then .Graphical
  else if type = lit "tty" ∨ type = lit "ssh" ∨ type = lit "console" then .Terminal
  else .Unknown

def loginSession (r : LogindSessionRecord) (identity : ContainmentIdentity) : LoginSession :=
  { id := r.id, uid := r.uid, user := r.name, type := r.type, className := r.className
    state := r.state, remote := r.remote, objectPath := r.path, logindOwner := r.owner
    startTimestamp := r.timestamp, kind := classifyType r.type
    recovery := identity = .Recovery
    ordinary := identity = .Ordinary && ordinaryClass r.className
    serviceAccount := identity = .Service || protectedSessionClass r.className }

/-- The record has everything that identifies a session. -/
def identifiesSession (r : LogindSessionRecord) : Bool :=
  !(r.id.isEmpty || r.name.isEmpty || r.path.isEmpty || r.owner.isEmpty || r.timestamp = 0 ||
    r.className.isEmpty || r.type.isEmpty || !knownSessionState r.state)

/-- The identity or the class leaves the inventory unproven. -/
def leavesUnproven (r : LogindSessionRecord) (identity : ContainmentIdentity) : Bool :=
  identity = .Unknown || (!ordinaryClass r.className && !protectedSessionClass r.className)

/-- The loop of `listSessions`. -/
def listRecords (result : SessionInventoryResult) (seen : List Bytes) :
    List (LogindSessionRecord × RecordAnswer) → SessionInventoryResult
  | [] => result
  | (r, answer) :: records =>
    if answer.expired then
      { proven := false, diagnostic := lit "session identity inventory deadline exceeded" }
    else if !identifiesSession r || seen.contains r.id then
      { proven := false, diagnostic := lit "incomplete logind session identity" }
    else
      let flagged : SessionInventoryResult :=
        if leavesUnproven r answer.identity then
          { result with
            proven := false
            diagnostic := lit "session identity/classification is unproven: " ++ r.id }
        else result
      listRecords { flagged with sessions := flagged.sessions ++ [loginSession r answer.identity] }
        (r.id :: seen) records

/-- `listSessions`; logind answers with its records or with a diagnostic. -/
def listSessions (answer : Except Bytes (List (LogindSessionRecord × RecordAnswer))) :
    SessionInventoryResult :=
  match answer with
  | .error diagnostic => { proven := false, diagnostic }
  | .ok records => listRecords { proven := true } [] records

/-! ## What an inventory holds -/

def asRecord (s : LoginSession) : LogindSessionRecord :=
  { id := s.id, uid := s.uid, name := s.user, path := s.objectPath, owner := s.logindOwner
    type := s.type, className := s.className, state := s.state, remote := s.remote
    timestamp := s.startTimestamp }

def ordinaryClasses : List Bytes :=
  [lit "user", lit "user-early", lit "user-light", lit "user-early-light"]

def protectedClasses : List Bytes :=
  [lit "greeter", lit "lock-screen", lit "manager", lit "manager-early", lit "background",
    lit "background-light"]

/-- The session is the one of the record, with the classification of its type, its class and
its identity. -/
structure Describes (r : LogindSessionRecord) (identity : ContainmentIdentity)
    (s : LoginSession) : Prop where
  record : asRecord s = r
  graphical : s.kind = .Graphical ↔ r.type ∈ [lit "x11", lit "wayland", lit "mir"]
  terminal : s.kind = .Terminal ↔ r.type ∈ [lit "tty", lit "ssh", lit "console"]
  recovery : s.recovery = true ↔ identity = .Recovery
  ordinary : s.ordinary = true ↔ identity = .Ordinary ∧ r.className ∈ ordinaryClasses
  serviceAccount : s.serviceAccount = true ↔ identity = .Service ∨ r.className ∈ protectedClasses

/-- The record names a session completely. -/
structure Identifies (r : LogindSessionRecord) : Prop where
  named : r.id ≠ [] ∧ r.name ≠ []
  located : r.path ≠ [] ∧ r.owner ≠ []
  started : r.timestamp ≠ 0
  typed : r.className ≠ [] ∧ r.type ≠ []
  state : r.state ∈ [lit "online", lit "active", lit "closing"]

/-- The identity and the class are known. -/
def Classified (r : LogindSessionRecord) (identity : ContainmentIdentity) : Prop :=
  identity ≠ .Unknown ∧ (r.className ∈ ordinaryClasses ∨ r.className ∈ protectedClasses)

section Records

variable {r : LogindSessionRecord} {identity : ContainmentIdentity} {name : Bytes}

theorem ordinaryClass_eq_true : ordinaryClass name = true ↔ name ∈ ordinaryClasses := by
  simp only [ordinaryClass, ordinaryClasses, Bool.or_eq_true, decide_eq_true_eq, List.mem_cons,
    List.not_mem_nil, or_false, or_assoc]

theorem protectedSessionClass_eq_true :
    protectedSessionClass name = true ↔ name ∈ protectedClasses := by
  simp only [protectedSessionClass, protectedClasses, Bool.or_eq_true, decide_eq_true_eq,
    List.mem_cons, List.not_mem_nil, or_false, or_assoc]

theorem identifiesSession_eq_true : identifiesSession r = true ↔ Identifies r := by
  simp only [identifiesSession, knownSessionState, Bool.not_eq_true', Bool.or_eq_false_iff,
    List.isEmpty_eq_false_iff, decide_eq_false_iff_not, Bool.not_eq_false', Bool.or_eq_true,
    decide_eq_true_eq]
  constructor
  · rintro ⟨⟨⟨⟨⟨⟨⟨hid, hname⟩, hpath⟩, howner⟩, hstarted⟩, hclass⟩, htype⟩, hstate⟩
    refine ⟨⟨hid, hname⟩, ⟨hpath, howner⟩, hstarted, ⟨hclass, htype⟩, ?_⟩
    simpa only [List.mem_cons, List.not_mem_nil, or_false, or_assoc] using hstate
  · rintro ⟨⟨hid, hname⟩, ⟨hpath, howner⟩, hstarted, ⟨hclass, htype⟩, hstate⟩
    refine ⟨⟨⟨⟨⟨⟨⟨hid, hname⟩, hpath⟩, howner⟩, hstarted⟩, hclass⟩, htype⟩, ?_⟩
    simpa only [List.mem_cons, List.not_mem_nil, or_false, or_assoc] using hstate

theorem leavesUnproven_eq_false : leavesUnproven r identity = false ↔ Classified r identity := by
  rw [leavesUnproven, Bool.or_eq_false_iff, decide_eq_false_iff_not, Classified,
    ← ordinaryClass_eq_true, ← protectedSessionClass_eq_true, ← Bool.or_eq_true,
    ← Bool.not_or, Bool.not_eq_false']

theorem describes_loginSession (r : LogindSessionRecord) (identity : ContainmentIdentity) :
    Describes r identity (loginSession r identity) where
  record := rfl
  graphical := by
    simp only [loginSession, classifyType, List.mem_cons, List.not_mem_nil, or_false]
    split_ifs <;> simp_all
  terminal := by
    have hapart : ∀ type ∈ [lit "x11", lit "wayland", lit "mir"],
        type ∉ [lit "tty", lit "ssh", lit "console"] := by decide +kernel
    simp only [loginSession, classifyType]
    split_ifs with hgraphical hterminal
    · simpa using hapart r.type (by simpa using hgraphical)
    · simpa using hterminal
    · simpa using hterminal
  recovery := decide_eq_true_iff
  ordinary := by
    rw [← ordinaryClass_eq_true]
    simp [loginSession]
  serviceAccount := by
    rw [← protectedSessionClass_eq_true]
    simp [loginSession]

end Records

variable (seen : List Bytes) (records : List (LogindSessionRecord × RecordAnswer))
  (result : SessionInventoryResult)

/-- Every record is answered in time and identifies a session of its own. -/
structure Listable : Prop where
  identified : ∀ e ∈ records, e.2.expired = false ∧ Identifies e.1 ∧ e.1.id ∉ seen
  distinct : (records.map (·.1.id)).Nodup

theorem listable_cons (r : LogindSessionRecord) (answer : RecordAnswer) :
    Listable seen ((r, answer) :: records) ↔
      (answer.expired = false ∧ Identifies r ∧ r.id ∉ seen) ∧
        Listable (r.id :: seen) records := by
  constructor
  · rintro ⟨hidentified, hdistinct⟩
    exact ⟨hidentified _ List.mem_cons_self, by grind, by grind⟩
  · rintro ⟨hfirst, hidentified, hdistinct⟩
    exact ⟨by grind, by grind⟩

/-- The inventory goes on with every record, and stays proven if all are classified. -/
structure Lists (listed : SessionInventoryResult) : Prop where
  sessions : listed.sessions =
    result.sessions ++ records.map fun e => loginSession e.1 e.2.identity
  proven : listed.proven = true ↔
    result.proven = true ∧ ∀ e ∈ records, Classified e.1 e.2.identity

theorem listRecords_spec :
    (Listable seen records → Lists records result (listRecords result seen records)) ∧
      (¬Listable seen records → (listRecords result seen records).sessions = [] ∧
        (listRecords result seen records).proven = false) := by
  induction records generalizing result seen with
  | nil =>
    refine ⟨fun _ => ?_, fun h => absurd ⟨by simp, .nil⟩ h⟩
    constructor <;> simp [listRecords]
  | cons entry records ih =>
    rw [listable_cons]
    unfold listRecords
    by_cases hfirst : entry.2.expired = false ∧ Identifies entry.1 ∧ entry.1.id ∉ seen
    · simp only [hfirst, identifiesSession_eq_true.mpr hfirst.2.1, Bool.false_eq_true,
        List.contains_iff_mem, if_false, Bool.not_true, Bool.false_or, true_and, not_false_eq_true]
      refine (ih (entry.1.id :: seen) _).imp (fun h hlistable => ?_) id
      obtain ⟨hsessions, hproven⟩ := h hlistable
      constructor
      · rw [hsessions]
        split <;> simp
      · rw [hproven, List.forall_mem_cons, ← leavesUnproven_eq_false]
        split <;> simp_all
    · rw [← identifiesSession_eq_true] at hfirst ⊢
      grind

/-- An inventory holds all records of logind, described in their order, and is proven exactly
if all of them are classified; or it holds none and is not proven. -/
theorem listSessions_exact
    (answer : Except Bytes (List (LogindSessionRecord × RecordAnswer))) :
    (∃ records, answer = .ok records ∧ Listable [] records ∧
      List.Forall₂ (fun e s => Describes e.1 e.2.identity s) records
        (listSessions answer).sessions ∧
      ((listSessions answer).proven = true ↔ ∀ e ∈ records, Classified e.1 e.2.identity)) ∨
    (∀ records, answer = .ok records → ¬Listable [] records) ∧
      (listSessions answer).sessions = [] ∧ (listSessions answer).proven = false := by
  cases answer with
  | error diagnostic => exact .inr ⟨nofun, rfl, rfl⟩
  | ok records =>
    obtain ⟨hlists, hnone⟩ := listRecords_spec [] records { proven := true }
    by_cases hlistable : Listable [] records
    · obtain ⟨hsessions, hproven⟩ := hlists hlistable
      refine .inl ⟨records, rfl, hlistable, ?_, hproven.trans (and_iff_right rfl)⟩
      rw [listSessions, hsessions, List.nil_append, List.forall₂_map_right_iff, List.forall₂_same]
      exact fun e _ => describes_loginSession e.1 e.2.identity
    · refine .inr ⟨?_, hnone hlistable⟩
      rintro _ ⟨⟩
      exact hlistable

end Fic.Incident
