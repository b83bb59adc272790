import Fic.Journal.Sysctl.Moves
import Fic.Journal.LoadFacts

/-!
# One file, many SYSCTL owners

Whatever typed operations are called, at most one SYSCTL record is unresolved, an
abort brings back the records from before its preparation, and between two
transitions all owners that created the file carry the identity it was last
published with.  `SysctlInv` is the invariant; `SysctlMove.keeps` is its step, one
case per move.
-/

namespace Fic.Journal

open Fic.Lib Journal

variable {previous s : MutationRecord} {k : Nat}
  {changed : MutationRecord} {intent : SysctlReleaseIntent}

/-! ## Runs -/

structure SysctlCall where
  env : Env
  op : SysctlOperation

def SysctlCall.run (prim : Primitives) (call : SysctlCall) (j : Journal) : Outcome :=
  j.runSysctl prim call.env call.op

def sysctlRun (prim : Primitives) (calls : List SysctlCall) (j : Journal) : Journal :=
  calls.foldl (fun j call => (call.run prim j).1) j

def SysctlOperation.prepares : SysctlOperation → Bool
  | .prepareSysctl .. => true
  | _ => false

/-- The state of an active owner that created the file. -/
def containerOwner (r : MutationRecord) : Option SysctlSettingState :=
  if r.isActive && r.undo.backend = .Sysctl then
    (sysctlSetting r).bind fun p => p.sysctl.filter (·.containerCreated)
  else none

def AtMostOneUnresolved (records : List MutationRecord) : Prop :=
  ∀ (i k : Nat) r s, records[i]? = some r → records[k]? = some s →
    blocksSysctl r = true → blocksSysctl s = true → i = k

def CarryIdentity (identity : SysctlContainerIdentity) (records : List MutationRecord) : Prop :=
  ∀ r ∈ records, ∀ x, containerOwner r = some x → x.containerIdentity = some identity

/-- A record without its times and its error text. -/
def MutationRecord.timeless (r : MutationRecord) : MutationRecord :=
  { r with createdAtEpoch := 0, updatedAtEpoch := 0, error := [] }

/-- What a run remembers: the identity published last, and the records before the
last preparation. -/
structure SysctlHistory where
  identity : SysctlContainerIdentity
  before : Option (List MutationRecord) := none

def SysctlHistory.remember (op : SysctlOperation) (j : Journal) (h : SysctlHistory) :
    SysctlHistory :=
  match op with
  | .prepareSysctl .. => { h with before := some j.records }
  | .finishSysctl _ published => { h with identity := published.identity }
  | .finishSysctlRelease _ (some published) => { h with identity := published.identity }
  | _ => h

/-- Only a call that changed the records is remembered. -/
def SysctlHistory.after (prim : Primitives) (call : SysctlCall) (j : Journal)
    (h : SysctlHistory) : SysctlHistory :=
  if (call.run prim j).1.records = j.records then h else h.remember call.op j

structure SharedAt (h : SysctlHistory) (j : Journal) : Prop where
  one : AtMostOneUnresolved j.records
  identity : (∀ r ∈ j.records, blocksSysctl r = false) → CarryIdentity h.identity j.records

/-- A successful abort leaves the records as they were before the preparation. -/
def AbortRestores (prim : Primitives) (call : SysctlCall) (h : SysctlHistory) (j : Journal) :
    Prop :=
  ∀ id inlineNotInstalled, call.op = .abortSysctlNoEffect id inlineNotInstalled →
    (call.run prim j).2.isSuccess = true → ∀ before, h.before = some before →
    (call.run prim j).1.records.map (·.timeless) = before.map (·.timeless)

def SysctlShared (prim : Primitives) : SysctlHistory → List SysctlCall → Journal → Prop
  | h, [], j => SharedAt h j
  | h, call :: calls, j =>
    SharedAt h j ∧ AbortRestores prim call h j ∧
      SysctlShared prim (h.after prim call j) calls (call.run prim j).1

/-! ## Records -/

/-- A transition of a setting under way. -/
def pendingState (r : MutationRecord) : Option (UndoRemoveManagedSetting × SysctlSettingState) :=
  if r.undo.backend = .Sysctl && r.status = .Prepared then
    (sysctlSetting r).bind fun p => (p.sysctl.filter (·.pending)).map fun x => (p, x)
  else none

/-- The record before its transition; there was none if the setting is fresh. -/
def reverted (r : MutationRecord) : Option MutationRecord :=
  match pendingState r with
  | none => some r
  | some (p, x) => if x.hadApplied then some (abortedSetting r p x) else none

variable {prim : Primitives} {env : Env} {j next : Journal} {h h' : SysctlHistory}
  {r : MutationRecord} {p : UndoRemoveManagedSetting} {x : SysctlSettingState}

theorem containerOwner_eq_some :
    containerOwner r = some x ↔ (r.isActive = true ∧ r.undo.backend = .Sysctl) ∧
      ∃ p, sysctlSetting r = some p ∧ p.sysctl = some x ∧ x.containerCreated = true := by
  simp [containerOwner, Option.bind_eq_some_iff]

theorem pendingState_eq_some :
    pendingState r = some (p, x) ↔ (r.undo.backend = .Sysctl ∧ r.status = .Prepared) ∧
      sysctlSetting r = some p ∧ p.sysctl = some x ∧ x.pending = true := by
  simp [pendingState, Option.bind_eq_some_iff, Option.filter_eq_some_iff]

theorem blocksSysctl_of_unresolved (hbackend : r.undo.backend = .Sysctl)
    (hprepared : r.status = .Prepared) : blocksSysctl r = true := by
  unfold blocksSysctl MutationRecord.isActive
  rw [hbackend, hprepared]
  cases sysctlSetting r <;> rfl

theorem reverted_of_resolved (hr : blocksSysctl r = false) : reverted r = some r := by
  unfold reverted
  cases hstate : pendingState r with
  | none => rfl
  | some state =>
    obtain ⟨⟨hbackend, hprepared⟩, -⟩ := pendingState_eq_some.mp hstate
    rw [blocksSysctl_of_unresolved hbackend hprepared] at hr
    cases hr

/-- What the validator says of a typed setting. -/
structure SettingFacts (r : MutationRecord) (x : SysctlSettingState) : Prop where
  backend : r.undo.backend = .Sysctl
  version : x.version = 1
  release : ∀ intent, x.release = some intent → x.pending = false ∧ r.status = .Prepared
  settled : x.pending = false →
    x.hadApplied = false ∧ x.previousLegacy = false ∧ x.attempted = false ∧ x.targetValue = []

theorem settingFacts (hvalid : validSysctlRecord r = .ok ()) (hset : sysctlSetting r = some p)
    (hstate : p.sysctl = some x) : SettingFacts r x := by
  rw [sysctlSetting_eq_some] at hset
  simp only [validSysctlRecord, hset, hstate] at hvalid
  obtain ⟨⟨⟩, hrelease, hvalid⟩ := except_bind_eq_ok.mp hvalid
  simp only [rejectIf_eq_ok, Bool.or_eq_false_iff, decide_eq_false_iff_not, Decidable.not_not,
    Bool.and_eq_false_iff, Bool.not_eq_eq_eq_not] at hrelease hvalid
  refine ⟨by grind, by grind, ?_, ?_⟩
  · intro intent hintent
    simp only [hintent, Option.all_some, validSysctlRelease] at hrelease
    grind
  · intro hpending
    grind [List.isEmpty_iff]

/-- An active record that blocks nothing has a settled setting. -/
theorem settled_of_resolved (hr : blocksSysctl r = false) (hactive : r.isActive = true)
    (hbackend : r.undo.backend = .Sysctl) (hset : sysctlSetting r = some p) :
    r.status ≠ .Prepared ∧ p.sysctl.any (·.unresolved) = false := by
  simpa [blocksSysctl, hactive, hbackend, hset] using hr

theorem reverted_refreshed {target : Bytes} {created : Bool} {legacyOrigin : UInt64}
    {container : Option AtomicTargetState} (hvalid : validSysctlRecord previous = .ok ())
    (hbackend : previous.undo.backend = .Sysctl) (hset : sysctlSetting previous = some p)
    (happlied : previous.status = .Applied) (hsettled : p.sysctl.any (·.unresolved) = false)
    (hauthority : (p.sysctl.any fun x =>
      x.containerCreated ≠ created || x.legacyContainerOrigin ≠ legacyOrigin) = false) :
    (reverted (touch env (refreshedSetting target created legacyOrigin container previous p))).map
      (·.timeless) = some previous.timeless := by
  let state :=
    refreshSysctlState (freshSysctlState target created legacyOrigin container) previous p
  have hstarted : state.pending = true ∧ state.hadApplied = true := by
    simp only [state, refreshSysctlState]
    split <;> exact ⟨rfl, rfl⟩
  have hpending : pendingState
      (touch env (refreshedSetting target created legacyOrigin container previous p)) =
        some ({ p with sysctl := some state }, state) :=
    pendingState_eq_some.mpr ⟨⟨hbackend, rfl⟩, rfl, rfl, hstarted.1⟩
  have hresolved : state.resolved = p.sysctl := by
    simp only [state, refreshSysctlState]
    cases hstate : p.sysctl with
    | none => rfl
    | some x =>
      have facts := settingFacts hvalid hset hstate
      simp only [hstate, Option.any_some, SysctlSettingState.unresolved, Bool.or_eq_false_iff,
        decide_eq_false_iff_not, Decidable.not_not, Option.isSome_eq_false_iff,
        Option.isNone_iff_eq_none] at hsettled hauthority
      obtain ⟨hhad, hlegacy, hattempted, htarget⟩ := facts.settled hsettled.1
      have hversion := facts.version
      simp only [SysctlSettingState.resolved, SysctlSettingState.settled, freshSysctlState]
      cases x
      simp_all
  rw [sysctlSetting_eq_some] at hset
  simp only [reverted, hpending, hstarted.2, if_true, Option.map_some, abortedSetting, hresolved]
  obtain ⟨id, policy, resource, ⟨backend, payload⟩, status, created, updated, error⟩ := previous
  simp_all [MutationRecord.timeless, MutationRecord.withSetting, touch, refreshedSetting]

/-! ## The invariant -/

structure SysctlInv (h : SysctlHistory) (j : Journal) : Prop where
  nodup : (j.records.map (·.id)).Nodup
  below : ∀ r ∈ j.records, r.id < j.nextId
  valid : SysctlValid j.records
  one : AtMostOneUnresolved j.records
  /-- A fresh owner gets its identity when it is completed. -/
  identity : ∀ r ∈ j.records, ∀ x, containerOwner r = some x →
    (x.pending && !x.hadApplied) = false → x.containerIdentity = some h.identity
  /-- What an abort would bring back. -/
  before : ∀ before, h.before = some before → (∃ r ∈ j.records, (pendingState r).isSome) →
    (j.records.filterMap reverted).map (·.timeless) = before.map (·.timeless)

theorem pendingState_isSome_blocks (h : (pendingState r).isSome) : blocksSysctl r = true := by
  obtain ⟨⟨p, x⟩, hstate⟩ := Option.isSome_iff_exists.mp h
  obtain ⟨⟨hbackend, hprepared⟩, -⟩ := pendingState_eq_some.mp hstate
  exact blocksSysctl_of_unresolved hbackend hprepared

/-- The invariant of a journal without a transition under way. -/
theorem SysctlInv.ofResolved (nodup : (j.records.map (·.id)).Nodup)
    (below : ∀ r ∈ j.records, r.id < j.nextId) (valid : SysctlValid j.records)
    (resolved : ∀ r ∈ j.records, blocksSysctl r = false)
    (identity : ∀ r ∈ j.records, ∀ x, containerOwner r = some x →
      x.containerIdentity = some h.identity) : SysctlInv h j where
  nodup := nodup
  below := below
  valid := valid
  one i k r s hr _ hblocks := by simp [resolved r (List.mem_of_getElem? hr)] at hblocks
  identity r hr x hx _ := identity r hr x hx
  before _ _ := by
    rintro ⟨r, hr, hpending⟩
    have hblocks := pendingState_isSome_blocks hpending
    simp [resolved r hr] at hblocks

theorem SysctlInv.identity_of_resolved (inv : SysctlInv h j) (hr : r ∈ j.records)
    (hresolved : blocksSysctl r = false) (hx : containerOwner r = some x) :
    x.containerIdentity = some h.identity := by
  refine inv.identity r hr x hx ?_
  obtain ⟨⟨hactive, hbackend⟩, p, hset, hstate, -⟩ := containerOwner_eq_some.mp hx
  have hsettled := (settled_of_resolved hresolved hactive hbackend hset).2
  simp only [hstate, Option.any_some, SysctlSettingState.unresolved, Bool.or_eq_false_iff]
    at hsettled
  simp [hsettled.1]

theorem SysctlInv.sharedAt (inv : SysctlInv h j) : SharedAt h j where
  one := inv.one
  identity hresolved r hr _ := inv.identity_of_resolved hr (hresolved r hr)

variable {i : Nat}

/-- All records but the unresolved one are resolved. -/
theorem SysctlInv.others (inv : SysctlInv h j) (hget : j.records[i]? = some r)
    (hblocks : blocksSysctl r = true) :
    ∀ k s, j.records[k]? = some s → k ≠ i → blocksSysctl s = false := by
  intro k s hs hne
  cases hsblocks : blocksSysctl s with
  | false => rfl
  | true => exact absurd (inv.one k i s r hs hget hsblocks hblocks) hne

/-! ## Steps -/

theorem atMostOne_of {records : List MutationRecord}
    (h : ∀ (k : Nat) s, records[k]? = some s → blocksSysctl s = true → k = i) :
    AtMostOneUnresolved records :=
  fun k l r s hr hs hrb hsb => (h k r hr hrb).trans (h l s hs hsb).symm

section

variable (others : ∀ k s, j.records[k]? = some s → k ≠ i → blocksSysctl s = false)

include others

theorem atMostOne_set :
    AtMostOneUnresolved (j.records.set i changed) := by
  refine atMostOne_of (i := i) fun k s hs hblocks => ?_
  by_contra hne
  rw [List.getElem?_set_ne (Ne.symm hne)] at hs
  simp [others k s hs hne] at hblocks

theorem not_pending_set
    (hset : sysctlSetting changed = some p) (hstate : p.sysctl.any (·.pending) = false) :
    ¬ ∃ s ∈ j.records.set i changed, (pendingState s).isSome := by
  rintro ⟨s, hs, hpending⟩
  refine forall_mem_set_of_others (P := fun s => ¬ (pendingState s).isSome)
    (fun k s hk hne hpending => ?_) (fun hpending => ?_) s hs hpending
  · have hblocks := pendingState_isSome_blocks hpending
    simp [others k s hk hne] at hblocks
  · obtain ⟨⟨q, x⟩, hstate'⟩ := Option.isSome_iff_exists.mp hpending
    obtain ⟨-, hq, hx, hx'⟩ := pendingState_eq_some.mp hstate'
    obtain rfl := Option.some.inj (hset.symm.trans hq)
    simp [hx, hx'] at hstate

end

/-- The parts of the invariant that a change of one record keeps. -/
theorem SysctlInv.setRecord (inv : SysctlInv h j) (hget : j.records[i]? = some r)
    (hid : changed.id = r.id) (hvalid : validSysctlRecord changed = .ok ())
    (others : ∀ k s, j.records[k]? = some s → k ≠ i → blocksSysctl s = false)
    (hset : sysctlSetting changed = some p) (identity : ∀ x, p.sysctl = some x →
      x.containerCreated = true → (x.pending && !x.hadApplied) = false →
      x.containerIdentity = some h.identity) (before : ∀ before, h'.before = some before →
      (∃ s ∈ j.records.set i changed, (pendingState s).isSome) →
      ((j.records.set i changed).filterMap reverted).map (·.timeless) = before.map (·.timeless))
    (hidentity : h'.identity = h.identity) : SysctlInv h' (j.setRecord i changed) where
  nodup := by
    rw [Journal.setRecord, map_set_of_eq hget hid]
    exact inv.nodup
  below := forall_mem_set inv.below (by rw [hid]; exact inv.below r (List.mem_of_getElem? hget))
  valid := forall_mem_set inv.valid hvalid
  one := atMostOne_set others
  identity := by
    rw [hidentity]
    refine forall_mem_set inv.identity fun x hx => ?_
    obtain ⟨-, q, hq, hstate, hcreated⟩ := containerOwner_eq_some.mp hx
    obtain rfl := Option.some.inj (hset.symm.trans hq)
    exact identity x hstate hcreated
  before := before

section

variable {policy : PolicyRef} {key target : Bytes} {created : Bool} {legacyOrigin : UInt64}
  {container : Option AtomicTargetState}

theorem prepareFresh_keeps (inv : SysctlInv h j) (hwrap : j.nextId ≠ UInt64.ofNat (2 ^ 64 - 1))
    (resolved : ∀ r ∈ j.records, blocksSysctl r = false)
    (admitted : admitMutation prim false
      (freshSetting policy key target created legacyOrigin container) j = .ok ()) :
    SysctlInv { h with before := some j.records }
      (j.append env (freshSetting policy key target created legacyOrigin container)) := by
  set record := fresh env j.nextId (freshSetting policy key target created legacyOrigin container)
    with hrecord
  have hpending : pendingState record = some
      ({ key := key, appliedValue := target
         sysctl := some (freshSysctlState target created legacyOrigin container) },
        freshSysctlState target created legacyOrigin container) := rfl
  have hids : ((j.records ++ [record]).map (·.id)) = j.records.map (·.id) ++ [j.nextId] := by
    simp [hrecord, fresh]
  obtain ⟨hbelow, hnodup⟩ := ids_concat hwrap (List.forall_mem_map.mpr inv.below) inv.nodup
  rw [← hids] at hbelow hnodup
  refine ⟨hnodup, List.forall_mem_map.mp hbelow, ?_, ?_, ?_, ?_⟩
  · have hvalid := (admitted_of_ok admitted).sysctl
    exact List.forall_mem_append.mpr ⟨inv.valid, List.forall_mem_singleton.mpr hvalid⟩
  · refine @atMostOne_of j.records.length (j.records ++ [record]) fun k s hs hblocks => ?_
    rw [List.getElem?_append] at hs
    split_ifs at hs with hk
    · simp [resolved s (List.mem_of_getElem? hs)] at hblocks
    · have := (List.getElem?_eq_some_iff.mp hs).1
      simp at this
      omega
  · refine List.forall_mem_append.mpr ⟨inv.identity, List.forall_mem_singleton.mpr ?_⟩
    intro x hx hx'
    obtain ⟨-, q, hset, hstate, -⟩ := containerOwner_eq_some.mp hx
    obtain rfl : _ = q := Option.some.inj hset
    obtain rfl : _ = x := Option.some.inj hstate
    cases hx'
  · rintro before ⟨rfl⟩ -
    have hkept : j.records.filterMap reverted = j.records :=
      filterMap_eq_self fun s hs => reverted_of_resolved (resolved s hs)
    have hdropped : reverted record = none := rfl
    show ((j.records ++ [record]).filterMap reverted).map _ = _
    simp [hkept, hdropped]

theorem prepareSysctl_keeps (inv : SysctlInv h j)
    (hwrap : j.nextId ≠ UInt64.ofNat (2 ^ 64 - 1)) (move : SysctlMove prim env j
      (.prepareSysctl policy key target created legacyOrigin container) next) :
    SysctlInv { h with before := some j.records } next := by
  cases move with
  | prepareFresh resolved admitted => exact prepareFresh_keeps inv hwrap resolved admitted
  | @prepareRefresh _ _ _ _ _ _ i previous p resolved found backend setting applied
      authority valid =>
    have hmem := List.mem_of_getElem? found
    have hactive : previous.isActive = true := by rw [MutationRecord.isActive, applied]; rfl
    have hsettled := (settled_of_resolved (resolved previous hmem) hactive backend setting).2
    refine inv.setRecord found rfl valid
      (fun k s hs _ => resolved s (List.mem_of_getElem? hs)) rfl ?_ ?_ rfl
    · rintro _ ⟨⟩ hcreated -
      -- an untyped predecessor created nothing; a typed one keeps its identity
      cases hp : p.sysctl with
      | none => simp [refreshSysctlState, hp] at hcreated
      | some x =>
        simp only [hp, Option.any_some, SysctlSettingState.unresolved, Bool.or_eq_false_iff,
          decide_eq_false_iff_not, Decidable.not_not] at hsettled authority
        simp only [refreshSysctlState, hp, freshSysctlState] at hcreated ⊢
        refine inv.identity previous hmem x (containerOwner_eq_some.mpr
          ⟨⟨hactive, backend⟩, p, setting, hp, by rw [authority.1, hcreated]⟩) ?_
        simp [hsettled.1]
    · rintro before ⟨rfl⟩ -
      have hkept : j.records.filterMap reverted = j.records :=
        filterMap_eq_self fun s hs => reverted_of_resolved (resolved s hs)
      rw [map_filterMap_set_of_eq found, hkept]
      rw [reverted_refreshed (inv.valid previous hmem) backend setting applied hsettled authority,
        reverted_of_resolved (resolved previous hmem)]
      rfl

end

/-! ### Publishing an identity -/

/-- What `publishIdentity` does to a record. -/
theorem publishIdentity_cases (env : Env) (identity : SysctlContainerIdentity)
    (r : MutationRecord) :
    (publishIdentity env identity r = r ∧ containerOwner r = none) ∨
      ∃ p x, sysctlSetting r = some p ∧ p.sysctl = some x ∧ containerOwner r = some x ∧
        publishIdentity env identity r = touch env
          (r.withSetting
            { p with sysctl := some { x with containerIdentity := some identity } }) := by
  unfold publishIdentity
  split
  · rename_i p hbackend hpayload
    have hset : sysctlSetting r = some p := sysctlSetting_eq_some.mpr hpayload
    cases hstate : p.sysctl with
    | none => exact .inl ⟨rfl, by simp [containerOwner, hset, hstate]⟩
    | some x =>
      simp only
      split_ifs with hguard
      · rw [Bool.and_eq_true] at hguard
        exact .inr ⟨p, x, hset, hstate, containerOwner_eq_some.mpr
          ⟨⟨hguard.1, hbackend⟩, p, hset, hstate, hguard.2⟩, rfl⟩
      · refine .inl ⟨rfl, ?_⟩
        cases howner : containerOwner r with
        | none => rfl
        | some y =>
          obtain ⟨⟨hactive, -⟩, q, hq, hy, hcreated⟩ := containerOwner_eq_some.mp howner
          obtain rfl : p = q := Option.some.inj (hset.symm.trans hq)
          obtain rfl : x = y := Option.some.inj (hstate.symm.trans hy)
          simp [hactive, hcreated] at hguard
  · rename_i hother
    refine .inl ⟨rfl, ?_⟩
    cases howner : containerOwner r with
    | none => rfl
    | some y =>
      obtain ⟨⟨-, hbackend⟩, q, hq, -⟩ := containerOwner_eq_some.mp howner
      exact absurd (sysctlSetting_eq_some.mp hq) (hother q hbackend)

variable {identity : SysctlContainerIdentity}

theorem publishIdentity_id : (publishIdentity env identity r).id = r.id := by
  rcases publishIdentity_cases env identity r with ⟨heq, -⟩ | ⟨p, x, -, -, -, heq⟩
  · rw [heq]
  · rw [heq]
    rfl

theorem blocksSysctl_publishIdentity :
    blocksSysctl (publishIdentity env identity r) = blocksSysctl r := by
  rcases publishIdentity_cases env identity r with ⟨heq, -⟩ | ⟨p, x, hset, hstate, -, heq⟩
  · rw [heq]
  · rw [heq]
    have hset' : sysctlSetting (touch env (r.withSetting
        { p with sysctl := some { x with containerIdentity := some identity } })) =
          some { p with sysctl := some { x with containerIdentity := some identity } } := rfl
    simp only [blocksSysctl, hset, hset', hstate]
    rfl

theorem containerIdentity_publishIdentity
    (hx : containerOwner (publishIdentity env identity r) = some x) :
    x.containerIdentity = some identity := by
  rcases publishIdentity_cases env identity r with ⟨heq, hnone⟩ | ⟨p, y, hset, hstate, -, heq⟩
  · rw [heq, hnone] at hx
    cases hx
  · rw [heq] at hx
    obtain ⟨-, q, hq, hy, -⟩ := containerOwner_eq_some.mp hx
    obtain rfl : _ = q := Option.some.inj hq
    obtain rfl : _ = x := Option.some.inj hy
    rfl

/-- The records after the last step of a transition, with the published identity. -/
theorem SysctlInv.publish (inv : SysctlInv h j) (hget : j.records[i]? = some r)
    (hid : changed.id = r.id)
    (others : ∀ k s, j.records[k]? = some s → k ≠ i → blocksSysctl s = false)
    (hchanged : blocksSysctl changed = false)
    (hvalid : SysctlValid ((j.records.set i changed).map (publishIdentity env identity))) :
    SysctlInv { h with identity := identity }
      { j with records := (j.records.set i changed).map (publishIdentity env identity) } := by
  have hids : ((j.records.set i changed).map (publishIdentity env identity)).map (·.id) =
      j.records.map (·.id) := by
    rw [List.map_map]
    have : (fun r : MutationRecord => r.id) ∘ publishIdentity env identity = (·.id) :=
      funext fun r => publishIdentity_id
    rw [this, map_set_of_eq hget hid]
  refine .ofResolved (by rw [hids]; exact inv.nodup) ?_ hvalid ?_ ?_
  · intro s hs
    have hmem : s.id ∈ j.records.map (·.id) := by
      rw [← hids]
      exact List.mem_map_of_mem hs
    obtain ⟨t, ht, hst⟩ := List.mem_map.mp hmem
    rw [← hst]
    exact inv.below t ht
  · intro s hs
    obtain ⟨t, ht, rfl⟩ := List.mem_map.mp hs
    rw [blocksSysctl_publishIdentity]
    exact forall_mem_set_of_others others hchanged t ht
  · intro s hs x hx
    obtain ⟨t, -, rfl⟩ := List.mem_map.mp hs
    exact containerIdentity_publishIdentity hx

/-! ### The other moves -/

section

variable {id : UInt64}

section

variable (pending : PendingSetting j id i r p x)

include pending

theorem PendingSetting.blocks : blocksSysctl r = true :=
  blocksSysctl_of_unresolved pending.backend pending.prepared

theorem PendingSetting.active : r.isActive = true := by
  rw [MutationRecord.isActive, pending.prepared]
  rfl

theorem PendingSetting.pendingState_eq :
    pendingState r = some (p, x) :=
  pendingState_eq_some.mpr
    ⟨⟨pending.backend, pending.prepared⟩, pending.setting, pending.state, pending.pending⟩

end

/-- The old identity of the owner that a changed record still is. -/
theorem SysctlInv.identity_of_owner (inv : SysctlInv h j) (hmem : r ∈ j.records)
    (hactive : r.isActive = true) (hbackend : r.undo.backend = .Sysctl)
    (hset : sysctlSetting r = some p) (hstate : p.sysctl = some x)
    (hcreated : x.containerCreated = true) (hsettled : (x.pending && !x.hadApplied) = false) :
    x.containerIdentity = some h.identity :=
  inv.identity r hmem x
    (containerOwner_eq_some.mpr ⟨⟨hactive, hbackend⟩, p, hset, hstate, hcreated⟩) hsettled

theorem noteSysctlAttempt_keeps (inv : SysctlInv h j)
    (move : SysctlMove prim env j (.noteSysctlAttempt id) next) : SysctlInv h next := by
  cases move with
  | @attempt _ i r p x hpending valid =>
    have pending := pendingSysctl_eq_some hpending
    have hget := getElem?_of_find pending.found
    have hmem := List.mem_of_getElem? hget
    let q := { p with sysctl := some { x with attempted := true } }
    refine inv.setRecord hget rfl valid (inv.others hget pending.blocks) rfl ?_ ?_ rfl
    · rintro _ ⟨⟩ hcreated hsettled
      have hidentity := inv.identity_of_owner hmem pending.active pending.backend pending.setting
        pending.state hcreated hsettled
      exact hidentity
    · intro before hbefore _
      -- an abort clears the attempt with the rest of the transition
      have hreverted : (reverted (touch env (r.withSetting q))).map (·.timeless) =
          (reverted r).map (·.timeless) := by
        have hpending : pendingState (touch env (r.withSetting q)) =
            some (q, { x with attempted := true }) :=
          pendingState_eq_some.mpr ⟨⟨pending.backend, pending.prepared⟩, rfl, rfl, pending.pending⟩
        simp only [reverted, hpending, pending.pendingState_eq]
        split_ifs <;> rfl
      rw [map_filterMap_set_of_eq hget hreverted]
      refine inv.before before hbefore ⟨r, hmem, ?_⟩
      rw [pending.pendingState_eq]
      rfl

theorem SettingFacts.release_eq_none (facts : SettingFacts r x) (hpending : x.pending = true) :
    x.release = none := by
  cases hrelease : x.release with
  | none => rfl
  | some intent => simp [(facts.release intent hrelease).1] at hpending

theorem blocksSysctl_resolved (hrelease : x.release = none) {q : UndoRemoveManagedSetting}
    (hset : sysctlSetting changed = some q) (hstate : q.sysctl = x.resolved)
    (happlied : changed.status = .Applied) : blocksSysctl changed = false := by
  have hsettled : x.resolved.any (·.unresolved) = false := by
    unfold SysctlSettingState.resolved
    split_ifs
    · rfl
    · simp [SysctlSettingState.unresolved, SysctlSettingState.settled, hrelease]
  simp [blocksSysctl, hset, hstate, happlied, hsettled]

section

variable (inv : SysctlInv h j)

include inv

theorem finishSysctl_keeps {published : AtomicTargetState}
    (move : SysctlMove prim env j (.finishSysctl id published) next) :
    SysctlInv { h with identity := published.identity } next := by
  cases move with
  | @finish _ _ i r p x hpending valid =>
    have pending := pendingSysctl_eq_some hpending
    have hget := getElem?_of_find pending.found
    have facts :=
      settingFacts (inv.valid r (List.mem_of_getElem? hget)) pending.setting pending.state
    refine inv.publish hget rfl (inv.others hget pending.blocks) ?_ valid
    exact blocksSysctl_resolved (facts.release_eq_none pending.pending)
      (q := { p with appliedValue := x.targetValue, sysctl := x.resolved }) rfl rfl rfl

theorem abortSysctlNoEffect_keeps {inlineNotInstalled : Bool}
    (move : SysctlMove prim env j (.abortSysctlNoEffect id inlineNotInstalled) next) :
    SysctlInv h next := by
  cases move with
  | @abortRefresh _ _ i r p x hpending refresh valid =>
    have pending := pendingSysctl_eq_some hpending
    have hget := getElem?_of_find pending.found
    have hmem := List.mem_of_getElem? hget
    have facts := settingFacts (inv.valid r hmem) pending.setting pending.state
    have others := inv.others hget pending.blocks
    have hchanged : blocksSysctl (touch env (abortedSetting r p x)) = false :=
      blocksSysctl_resolved (facts.release_eq_none pending.pending)
        (q := { p with sysctl := x.resolved }) rfl rfl rfl
    refine inv.setRecord hget rfl valid others rfl ?_ ?_ rfl
    · intro y hstate hcreated _
      unfold SysctlSettingState.resolved at hstate
      split_ifs at hstate with hlegacy
      obtain rfl : _ = y := Option.some.inj hstate
      have hidentity := inv.identity_of_owner hmem pending.active pending.backend pending.setting
        pending.state hcreated (by simp [refresh])
      exact hidentity
    · rintro before hbefore ⟨s, hs, hpending⟩
      have hblocks := pendingState_isSome_blocks hpending
      simp [forall_mem_set_of_others others hchanged s hs] at hblocks
  | @abortFresh _ _ i r p x hpending fresh =>
    have pending := pendingSysctl_eq_some hpending
    have hget := getElem?_of_find pending.found
    have hsub : (j.records.eraseIdx i).Sublist j.records := List.eraseIdx_sublist ..
    have hresolved : ∀ s ∈ j.records.eraseIdx i, blocksSysctl s = false := by
      intro s hs
      obtain ⟨k, hne, hk⟩ := List.mem_eraseIdx_iff_getElem?.mp hs
      exact inv.others hget pending.blocks k s hk hne
    refine .ofResolved (inv.nodup.sublist (hsub.map _)) (fun s hs => inv.below s (hsub.mem hs))
      (fun s hs => inv.valid s (hsub.mem hs)) hresolved ?_
    exact fun s hs _ => inv.identity_of_resolved (hsub.mem hs) (hresolved s hs)

/-- Ids are distinct, so the other records are those at other positions. -/
theorem SysctlInv.others_of_ids (hget : j.records[i]? = some r)
    (others : ∀ s ∈ j.records, s.id ≠ r.id → blocksSysctl s = false) :
    ∀ k s, j.records[k]? = some s → k ≠ i → blocksSysctl s = false := by
  intro k s hs hne
  refine others s (List.mem_of_getElem? hs) fun hid => hne ?_
  have hfind := find_of_nodup inv.nodup hs
  rw [hid, find_of_nodup inv.nodup hget] at hfind
  simp only [Option.some.injEq, Prod.mk.injEq] at hfind
  exact hfind.1.symm

theorem beginSysctlRelease_keeps {before target : Option AtomicTargetState}
    (move : SysctlMove prim env j (.beginSysctlRelease id before target) next) :
    SysctlInv h next := by
  cases move with
  | @beginRelease _ _ _ i r p found backend active setting settled others valid =>
    have hget := getElem?_of_find found
    have hmem := List.mem_of_getElem? hget
    obtain rfl := id_of_find found
    have hothers := inv.others_of_ids hget others
    refine inv.setRecord hget rfl valid hothers rfl ?_ ?_ rfl
    · rintro _ ⟨⟩ hcreated hsettled
      cases hp : p.sysctl with
      | none => simp [hp] at hcreated
      | some x =>
        simp only [hp, Option.getD_some] at hcreated hsettled ⊢
        exact inv.identity_of_owner hmem active backend setting hp hcreated hsettled
    · rintro before - hpending
      -- the releasing record is not pending, and the others are resolved
      refine absurd hpending (not_pending_set hothers rfl ?_)
      cases hp : p.sysctl with
      | none => rfl
      | some x =>
        simp only [hp, Option.any_some, SysctlSettingState.unresolved, Bool.or_eq_false_iff]
          at settled
        exact settled.1

end

/-- A record with a release intent is an unresolved SYSCTL record. -/
theorem release_blocks (facts : SettingFacts r x) (release : x.release = some intent) :
    blocksSysctl r = true :=
  blocksSysctl_of_unresolved facts.backend (facts.release intent release).2

theorem noteSysctlReleasePrepared_keeps (inv : SysctlInv h j) {prepared : AtomicTargetState}
    (move : SysctlMove prim env j (.noteSysctlReleasePrepared id prepared) next) :
    SysctlInv h next := by
  cases move with
  | @noteRelease _ _ i r p x intent found setting state release valid =>
    have hget := getElem?_of_find found
    have hmem := List.mem_of_getElem? hget
    have facts := settingFacts (inv.valid r hmem) setting state
    have hblocks := release_blocks facts release
    obtain ⟨hsettled, hprepared⟩ := facts.release intent release
    have hactive : r.isActive = true := by rw [MutationRecord.isActive, hprepared]; rfl
    have others := inv.others hget hblocks
    refine inv.setRecord hget rfl valid others rfl ?_ ?_ rfl
    · rintro _ ⟨⟩ hcreated -
      have hidentity := inv.identity_of_owner hmem hactive facts.backend setting state hcreated
        (by simp [hsettled])
      exact hidentity
    · rintro before - hpending
      exact absurd hpending (not_pending_set others rfl hsettled)

theorem finishSysctlRelease_keeps (inv : SysctlInv h j) {published : Option AtomicTargetState}
    (move : SysctlMove prim env j (.finishSysctlRelease id published) next) :
    SysctlInv (h.remember (.finishSysctlRelease id published) j) next := by
  cases move with
  | @finishRelease _ _ i r p x intent records found _ setting state release _ survivors valid =>
    have hget := getElem?_of_find found
    have hmem := List.mem_of_getElem? hget
    have facts := settingFacts (inv.valid r hmem) setting state
    have others := inv.others hget (release_blocks facts release)
    have hreleased : blocksSysctl (releasedSetting env r p x intent) = false := rfl
    cases published with
    | some published =>
      obtain rfl := survivors
      exact inv.publish hget rfl others hreleased valid
    | none =>
      obtain ⟨hnone, rfl⟩ := survivors
      refine .ofResolved ?_ ?_ valid (forall_mem_set_of_others others hreleased) ?_
      · have hid : (releasedSetting env r p x intent).id = r.id := rfl
        simp only [map_set_of_eq hget hid]
        exact inv.nodup
      · exact forall_mem_set inv.below (inv.below r hmem)
      · intro s hs y hy
        obtain ⟨⟨hactive, hbackend⟩, q, hset, hstate, hcreated⟩ := containerOwner_eq_some.mp hy
        have hnot := List.any_eq_false.mp hnone s hs
        simp [ownsContainer, hactive, hbackend, hset, hstate, hcreated] at hnot

end

theorem SysctlMove.keeps {op : SysctlOperation} (inv : SysctlInv h j)
    (hwrap : op.prepares = true → j.nextId ≠ UInt64.ofNat (2 ^ 64 - 1))
    (move : SysctlMove prim env j op next) : SysctlInv (h.remember op j) next := by
  cases op with
  | prepareSysctl => exact prepareSysctl_keeps inv (hwrap rfl) move
  | noteSysctlAttempt => exact noteSysctlAttempt_keeps inv move
  | finishSysctl => exact finishSysctl_keeps inv move
  | abortSysctlNoEffect => exact abortSysctlNoEffect_keeps inv move
  | beginSysctlRelease => exact beginSysctlRelease_keeps inv move
  | noteSysctlReleasePrepared => exact noteSysctlReleasePrepared_keeps inv move
  | finishSysctlRelease => exact finishSysctlRelease_keeps inv move

/-- An abort takes exactly the transition under way back. -/
theorem SysctlMove.abort_restores {id : UInt64} {inlineNotInstalled : Bool} (inv : SysctlInv h j)
    (move : SysctlMove prim env j (.abortSysctlNoEffect id inlineNotInstalled) next)
    {before : List MutationRecord} (hbefore : h.before = some before) :
    next.records.map (·.timeless) = before.map (·.timeless) := by
  -- the aborted record is the only one that is not kept
  have restored : ∀ {i r p x}, PendingSetting j id i r p x →
      j.records.filterMap reverted =
          (reverted r).elim (j.records.eraseIdx i) (j.records.set i) ∧
      (j.records.filterMap reverted).map (·.timeless) = before.map (·.timeless) := by
    intro i r p x pending
    have hget := getElem?_of_find pending.found
    refine ⟨filterMap_of_others hget fun k s hs hne =>
      reverted_of_resolved (inv.others hget pending.blocks k s hs hne), ?_⟩
    refine inv.before before hbefore ⟨r, List.mem_of_getElem? hget, ?_⟩
    rw [pending.pendingState_eq]
    rfl
  cases move with
  | abortFresh hpending fresh =>
    have pending := pendingSysctl_eq_some hpending
    obtain ⟨hkept, hrestored⟩ := restored pending
    simp only [reverted, pending.pendingState_eq, fresh, Bool.false_eq_true, if_false,
      Option.elim_none] at hkept
    rw [← hrestored, hkept]
    rfl
  | abortRefresh hpending refresh valid =>
    have pending := pendingSysctl_eq_some hpending
    obtain ⟨hkept, hrestored⟩ := restored pending
    simp only [reverted, pending.pendingState_eq, refresh, if_true, Option.elim_some] at hkept
    rw [← hrestored, hkept]
    simp only [Journal.setRecord, List.map_set]
    rfl

/-! ## Runs keep the invariant -/

theorem sysctl_call (prim : Primitives) (hnodup : (j.records.map (·.id)).Nodup)
    (call : SysctlCall) :
    ((call.run prim j).1 = j ∧ (call.run prim j).2.isSuccess = false) ∨
      ∃ next, SysctlMove prim call.env j call.op next ∧
        (call.run prim j).1.records = next.records ∧ (call.run prim j).1.nextId = next.nextId := by
  have attempt : Attempt j (fun _ => False) (SysctlMove prim call.env j call.op)
      fun w => j.runSysctl prim { call.env with write := w } call.op :=
    runSysctl_attempt hnodup call.op
  rcases attempt.outcome call.env.write with hsame | ⟨next, hfalse, -⟩ | ⟨next, move, kept⟩
  · exact .inl hsame
  · exact hfalse.elim
  · exact .inr ⟨next, move, kept.records, kept.nextId⟩

theorem nextId_call (prim : Primitives) (hnodup : (j.records.map (·.id)).Nodup) (call : SysctlCall)
    (hwrap : call.op.prepares = true → j.nextId ≠ UInt64.ofNat (2 ^ 64 - 1)) :
    (call.run prim j).1.nextId.toNat ≤ j.nextId.toNat + if call.op.prepares then 1 else 0 := by
  rcases sysctl_call prim hnodup call with ⟨hsame, -⟩ | ⟨next, move, -, hnextId⟩
  · rw [hsame]
    omega
  · rw [hnextId]
    cases hop : call.op <;> rw [hop] at move <;> cases move <;> try exact Nat.le_add_right ..
    exact (toNat_succ (hwrap (by rw [hop]; rfl))).le

theorem SysctlInv.congr (inv : SysctlInv h next) (hrecords : j.records = next.records)
    (hnextId : j.nextId = next.nextId) : SysctlInv h j := by
  obtain ⟨nodup, below, valid, one, identity, before⟩ := inv
  constructor <;> simpa only [hrecords, hnextId]

theorem SysctlInv.call (inv : SysctlInv h j) (call : SysctlCall)
    (hwrap : call.op.prepares = true → j.nextId ≠ UInt64.ofNat (2 ^ 64 - 1)) :
    AbortRestores prim call h j ∧ SysctlInv (h.after prim call j) (call.run prim j).1 := by
  rcases sysctl_call prim inv.nodup call with ⟨hsame, hfailed⟩ | ⟨next, move, hrecords, hnextId⟩
  · refine ⟨?_, ?_⟩
    · intro id inlineNotInstalled _ hsuccess
      simp [hfailed] at hsuccess
    · simpa only [SysctlHistory.after, hsame, if_true] using inv
  · refine ⟨?_, ?_⟩
    · intro id inlineNotInstalled hop _ before hbefore
      rw [hop] at move
      rw [hrecords]
      exact move.abort_restores inv hbefore
    · have kept := move.keeps inv hwrap
      unfold SysctlHistory.after
      split_ifs with hunchanged
      · -- a call that changed nothing is not remembered
        rw [hrecords] at hunchanged
        have hbelow : ∀ r ∈ j.records, r.id < next.nextId := by
          rw [← hunchanged]
          exact kept.below
        have hinv : SysctlInv h { j with nextId := next.nextId } :=
          ⟨inv.nodup, hbelow, inv.valid, inv.one, inv.identity, inv.before⟩
        exact hinv.congr (hrecords.trans hunchanged) hnextId
      · exact kept.congr hrecords hnextId

theorem SysctlInv.run (calls : List SysctlCall) (inv : SysctlInv h j)
    (hids : j.nextId.toNat + (calls.filter (·.op.prepares)).length < 2 ^ 64) :
    SysctlShared prim h calls j := by
  induction calls generalizing h j with
  | nil => exact inv.sharedAt
  | cons call calls ih =>
    have hwrap : call.op.prepares = true → j.nextId ≠ UInt64.ofNat (2 ^ 64 - 1) := by
      intro hprepares heq
      simp [hprepares, heq] at hids
      omega
    obtain ⟨habort, hnext⟩ := inv.call call hwrap
    refine ⟨inv.sharedAt, habort, ih hnext ?_⟩
    have hstep := nextId_call prim inv.nodup call hwrap
    cases hprepares : call.op.prepares <;> simp [hprepares] at hids hstep <;> omega

/-- A loaded journal with at most one unresolved record and one identity. -/
theorem sysctlInv_of_load {env : LoadEnv} {policy : MissingJournalPolicy} {j₀ : Journal}
    (loaded : j₀.loadImpl prim env policy = (j, .loaded)) (one : AtMostOneUnresolved j.records)
    {identity : SysctlContainerIdentity} (carry : CarryIdentity identity j.records) :
    SysctlInv { identity := identity } j where
  nodup := (loadImpl_loaded loaded).nodup
  below := (loadImpl_loaded loaded).below
  valid r hr := ((loadImpl_loaded loaded).loaded r hr).validSysctl
  one := one
  identity r hr x hx _ := carry r hr x hx
  before _ hbefore := by cases hbefore

/-- As long as the ids do not run out, a run of the typed operations from a loaded
journal shares the file properly. -/
theorem sysctl_shared {env : LoadEnv} {policy : MissingJournalPolicy} {j₀ : Journal}
    (loaded : j₀.loadImpl prim env policy = (j, .loaded)) (one : AtMostOneUnresolved j.records)
    {identity : SysctlContainerIdentity} (carry : CarryIdentity identity j.records)
    (calls : List SysctlCall)
    (hids : j.nextId.toNat + (calls.filter (·.op.prepares)).length < 2 ^ 64) :
    SysctlShared prim { identity := identity } calls j :=
  (sysctlInv_of_load loaded one carry).run calls hids

/-- The run ends in a state that the property allows. -/
theorem SysctlShared.last (calls : List SysctlCall) (shared : SysctlShared prim h calls j) :
    AtMostOneUnresolved (sysctlRun prim calls j).records := by
  induction calls generalizing h j with
  | nil => exact SharedAt.one shared
  | cons call calls ih => exact ih shared.2.2

/-! ## Samples -/

def samplePolicy (name : String) : PolicyRef :=
  { moduleName := lit "SYSCTL", submoduleName := [], policyName := lit name }

/-- The owner that created the file. -/
def sampleSysctlOwner : MutationRecord :=
  { id := 1
    policy := samplePolicy "kptr_restrict"
    resource := lit "kernel.kptr_restrict"
    undo :=
      { backend := .Sysctl
        payload := .RemoveManagedSetting
          { key := lit "kernel.kptr_restrict", appliedValue := lit "2"
            sysctl := some { containerCreated := true, containerIdentity := some ⟨1, 7⟩ } } }
    status := .Applied }

def sampleSysctlJournal (nextId : UInt64) : Journal :=
  { records := [sampleSysctlOwner], nextId := nextId, loaded := true, lifecycleInitialized := true }

def sampleLoad (j : Journal) : LoadEnv :=
  { path := lit "mutations.json", file := .document (.ok j.document), durability := .ok () }

def sampleCall (op : SysctlOperation) : SysctlCall :=
  { env := { now := 0, write := .Persisted }, op := op }

def samplePublished : AtomicTargetState := { device := 1, inode := 8 }

def samplePrepare (name key : String) : SysctlCall :=
  sampleCall (.prepareSysctl (samplePolicy name) (lit key) (lit "1") false 0 none)

theorem sampleSysctlJournal_one (nextId : UInt64) :
    AtMostOneUnresolved (sampleSysctlJournal nextId).records := by
  intro i k r s hr hs hblocks
  obtain rfl : r = sampleSysctlOwner := List.mem_singleton.mp (List.mem_of_getElem? hr)
  cases hblocks

theorem sampleSysctlJournal_carry (nextId : UInt64) :
    CarryIdentity ⟨1, 7⟩ (sampleSysctlJournal nextId).records := by
  intro r hr x hx
  obtain rfl := List.mem_singleton.mp hr
  obtain rfl : _ = x := Option.some.inj hx
  rfl

/-- A setting is prepared, noted and aborted, then prepared and completed. -/
theorem sysctl_shared_sample :
    ({ lifecycleInitialized := true } : Journal).loadImpl samplePrimitives
        (sampleLoad (sampleSysctlJournal 2)) .RequireExisting = (sampleSysctlJournal 2, .loaded) ∧
      SysctlShared samplePrimitives { identity := ⟨1, 7⟩ }
        [samplePrepare "dmesg_restrict" "kernel.dmesg_restrict", sampleCall (.noteSysctlAttempt 2),
          sampleCall (.abortSysctlNoEffect 2 true),
          samplePrepare "dmesg_restrict" "kernel.dmesg_restrict",
          sampleCall (.finishSysctl 3 samplePublished)] (sampleSysctlJournal 2) :=
  have loaded : ({ lifecycleInitialized := true } : Journal).loadImpl samplePrimitives
      (sampleLoad (sampleSysctlJournal 2)) .RequireExisting =
        (sampleSysctlJournal 2, .loaded) := rfl
  ⟨loaded, sysctl_shared loaded (sampleSysctlJournal_one 2) (sampleSysctlJournal_carry 2) _
    (by decide)⟩

/-- The last id is taken, then 0, then 1 again: a release of the owner does not see
the transition that has its id. -/
def sampleWrap : List SysctlCall :=
  [samplePrepare "dmesg_restrict" "kernel.dmesg_restrict",
    sampleCall (.finishSysctl 18446744073709551615 samplePublished),
    samplePrepare "sysrq" "kernel.sysrq", sampleCall (.finishSysctl 0 samplePublished),
    samplePrepare "rp_filter" "net.ipv4.conf.all.rp_filter",
    sampleCall (.beginSysctlRelease 1 none none)]

theorem sysctl_ids_wrap :
    ({ lifecycleInitialized := true } : Journal).loadImpl samplePrimitives
        (sampleLoad (sampleSysctlJournal 18446744073709551615)) .RequireExisting =
          (sampleSysctlJournal 18446744073709551615, .loaded) ∧
      AtMostOneUnresolved (sampleSysctlJournal 18446744073709551615).records ∧
      CarryIdentity ⟨1, 7⟩ (sampleSysctlJournal 18446744073709551615).records ∧
      ¬ SysctlShared samplePrimitives { identity := ⟨1, 7⟩ } sampleWrap
        (sampleSysctlJournal 18446744073709551615) := by
  refine ⟨rfl, sampleSysctlJournal_one _, sampleSysctlJournal_carry _, fun shared => ?_⟩
  have hone := shared.last
  have hunresolved :
      (sysctlRun samplePrimitives sampleWrap
        (sampleSysctlJournal 18446744073709551615)).records.map blocksSysctl =
          [true, false, false, true] := by
    decide +kernel
  generalize sysctlRun samplePrimitives sampleWrap _ = last at hone hunresolved
  obtain ⟨r₀, r₁, r₂, r₃, hrecords⟩ : ∃ r₀ r₁ r₂ r₃, last.records = [r₀, r₁, r₂, r₃] := by
    have hlength := congrArg List.length hunresolved
    rw [List.length_map] at hlength
    exact List.length_eq_four.mp hlength
  simp only [hrecords, List.map_cons, List.map_nil, List.cons.injEq] at hunresolved
  have h03 : 0 = 3 := hone 0 3 r₀ r₃ (by rw [hrecords]; rfl) (by rw [hrecords]; rfl)
    hunresolved.1 hunresolved.2.2.2.1
  omega

end Fic.Journal
