import Fic.Journal.Ssh.Moves

/-!
# What a valid SSH record knows about its transition

The operations rely on the validator in two ways: the facts a transition in a
certain phase carries, and that checking a moved record never throws.
-/

namespace Fic.Journal

open Fic.Lib SshPlan

variable {prim : Primitives} {record changed : MutationRecord} {p : UndoRemoveSshManagedPolicy}
  {t : SshOwnershipTransition}

/-! ## Facts -/

/-- What the validator has checked of a transition. -/
structure SshTransitionFacts (prim : Primitives) (record : MutationRecord)
    (p : UndoRemoveSshManagedPolicy) (t : SshOwnershipTransition) : Prop where
  basics : validSshTransitionBasics prim record p t = true
  intent : validSshIntent prim t = .ok ()
  plan : validSshPlan prim record p t = .ok ()
  publication : validSshPublication t = .ok ()
  current : validSshCurrent record p t = .ok ()

theorem validSshTransition_facts (h : validSshTransition prim record p t = .ok ()) :
    SshTransitionFacts prim record p t := by
  simp only [validSshTransition, except_check_eq_ok, require_eq_ok, ofChecked_eq_ok] at h
  obtain ⟨hbasics, hintent, hplan, hpublication, -, hcurrent⟩ := h
  exact ⟨hbasics, hintent, hplan, hpublication, hcurrent⟩

theorem payload_of_sshPayload (hp : sshPayload record = some p) :
    record.undo.payload = .RemoveSshManagedPolicy p := by
  unfold sshPayload at hp
  split at hp
  · simp_all
  · cases hp

theorem validSshRecord_facts (hvalid : validSshRecord prim record = .ok ())
    (hbackend : record.undo.backend = .Ssh) (hp : sshPayload record = some p)
    (ht : p.transition = some t) : SshTransitionFacts prim record p t := by
  unfold validSshRecord at hvalid
  simp only [hbackend, ne_eq, not_true_eq_false, if_false, payload_of_sshPayload hp, ht,
    except_check_eq_ok] at hvalid
  exact validSshTransition_facts hvalid.2.2.2

namespace SshTransitionFacts

section

variable (h : SshTransitionFacts prim record p t)

include h

/-- Behind the first phase there is a receipt of the planned content. -/
theorem published (hphase : t.phase ≠ .Prepared) :
    ∃ pub, t.publication = some pub ∧ pub.sha256 = t.targetSha256 ∧
      pub.durable = decide (t.phase ≠ .Published) := by
  obtain ⟨-, hpresent, hpub⟩ := by
    simpa only [validSshPublication, except_check_eq_ok] using h.publication
  cases hp : t.publication with
  | none => simp [hp, hphase] at hpresent
  | some pub =>
    simp only [rejectIf_eq_ok, hp, Option.all_some, Bool.not_eq_false', Bool.and_eq_true,
      decide_eq_true_eq] at hpub
    exact ⟨pub, rfl, hpub.1.1.2, hpub.1.2⟩

/-- While a transition is under way the record is Prepared and owns what it owned
before. -/
theorem held (hphase : t.phase ≠ .Completed)
    (hinitial : t.initial = false) : sshOwnedProjection p = t.previous := by
  have hcurrent := h.current
  unfold validSshCurrent at hcurrent
  simp only [hphase, hinitial, decide_false, Bool.or_self, Bool.and_false, Bool.false_eq_true,
    if_false, rejectIf_eq_ok, Bool.or_eq_false_iff, decide_eq_false_iff_not, Decidable.not_not]
    at hcurrent
  exact hcurrent.1

theorem predecessor (hrelease : isRelease t = true) :
    t.predecessorStatus = .Applied ∨ t.predecessorStatus = .RollbackFailed := by
  have hintent := h.intent
  unfold validSshIntent at hintent
  simp only [hrelease, if_true, require_eq_ok, validSshRelease, Bool.and_eq_true, Bool.or_eq_true,
    decide_eq_true_eq] at hintent
  exact hintent.1.2

theorem keeps (hrefresh : isRelease t = false) :
    keepDisabledWrappers t t.previous.disabledIds = .ok () := by
  have hintent := h.intent
  unfold validSshIntent at hintent
  simp only [hrefresh, Bool.false_eq_true, if_false, except_check_eq_ok] at hintent
  exact hintent.2.2

end

end SshTransitionFacts

/-! ## The validator does not throw -/

/-- The result of a check is not an exception. -/
def Catchable {α : Type} (reader : Reader α) : Prop := ∀ what, reader ≠ .error (.thrown what)

namespace Catchable

theorem bind {α β : Type} {x : Reader α} {f : α → Reader β} (hx : Catchable x)
    (hf : ∀ a, x = .ok a → Catchable (f a)) : Catchable (x >>= f) := by
  intro what h
  rcases except_bind_eq_error.mp h with h | ⟨a, ha, h⟩
  · exact hx what h
  · exact hf a ha what h

theorem ok {α : Type} (a : α) : Catchable (.ok a : Reader α) := by
  intro what h
  cases h

theorem require (condition : Bool) (error : Bytes) : Catchable (require condition error) := by
  intro what h
  cases condition <;> cases h

theorem ofChecked {α : Type} (checked : Except Bytes α) : Catchable (ofChecked checked) := by
  intro what h
  cases checked <;> cases h

end Catchable

theorem isOk_unit {ε : Type} {checked : Except ε Unit} :
    checked.isOk = true ↔ checked = .ok () := by
  cases checked <;> simp [Except.isOk, Except.toBool]

variable {q : SshOwnedProjection}

theorem version_eq_one (h : validSshProjection prim q = .ok ())
    (hne : q.ownershipVersion ≠ 0) : q.ownershipVersion = 1 := by
  obtain ⟨⟨⟩, h, -⟩ := except_bind_eq_ok.mp h
  simp only [rejectIf_eq_ok, Bool.or_eq_false_iff, decide_eq_false_iff_not] at h
  have hle : q.ownershipVersion ≤ 1 := UInt32.not_lt.mp h.1.2
  have hle : q.ownershipVersion.toNat ≤ 1 := UInt32.le_iff_toNat_le.mp hle
  have hpos : q.ownershipVersion.toNat ≠ 0 := fun h => hne (UInt32.toNat_inj.mp h)
  apply UInt32.toNat_inj.mp
  simp only [UInt32.toNat_one]
  omega

theorem fingerprint_of_valid (h : validSshProjection prim q = .ok ())
    (hversion : q.ownershipVersion = 1) {id : Bytes} (hid : id ∈ q.disabledIds) :
    ∃ digest, q.wrapperFingerprints.find? id = some digest := by
  simp only [validSshProjection, validVersionedProjection, if_pos hversion, except_check_eq_ok,
    rejectIf_eq_ok, Bool.not_eq_false', validWrapperProofs, Bool.and_eq_true, List.all_eq_true]
    at h
  obtain ⟨-, ⟨-, ⟨-, hproofs⟩, -⟩, -⟩ := h
  have := (hproofs id hid).2
  cases hfind : q.wrapperFingerprints.find? id with
  | none => simp [hfind] at this
  | some digest => exact ⟨digest, rfl⟩

theorem catchable_keepDisabledWrappers {ids : List Bytes}
    (hprevious : ∀ id ∈ ids, ∃ d, t.previous.wrapperFingerprints.find? id = some d)
    (htarget : ∀ id ∈ t.target.disabledIds, ∃ d, t.target.wrapperFingerprints.find? id = some d) :
    Catchable (keepDisabledWrappers t ids) := by
  induction ids with
  | nil => exact .ok ()
  | cons id ids ih =>
    refine .bind (.require _ _) fun _ hkept => ?_
    obtain ⟨before, hbefore⟩ := hprevious id List.mem_cons_self
    obtain ⟨after, hafter⟩ := htarget id (by simpa using require_eq_ok.mp hkept)
    simp only [hbefore, hafter]
    exact .bind (.require _ _) fun _ _ => ih fun id hid => hprevious id (List.mem_cons_of_mem _ hid)

/-- An ordinary transition starts from a valid projection, so every wrapper it has
to keep has its digest. -/
theorem catchable_keeps (hbasics : validSshTransitionBasics prim record p t = true)
    (hcontract : validSshRefreshContract prim t = true) (hinitial : t.initial = false) :
    Catchable (keepDisabledWrappers t t.previous.disabledIds) := by
  simp only [validSshTransitionBasics, hinitial, Bool.and_false, Bool.false_or,
    Bool.and_eq_true] at hbasics
  have hprevious : validSshProjection prim t.previous = .ok () :=
    isOk_unit.mp hbasics.1.1.1.2
  simp only [validSshRefreshContract, Bool.and_eq_true, decide_eq_true_eq, Bool.not_eq_true',
    Bool.and_eq_false_iff, decide_eq_false_iff_not, Bool.not_eq_false', List.isEmpty_iff]
    at hcontract
  obtain ⟨⟨⟨⟨⟨⟨⟨⟨htarget, hversion⟩, hlegacy⟩, -⟩, -⟩, -⟩, -⟩, -⟩, -⟩ := hcontract
  refine catchable_keepDisabledWrappers ?_ fun id hid =>
    fingerprint_of_valid (isOk_unit.mp htarget) hversion hid
  intro id hid
  refine fingerprint_of_valid hprevious ?_ hid
  -- an unversioned projection has no wrappers to keep
  have hne : t.previous.ownershipVersion ≠ 0 := by
    rcases hlegacy with h | h
    · exact h
    · simp [h] at hid
  exact version_eq_one hprevious hne

theorem catchable_validSshIntent (hbasics : validSshTransitionBasics prim record p t = true)
    (h : t.initial = false ∨
      (isRelease t = false → keepDisabledWrappers t t.previous.disabledIds = .ok ())) :
    Catchable (validSshIntent prim t) := by
  unfold validSshIntent
  cases hrelease : isRelease t with
  | true => exact .require _ _
  | false =>
    refine .bind (.require _ _) fun _ hcontract => .bind (.require _ _) fun _ _ => ?_
    rcases h with hinitial | hkeeps
    · exact catchable_keeps hbasics (require_eq_ok.mp hcontract) hinitial
    · rw [hkeeps hrelease]
      exact .ok ()

theorem catchable_validSshTransition (h : t.initial = false ∨
      (isRelease t = false → keepDisabledWrappers t t.previous.disabledIds = .ok ())) :
    Catchable (validSshTransition prim record p t) := by
  refine .bind (.require _ _) fun _ hbasics => ?_
  refine .bind (catchable_validSshIntent (require_eq_ok.mp hbasics) h) fun _ _ => ?_
  exact .bind (.ofChecked _) fun _ _ => .bind (.ofChecked _) fun _ _ =>
    .bind (.ofChecked _) fun _ _ => .ofChecked _

/-- The validator throws only on transitions that cannot come from the typed
operations. -/
theorem catchable_validSshRecord (h : ∀ p t, sshPayload record = some p → p.transition = some t →
      t.initial = false ∨
        (isRelease t = false → keepDisabledWrappers t t.previous.disabledIds = .ok ())) :
    Catchable (validSshRecord prim record) := by
  unfold validSshRecord
  split_ifs with hbackend
  · exact .ok ()
  · split
    · rename_i p hp
      refine .bind (.ofChecked _) fun _ _ => .bind (.require _ _) fun _ _ =>
        .bind (.require _ _) fun _ _ => ?_
      cases ht : p.transition with
      | none => exact .ok ()
      | some t => exact catchable_validSshTransition (h p t (by simp [sshPayload, hp]) ht)
    · intro what h
      cases h

/-- The wrappers to keep depend on the two projections only. -/
theorem keepDisabledWrappers_congr {t' : SshOwnershipTransition}
    (hprevious : t'.previous = t.previous) (htarget : t'.target = t.target) (ids : List Bytes) :
    keepDisabledWrappers t' ids = keepDisabledWrappers t ids := by
  induction ids with
  | nil => rfl
  | cons id ids ih =>
    unfold keepDisabledWrappers
    rw [hprevious, htarget, ih]

/-- A typed operation on a valid record never makes the validator throw. -/
theorem SshMove.catchable {op : SshOperation} (hmove : SshMove record p op (.change changed))
    (hvalid : validSshRecord prim record = .ok ()) (hbackend : record.undo.backend = .Ssh)
    (hp : sshPayload record = some p) : Catchable (validSshRecord prim changed) := by
  -- the transition before the move was checked, and the move keeps its projections
  have kept : ∀ t t', p.transition = some t → t'.previous = t.previous → t'.target = t.target →
      isRelease t' = isRelease t →
      (isRelease t' = false → keepDisabledWrappers t' t'.previous.disabledIds = .ok ()) := by
    intro t t' ht hprevious htarget hsame hrelease
    rw [keepDisabledWrappers_congr hprevious htarget, hprevious]
    exact (validSshRecord_facts hvalid hbackend hp ht).keeps (hsame ▸ hrelease)
  refine catchable_validSshRecord fun q t' hq ht' => ?_
  cases hmove with
  | begins begins begun =>
    obtain rfl := Option.some.inj hq
    obtain rfl := Option.some.inj ht'
    exact .inl begun.initial
  | notes notes transition continues =>
    obtain rfl := Option.some.inj hq
    obtain rfl := Option.some.inj ht'
    refine .inr (kept _ _ transition ?_ ?_ ?_) <;> rw [continues.same]
    rfl
  | commitsRefresh transition phase refresh =>
    obtain rfl := Option.some.inj hq
    obtain rfl := Option.some.inj ht'
    exact .inr (kept _ _ transition rfl rfl rfl)
  | commitsRelease transition phase release =>
    obtain rfl := Option.some.inj hq
    obtain rfl := Option.some.inj ht'
    exact .inr (kept _ _ transition rfl rfl rfl)
  | aborts aborts transition phase initial =>
    obtain rfl := Option.some.inj hq
    cases ht'

end Fic.Journal
