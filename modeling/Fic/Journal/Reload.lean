import Fic.Journal.LoadFacts
import Fic.Lib.ListUpdate

/-!
# A journal that loads again

`Loadable` is what a load has checked of a journal: of each record, of the records
side by side and of the links between them.  Preparing a mutation keeps it
(`Loadable.of_change`) if the record by itself passes the checks of a load; what the
loader asks of the records side by side is what the guards in front of the
preparation ask.
-/

namespace Fic.Journal

open Fic.Lib Journal

variable {prim : Primitives} {env : Env} {j next : Journal} {a b r record : MutationRecord}
  {records records' : List MutationRecord} {nextId : UInt64}

/-! ## Records side by side -/

/-- The active claims of two records do not overlap. -/
structure Apart (a b : MutationRecord) : Prop where
  identity : ¬ (a.isActive = true ∧ b.isActive = true ∧ sameIdentity a b = true)
  container : ∀ c d, a.undo.payload = .OwnPamProviderContainer c →
    b.undo.payload = .OwnPamProviderContainer d → a.isActive = true → b.isActive = true →
    c.configPath ≠ d.configPath
  suppression : ∀ f g, a.undo.payload = .RemovePamProviderManagedFlag f →
    b.undo.payload = .RemovePamProviderManagedFlag g → a.isActive = true → b.isActive = true →
    f.configPath = g.configPath → ∀ id ∈ activePamFlagSuppressionAuthority a f,
      id ∉ activePamFlagSuppressionAuthority b g

theorem sameIdentity_comm (a b : MutationRecord) : sameIdentity a b = sameIdentity b a := by
  simp only [sameIdentity, eq_comm]

theorem Apart.symm (h : Apart a b) : Apart b a where
  identity := fun ⟨hb, ha, hsame⟩ => h.identity ⟨ha, hb, sameIdentity_comm a b ▸ hsame⟩
  container := fun c d hc hd hb ha heq => h.container d c hd hc ha hb heq.symm
  suppression := fun f g hf hg hb ha heq id hid hid' =>
    h.suppression g f hg hf ha hb heq.symm id hid' hid

theorem duplicateContainer_eq_none : duplicateContainer a b = none ↔
    ∀ c d, a.undo.payload = .OwnPamProviderContainer c →
      b.undo.payload = .OwnPamProviderContainer d → a.isActive = true → b.isActive = true →
      c.configPath ≠ d.configPath := by
  unfold duplicateContainer
  split
  · rename_i c d hc hd
    simp only [hc, hd, UndoPayload.OwnPamProviderContainer.injEq]
    split_ifs with hdup
    · simp only [Bool.and_eq_true, decide_eq_true_eq] at hdup
      simp [hdup]
    · simp only [Bool.and_eq_true, decide_eq_true_eq, not_and] at hdup
      simp only [true_iff]
      rintro c' d' rfl rfl ha hb heq
      exact hdup ⟨ha, hb⟩ heq.symm
  · rename_i hneither
    simp only [true_iff]
    exact fun c d hc hd => (hneither c d hc hd).elim

theorem sharedSuppression_eq_none : sharedSuppression a b = none ↔
    ∀ f g, a.undo.payload = .RemovePamProviderManagedFlag f →
      b.undo.payload = .RemovePamProviderManagedFlag g → a.isActive = true → b.isActive = true →
      f.configPath = g.configPath → ∀ id ∈ activePamFlagSuppressionAuthority a f,
        id ∉ activePamFlagSuppressionAuthority b g := by
  unfold sharedSuppression
  split
  · rename_i f g hf hg
    simp only [hf, hg, UndoPayload.RemovePamProviderManagedFlag.injEq]
    split_ifs with happlies
    · simp only [true_iff]
      rintro f' g' rfl rfl ha hb heq
      simp [ha, hb, heq] at happlies
    · simp only [Option.map_eq_none_iff, List.find?_eq_none, List.contains_iff_mem]
      constructor
      · rintro h f' g' rfl rfl - - - id hid
        exact h id hid
      · intro h
        simp only [Bool.or_eq_true, Bool.not_eq_true', decide_eq_true_eq, not_or] at happlies
        exact h f g rfl rfl (by simpa using happlies.1.1) (by simpa using happlies.1.2)
          (by simpa [eq_comm] using happlies.2)
  · rename_i hneither
    simp only [true_iff]
    exact fun f g hf hg => (hneither f g hf hg).elim

theorem apart_iff : Apart a b ↔
    duplicateIdentity a b = none ∧ duplicateContainer a b = none ∧
      sharedSuppression a b = none := by
  have hidentity : duplicateIdentity a b = none ↔
      ¬ (a.isActive = true ∧ b.isActive = true ∧ sameIdentity a b = true) := by
    simp [duplicateIdentity, and_assoc]
  rw [hidentity, duplicateContainer_eq_none, sharedSuppression_eq_none]
  exact ⟨fun h => ⟨h.identity, h.container, h.suppression⟩, fun h => ⟨h.1, h.2.1, h.2.2⟩⟩

theorem decoded_iff : Decoded prim records nextId ↔
    (∀ r ∈ records, RecordLoaded prim r) ∧ (∀ r ∈ records, r.id < nextId) ∧
      (records.map (·.id)).Nodup ∧ records.Pairwise Apart := by
  have hids : (records.map (·.id)).Nodup ↔ records.Pairwise fun a b => duplicateId a b = none := by
    rw [List.Nodup, List.pairwise_map]
    simp [duplicateId]
  rw [hids]
  constructor
  · intro h
    refine ⟨h.loaded, h.below, h.ids, ?_⟩
    exact ((h.identities.and h.containers).and h.suppressions).imp fun hab =>
      apart_iff.mpr ⟨hab.1.1, hab.1.2, hab.2⟩
  · rintro ⟨hloaded, hbelow, hids, hapart⟩
    exact
      { loaded := hloaded
        below := hbelow
        ids := hids
        identities := hapart.imp fun hab => (apart_iff.mp hab).1
        containers := hapart.imp fun hab => (apart_iff.mp hab).2.1
        suppressions := hapart.imp fun hab => (apart_iff.mp hab).2.2 }

/-! ## Links -/

theorem validContainerLinksFrom_iff {owners : List MutationRecord} :
    validContainerLinksFrom records owners = .ok () ↔
      ∀ owner ∈ owners, ∀ p c, owner.undo.payload = .SssdOwnership p → p.container = some c →
        owner.isActive = true → validContainerLink records owner p c = .ok () := by
  induction owners with
  | nil => simp [validContainerLinksFrom]
  | cons owner owners ih =>
    unfold validContainerLinksFrom
    rw [List.forall_mem_cons, ← ih]
    split
    · rename_i p hp
      have howner : (∀ p' c, owner.undo.payload = .SssdOwnership p' → p'.container = some c →
          owner.isActive = true → validContainerLink records owner p' c = .ok ()) ↔
          ∀ c, p.container = some c → owner.isActive = true →
            validContainerLink records owner p c = .ok () := by
        refine ⟨fun h c => h p c hp, fun h p' c hp' => ?_⟩
        obtain rfl := UndoPayload.SssdOwnership.inj (hp.symm.trans hp')
        exact h c
      rw [howner]
      split
      · rename_i c hc
        split_ifs with hactive <;> simp [except_check_eq_ok, hc, hactive]
      · rename_i hc
        simp [hc]
    · rename_i hother
      simp only [except_ok_bind, iff_and_self]
      exact fun _ p c hp => absurd hp (hother p)

/-- A link holds among other records as well, if the completed releases are still
there. -/
theorem validContainerLink_mono {owner : MutationRecord} {p : SssdJournalOwnership}
    {c : SssdContainerWitness} (hnodup : (records'.map (·.id)).Nodup)
    (hkept : ∀ r ∈ records, r.status = .RolledBack → r ∈ records')
    (h : validContainerLink records owner p c = .ok ()) :
    validContainerLink records' owner p c = .ok () := by
  unfold validContainerLink at h ⊢
  split at h
  · cases h
  rename_i source released hrelease
  split at h
  · cases h
  rename_i t ht
  split at h
  · cases h
  rename_i d hd
  obtain ⟨hproven, hsurvives⟩ := except_check_eq_ok.mp h
  simp only [rejectIf_eq_ok, Bool.or_eq_false_iff, decide_eq_false_iff_not, not_not] at hproven
  have hsame : releaseOf records' c.releaseId = some (source, released) := by
    unfold releaseOf at hrelease ⊢
    split at hrelease
    · cases hrelease
    rename_i r hfind
    split at hrelease
    · rename_i own hown
      obtain ⟨rfl, rfl⟩ := Prod.mk.inj (Option.some.inj hrelease)
      have hmem := hkept r (List.mem_reverse.mp (List.mem_of_find?_eq_some hfind)) hproven.1.1.1
      have hid : r.id = c.releaseId := by simpa using List.find?_some hfind
      have hnodup' : (records'.reverse.map (·.id)).Nodup := by
        rw [List.map_reverse]
        exact List.nodup_reverse.mpr hnodup
      rw [← hid, find?_of_nodup hnodup' (List.mem_reverse.mpr hmem)]
      simp only [hown]
    · cases hrelease
  simp only [hsame, ht, hd, except_check_eq_ok]
  exact ⟨by simpa using hproven, hsurvives⟩

/-! ## Preparing -/

/-- What a load has checked of a journal. -/
structure Loadable (prim : Primitives) (j : Journal) : Prop where
  decoded : Decoded prim j.records j.nextId
  links : validContainerLinks j.records = .ok ()

/-- Whatever id it gets, the prepared record passes the checks that a load makes of
each record. -/
structure Admissible (prim : Primitives) (record : MutationRecord) : Prop where
  accepted : ∀ id, LoadAccepted prim { record with id := id, status := .Prepared, error := [] }
  bounds : readerBounds record.undo.payload = true

/-- The record that is written for a mutation. -/
structure WrittenFor (record a : MutationRecord) : Prop where
  policy : a.policy = record.policy
  resource : a.resource = record.resource
  undo : a.undo = record.undo
  status : a.status = .Prepared
  error : a.error = []

theorem Admissible.loaded (h : Admissible prim record) (ha : WrittenFor record a) :
    RecordLoaded prim a := by
  obtain ⟨hpolicy, hresource, hundo, hstatus, herror⟩ := ha
  have haccepted := h.accepted a.id
  cases a
  cases record
  dsimp only at hpolicy hresource hundo hstatus herror haccepted
  subst hpolicy hresource hundo hstatus herror
  exact recordLoaded_of_accepted
    ⟨haccepted.named, haccepted.belongs, haccepted.payload, haccepted.identity, haccepted.status⟩
    h.bounds

/-- The file that a record of a PAM provider is about. -/
def providerPath : UndoPayload → Option Bytes
  | .OwnPamProviderContainer c => some c.configPath
  | .RemovePamProviderManagedFlag f => some f.configPath
  | _ => none

theorem resource_of_provider {path : Bytes} (h : LoadAccepted prim r)
    (hpath : providerPath r.undo.payload = some path) :
    r.undo.backend = .Pam ∧ r.resource = path := by
  have hbackend : r.undo.backend = .Pam := by
    have hbelongs := h.belongs
    cases hp : r.undo.payload <;> cases hb : r.undo.backend <;>
      simp_all [belongsTo, providerPath]
  have hguard := h.pamGuard hbackend
  refine ⟨hbackend, ?_⟩
  cases hp : r.undo.payload <;> rw [hp] at hpath <;>
    simp_all [providerPath, pamGuard, except_check_eq_ok, MutationRecord.isIdentityRecord]

/-- The guards in front of a preparation keep the new record apart from every other. -/
theorem apart_of_admitted (admitted : Admitted prim record j) (hr : r ∈ j.records)
    (hloaded : RecordLoaded prim r) (ha : WrittenFor record a) (hloaded' : RecordLoaded prim a)
    (hother : (r.isActive && sameIdentity r record) = false) : Apart r a := by
  have hidentity : r.isActive = true → r.undo.backend = record.undo.backend →
      r.resource = record.resource → r.policy ≠ record.policy := by
    intro hactive hbackend hresource hpolicy
    simp [hactive, sameIdentity, hbackend, hresource, hpolicy] at hother
  refine ⟨?_, ?_, ?_⟩
  · rintro ⟨hactive, -, hsame⟩
    obtain ⟨hpolicy, hbackend, hresource⟩ := sameIdentity_iff.mp hsame
    exact hidentity hactive (hbackend.trans (by rw [ha.undo])) (hresource.trans ha.resource)
      (hpolicy.trans ha.policy)
  · intro c d hc hd hactive _ heq
    obtain ⟨hbackend, hresource⟩ := resource_of_provider hloaded.accepted (by rw [hc]; rfl)
    obtain ⟨hbackend', hresource'⟩ := resource_of_provider hloaded'.accepted (by rw [hd]; rfl)
    rw [ha.undo] at hd hbackend'
    have hguard := admitted.lifecycle hbackend'
    simp only [pamLifecycleGuard, hd, rejectIf_eq_ok, List.any_eq_false] at hguard
    have hpolicy : r.policy = record.policy := by
      have hclaims := hguard r hr
      simpa [claimsContainer, hc, hactive, heq] using hclaims
    exact hidentity hactive (hbackend.trans hbackend'.symm)
      (hresource.trans (heq.trans (hresource'.symm.trans ha.resource))) hpolicy
  · intro f g hf hg hactive hactive' heq id hid hid'
    obtain ⟨hbackend, hresource⟩ := resource_of_provider hloaded.accepted (by rw [hf]; rfl)
    obtain ⟨hbackend', hresource'⟩ := resource_of_provider hloaded'.accepted (by rw [hg]; rfl)
    rw [ha.undo] at hg hbackend'
    have hresource : r.resource = record.resource :=
      hresource.trans (heq.trans (hresource'.symm.trans ha.resource))
    have hpolicy := hidentity hactive (hbackend.trans hbackend'.symm) hresource
    have hguard := admitted.lifecycle hbackend'
    simp only [pamLifecycleGuard, hg, pamFlagGuard] at hguard
    split at hguard
    · rename_i hnone
      have hcollision := List.findSome?_eq_none_iff.mp hnone r hr
      have hapart : ∀ id ∈ preparedPamFlagSuppressionAuthority g,
          id ∉ activePamFlagSuppressionAuthority r f := by
        simpa [flagCollision, hactive, hbackend, hpolicy, hresource, hf, heq] using hcollision
      have hprepared : activePamFlagSuppressionAuthority a g =
          preparedPamFlagSuppressionAuthority g := by
        simp [activePamFlagSuppressionAuthority, hactive', ha.status]
      exact hapart id (hprepared ▸ hid') hid
    · cases hguard

theorem not_sssd_of_written {p : SssdJournalOwnership} (admitted : Admitted prim record j)
    (ha : WrittenFor record a) : a.undo.payload ≠ .SssdOwnership p := by
  intro hp
  have huntyped := admitted.untyped
  rw [← ha.undo, hp] at huntyped
  cases huntyped

/-- The links survive if the new record replaces an active one, or none. -/
theorem links_of_written (hlinks : validContainerLinks j.records = .ok ())
    (admitted : Admitted prim record j) (ha : WrittenFor record a)
    (hnodup : (records.map (·.id)).Nodup) (hmem : ∀ r ∈ records, r ∈ j.records ∨ r = a)
    (hkept : ∀ r ∈ j.records, r.status = .RolledBack → r ∈ records) :
    validContainerLinks records = .ok () := by
  refine validContainerLinksFrom_iff.mpr fun owner howner p c hp hc hactive => ?_
  rcases hmem owner howner with howner | rfl
  · exact validContainerLink_mono hnodup hkept
      (validContainerLinksFrom_iff.mp hlinks owner howner p c hp hc hactive)
  · exact absurd hp (not_sssd_of_written admitted ha)

/-- A prepared mutation leaves a journal that loads again. -/
theorem Loadable.of_change (h : Loadable prim j)
    (hwrap : j.nextId ≠ UInt64.ofNat (2 ^ 64 - 1)) (admissible : Admissible prim record)
    (change : PrepareChange prim env false record j next) : Loadable prim next := by
  obtain ⟨hloaded, hbelow, hnodup, hapart⟩ := decoded_iff.mp h.decoded
  cases change with
  | @refresh i existing admitted found active same =>
    replace admitted := admitted_of_ok admitted
    obtain ⟨hpolicy, -, hresource⟩ := sameIdentity_iff.mp same
    have hwritten : WrittenFor record (refreshed env existing record) :=
      ⟨hpolicy, hresource, rfl, rfl, rfl⟩
    have hnew := admissible.loaded hwritten
    have hids : (j.setRecord i (refreshed env existing record)).records.map (·.id) =
        j.records.map (·.id) := map_set_of_eq found rfl
    have hnodup' := hids ▸ hnodup
    have hbelow' : existing.id < j.nextId := hbelow existing (List.mem_of_getElem? found)
    refine ⟨decoded_iff.mpr ⟨forall_mem_set hloaded hnew, ?_, hnodup', ?_⟩, ?_⟩
    · exact forall_mem_set hbelow hbelow'
    · refine pairwise_set Apart.symm hapart fun k y hk hki => ?_
      have hy := List.mem_of_getElem? hk
      refine apart_of_admitted admitted hy (hloaded y hy) hwritten hnew ?_
      -- another active record of the identity would clash with the refreshed one
      have hclash := (pairwise_getElem? Apart.symm hapart found hk hki).identity
      by_contra hmatch
      rw [Bool.not_eq_false, Bool.and_eq_true] at hmatch
      obtain ⟨hp, hb, hr⟩ := sameIdentity_iff.mp hmatch.2
      obtain ⟨hp', hb', hr'⟩ := sameIdentity_iff.mp same
      exact hclash ⟨hmatch.1, active, sameIdentity_iff.mpr
        ⟨hp.trans hp'.symm, hb.trans hb'.symm, hr.trans hr'.symm⟩⟩
    · refine links_of_written h.links admitted hwritten hnodup' ?_ ?_
      · exact fun r hr => List.mem_or_eq_of_mem_set hr
      · intro r hr hrolled
        obtain ⟨k, hk⟩ := List.mem_iff_getElem?.mp hr
        have hki : i ≠ k := by
          rintro rfl
          obtain rfl := Option.some.inj (found.symm.trans hk)
          simp [MutationRecord.isActive, hrolled, MutationStatus.isActive] at active
        exact List.mem_iff_getElem?.mpr ⟨k, (List.getElem?_set_ne hki).trans hk⟩
  | append admitted unmatched =>
    replace admitted := admitted_of_ok admitted
    have hwritten : WrittenFor record (fresh env j.nextId record) := ⟨rfl, rfl, rfl, rfl, rfl⟩
    have hnew := admissible.loaded hwritten
    have hids : (j.append env record).records.map (·.id) = j.records.map (·.id) ++ [j.nextId] := by
      simp [append, fresh]
    obtain ⟨hbelow', hnodup'⟩ := ids_concat hwrap (List.forall_mem_map.mpr hbelow) hnodup
    rw [← hids] at hbelow' hnodup'
    refine ⟨decoded_iff.mpr ⟨?_, List.forall_mem_map.mp hbelow', hnodup', ?_⟩, ?_⟩
    · exact List.forall_mem_append.mpr ⟨hloaded, List.forall_mem_singleton.mpr hnew⟩
    · refine List.pairwise_append.mpr ⟨hapart, List.pairwise_singleton _ _, fun r hr a ha => ?_⟩
      rw [List.mem_singleton.mp ha]
      exact apart_of_admitted admitted hr (hloaded r hr) hwritten hnew (unmatched r hr)
    · refine links_of_written h.links admitted hwritten hnodup' ?_ ?_
      · exact fun r hr => (List.mem_append.mp hr).imp id List.mem_singleton.mp
      · exact fun r hr _ => List.mem_append_left _ hr

end Fic.Journal
