import Fic.Lib.Except
import Fic.Pam.ProviderBlock.Placement

/-!
# Histories of entry mutations

A provider file goes through a history of `setPamProviderManagedEntry` and
`removePamProviderManagedEntry` calls.  The abstract state is the map
`liveAfter` from ownership tuples to the last written body and mutation id;
the file is one rendering of it next to the administrator's bytes.

`EntryRun.inv` is the run invariant: as long as no written body mentions the
reserved marker namespace, the file holds exactly the live entries around
exactly the foreign bytes it started from.  A body that does mention the
namespace passes `validateEntrySpec`, is written, and is then refused by the
parser.
-/

namespace Fic.Pam

open Fic.Lib

variable {view : PamProviderBlockView}
  {result : PamProviderMutationResult} {expectation : PamProviderOwnershipExpectation}
  {request : PamProviderBlockPlacementRequest} {spec : PamProviderEntrySpec}

/-! ## What a successful call does -/

def PamProviderEntrySpec.entry (spec : PamProviderEntrySpec) : PamProviderManagedEntry :=
  { policy := spec.policy
    managedKey := spec.managedKey
    body := pamProviderEntryBody spec.managedKey spec.value spec.provider
    mutationId := spec.mutationId }

/-- The checks of `validateEntrySpec`. -/
structure SpecValid (spec : PamProviderEntrySpec) : Prop where
  provider : isValidPamProviderIdentityToken spec.provider = true
  policy : isValidPamProviderIdentityToken spec.policy = true
  managedKey : isValidPamProviderManagedKey spec.managedKey = true
  mutationId : spec.mutationId ≠ 0
  body : parseCanonicalPamProviderEntryBody spec.entry.body spec.provider =
    some (spec.managedKey, spec.value)

theorem specValid_of_validate (h : validateEntrySpec spec = .ok ()) : SpecValid spec := by
  unfold validateEntrySpec at h
  split_ifs at h with hprovider hpolicy hkey hid hbody
  simp only [Bool.not_eq_true', Bool.not_eq_false, Option.isNone_iff_eq_none] at *
  refine ⟨hprovider, hpolicy, hkey, hid, ?_⟩
  change parseCanonicalPamProviderEntryBody
    (pamProviderEntryBody spec.managedKey spec.value spec.provider) spec.provider = _
  rw [parseCanonicalPamProviderEntryBody_body hkey] at hbody ⊢
  split_ifs at hbody ⊢ <;> first | rfl | exact absurd rfl hbody

theorem SpecValid.readable (h : SpecValid spec)
    (hplain : mentionsReservedNamespace spec.entry.body = false) :
    EntryReadable spec.provider spec.entry :=
  ⟨h.policy, h.mutationId, .assignment h.body hplain⟩

variable {content : Bytes}

/-- Everything a successful set call can have done. -/
theorem setPamProviderManagedEntry_cases (hview : parsePamProviderManagedBlock content = .ok view)
    (h : setPamProviderManagedEntry content spec request = .ok result) :
    SpecValid spec ∧
      ((∃ existing, findEntry view.entries spec.policy spec.managedKey = some existing ∧
          existing.mutationId = spec.mutationId ∧ existing.body = spec.entry.body ∧
          result.content = content) ∨
        (∃ existing, findEntry view.entries spec.policy spec.managedKey = some existing ∧
          existing.mutationId = spec.mutationId ∧
          result.content = placeBlock spec.provider
            (replaceBody view.entries spec.policy spec.managedKey spec.entry.body)
            (parsedForeign content view) request) ∨
        (findEntry view.entries spec.policy spec.managedKey = none ∧
          result.content = placeBlock spec.provider
            (canonicalSort (view.entries ++ [spec.entry]))
            (parsedForeign content view) request)) := by
  unfold setPamProviderManagedEntry at h
  obtain ⟨⟨⟩, hvalid, h⟩ := except_bind_eq_ok.mp h
  simp only [hview, except_ok_bind] at h
  split_ifs at h
  refine ⟨specValid_of_validate hvalid, ?_⟩
  cases hfind : findEntry view.entries spec.policy spec.managedKey with
  | none =>
    simp only [hfind] at h
    rw [← Except.ok.inj h]
    exact .inr (.inr ⟨rfl, rfl⟩)
  | some existing =>
    simp only [hfind] at h
    split_ifs at h with hid hsame <;> rw [← Except.ok.inj h]
    · exact .inl ⟨existing, rfl, not_not.mp hid, hsame.1, rfl⟩
    · exact .inr (.inl ⟨existing, rfl, not_not.mp hid, rfl⟩)

/-- Everything a successful remove call can have done. -/
theorem removePamProviderManagedEntry_cases {result : PamProviderRemovalResult}
    (hview : parsePamProviderManagedBlock content = .ok view)
    (h : removePamProviderManagedEntry content expectation request = .ok result) :
    ((view.present = false ∨
        findEntry view.entries expectation.policy expectation.managedKey = none) ∧
      result.content = content) ∨
    (view.present = true ∧ view.provider = expectation.provider ∧
      ∃ entry, findEntry view.entries expectation.policy expectation.managedKey =
          some entry ∧
        entry.mutationId = expectation.mutationId ∧ entry.body = expectation.body ∧
        let remaining := view.entries.filter fun candidate =>
          !candidate.isFor expectation.policy expectation.managedKey
        result.content =
          if remaining.isEmpty then parsedForeign content view
          else placeBlock expectation.provider remaining (parsedForeign content view)
            request) := by
  unfold removePamProviderManagedEntry at h
  obtain ⟨⟨⟩, hvalid, h⟩ := except_bind_eq_ok.mp h
  simp only [hview, except_ok_bind] at h
  cases hfind : findEntry view.entries expectation.policy expectation.managedKey with
  | none =>
    simp only [hfind] at h
    refine .inl ⟨.inr rfl, ?_⟩
    split_ifs at h <;> rw [← Except.ok.inj h]
  | some entry =>
    simp only [hfind] at h
    split_ifs at h with hpresent hprovider hid hbody hlast <;> rw [← Except.ok.inj h]
    · exact .inl ⟨.inl (by simpa using hpresent), rfl⟩
    all_goals
      refine .inr ⟨by simpa using hpresent, not_not.mp hprovider, entry, rfl,
        not_not.mp hid, not_not.mp hbody, ?_⟩
      simp [hlast]

/-! ## Finding and replacing entries -/

variable {entry : PamProviderManagedEntry}

theorem isFor_iff {policy managedKey : Bytes} :
    entry.isFor policy managedKey = true ↔
      entry.policy = policy ∧ entry.managedKey = managedKey := by
  simp [PamProviderManagedEntry.isFor]

variable {entries : List PamProviderManagedEntry}

theorem findEntry_eq_none_iff {policy managedKey : Bytes} :
    findEntry entries policy managedKey = none ↔
      ∀ e ∈ entries, ¬ (e.policy = policy ∧ e.managedKey = managedKey) := by
  simp only [findEntry, List.find?_eq_none, isFor_iff]

theorem mem_of_findEntry {policy managedKey : Bytes}
    (h : findEntry entries policy managedKey = some entry) :
    entry ∈ entries ∧ entry.policy = policy ∧ entry.managedKey = managedKey := by
  rw [findEntry] at h
  have hfor := List.find?_some h
  exact ⟨List.mem_of_find?_eq_some h, isFor_iff.mp hfor⟩

/-- Among entries of different tuples, replacing the first one of a tuple
replaces all of that tuple. -/
theorem replaceBody_eq_map (h : entries.Pairwise EntriesApart) (policy managedKey body : Bytes) :
    replaceBody entries policy managedKey body =
      entries.map fun e => if e.isFor policy managedKey then { e with body := body } else e := by
  induction entries with
  | nil => rfl
  | cons e es ih =>
    obtain ⟨hfirst, hrest⟩ := List.pairwise_cons.mp h
    rw [replaceBody, List.replaceF, List.map_cons]
    by_cases he : e.isFor policy managedKey = true
    · -- no later entry has the tuple of `e`
      have hothers : es.map (fun e => if e.isFor policy managedKey then
          { e with body := body } else e) = es := by
        conv_rhs => rw [← List.map_id es]
        refine List.map_congr_left fun x hx => ?_
        have hx' : ¬ x.isFor policy managedKey = true := by
          rw [isFor_iff] at he ⊢
          rintro ⟨hpolicy, hkey⟩
          exact (hfirst x hx).1 ⟨he.1.trans hpolicy.symm, he.2.trans hkey.symm⟩
        rw [if_neg hx', id]
      simp only [he, if_true, hothers]
    · simp only [he, if_false, Bool.false_eq_true]
      rw [← ih hrest]
      rfl

/-! ## Histories -/

/-- One call on the file. -/
inductive EntryCall
  | set (spec : PamProviderEntrySpec) (request : PamProviderBlockPlacementRequest)
  | remove (expectation : PamProviderOwnershipExpectation)
      (request : PamProviderBlockPlacementRequest)
  deriving DecidableEq, Repr

def EntryCall.run (call : EntryCall) (content : Bytes) : Except Bytes Bytes :=
  match call with
  | .set spec request =>
    (setPamProviderManagedEntry content spec request).map (·.content)
  | .remove expectation request =>
    (removePamProviderManagedEntry content expectation request).map (·.content)

/-- Successful calls, in order, from the administrator's file. -/
inductive EntryRun (foreign : Bytes) : List EntryCall → Bytes → Prop
  | start : EntryRun foreign [] foreign
  | step {calls : List EntryCall} {call : EntryCall} {content content' : Bytes}
      (hrun : EntryRun foreign calls content) (hcall : call.run content = .ok content') :
      EntryRun foreign (calls ++ [call]) content'

variable {calls : List EntryCall}

def setSpecs (calls : List EntryCall) : List PamProviderEntrySpec :=
  calls.filterMap fun call =>
    match call with
    | .set spec _ => some spec
    | .remove _ _ => none

/-- What the history says about each (policy, key): the last written body
and mutation id, unless removed since. -/
abbrev LiveEntries := Bytes × Bytes → Option (Bytes × UInt64)

def liveStep (live : LiveEntries) (call : EntryCall) : LiveEntries :=
  match call with
  | .set spec _ =>
    Function.update live (spec.policy, spec.managedKey)
      (some (spec.entry.body, spec.mutationId))
  | .remove expectation _ =>
    Function.update live (expectation.policy, expectation.managedKey) none

def liveAfter (calls : List EntryCall) : LiveEntries :=
  calls.foldl liveStep fun _ => none

@[simp] theorem liveAfter_concat (calls : List EntryCall) (call : EntryCall) :
    liveAfter (calls ++ [call]) = liveStep (liveAfter calls) call := by
  simp [liveAfter]

/-- A live mutation id was given by a set call of the same tuple. -/
theorem liveAfter_origin {tuple : Bytes × Bytes} {body : Bytes} {id : UInt64}
    (h : liveAfter calls tuple = some (body, id)) :
    ∃ spec ∈ setSpecs calls, (spec.policy, spec.managedKey) = tuple ∧
      spec.mutationId = id := by
  induction calls using List.reverseRecOn with
  | nil => simp [liveAfter] at h
  | append_singleton calls call ih =>
    rw [liveAfter_concat] at h
    have hold : liveAfter calls tuple = some (body, id) →
        ∃ spec ∈ setSpecs (calls ++ [call]), (spec.policy, spec.managedKey) = tuple ∧
          spec.mutationId = id := by
      intro hlive
      obtain ⟨spec, hmem, hspec⟩ := ih hlive
      exact ⟨spec, by simp only [setSpecs, List.filterMap_append] at hmem ⊢; simp [hmem], hspec⟩
    cases call with
    | set spec request =>
      simp only [liveStep, Function.update_apply] at h
      split_ifs at h with htuple
      · refine ⟨spec, by simp [setSpecs], htuple.symm, ?_⟩
        simpa using congrArg (Option.map Prod.snd) h
      · exact hold h
    | remove expectation request =>
      simp only [liveStep, Function.update_apply] at h
      split_ifs at h
      exact hold h

/-- The file is one rendering of the live entries next to `foreign`. -/
structure HistoryInv (provider foreign : Bytes) (live : LiveEntries) (content : Bytes)
    (entries : List PamProviderManagedEntry) : Prop where
  rendered : (entries = [] ∧ content = foreign) ∨
    (BlockEntries provider entries ∧
      ∃ request, content = placeBlock provider entries foreign request)
  exact : ∀ e, e ∈ entries ↔
    e.kind = .Assignment ∧ live (e.policy, e.managedKey) = some (e.body, e.mutationId)

/-! ## The invariant along a history -/

section Step

variable {provider foreign : Bytes} {live : LiveEntries} {content : Bytes}
  {entries : List PamProviderManagedEntry}

section

variable (h : HistoryInv provider foreign live content entries)

include h

theorem HistoryInv.block :
    entries = [] ∨ BlockEntries provider entries :=
  h.rendered.imp And.left And.left

theorem HistoryInv.apart :
    entries.Pairwise EntriesApart :=
  h.block.elim (fun hnil => hnil ▸ .nil) (·.apart)

theorem HistoryInv.sorted :
    entries.Pairwise entryBefore :=
  h.block.elim (fun hnil => hnil ▸ .nil) (·.sorted)

theorem HistoryInv.readable :
    ∀ e ∈ entries, EntryReadable provider e :=
  h.block.elim (fun hnil => hnil ▸ List.forall_mem_nil _) (·.readable)

/-- The parser lists the live entries and the decoder gives `foreign` back. -/
theorem HistoryInv.parse (hforeign : mentionsReservedNamespace foreign = false) :
    ∃ view, parsePamProviderManagedBlock content = .ok view ∧ view.entries = entries ∧
      view.present = !entries.isEmpty ∧ (view.present = true → view.provider = provider) ∧
      parsedForeign content view = foreign := by
  rcases h.rendered with ⟨rfl, rfl⟩ | ⟨hblock, request, rfl⟩
  · exact ⟨{}, parsePamProviderManagedBlock_plain hforeign, rfl, rfl, nofun, rfl⟩
  · obtain ⟨view, hview, hpresent, hprovider, hentries, -, hbytes⟩ :=
      decodesTo_placeBlock hblock hforeign request
    refine ⟨view, hview, hentries, ?_, fun _ => hprovider, hbytes⟩
    simp [hpresent, hblock.nonempty]

end

section Set

variable (h : HistoryInv provider foreign live content entries)
  (hprovider : spec.provider = provider) (hvalid : SpecValid spec)
  (hplain : mentionsReservedNamespace spec.entry.body = false)
include h hprovider hvalid hplain

/-- The written entry among those of the other tuples. -/
theorem HistoryInv.written {entries' : List PamProviderManagedEntry}
    (hmem : ∀ e, e ∈ entries' ↔
      e = spec.entry ∨ e ∈ entries ∧ ¬e.isFor spec.policy spec.managedKey = true)
    (hapart : entries'.Pairwise EntriesApart) (hsorted : entries'.Pairwise entryBefore)
    (request : PamProviderBlockPlacementRequest) :
    HistoryInv provider foreign (liveStep live (.set spec request))
      (placeBlock provider entries' foreign request) entries' := by
  have hreadable : ∀ e ∈ entries', EntryReadable provider e := by
    intro e he
    rcases (hmem e).mp he with rfl | ⟨he, -⟩
    · exact hprovider ▸ hvalid.readable hplain
    · exact h.readable e he
  refine ⟨.inr ⟨⟨hprovider ▸ hvalid.provider, List.ne_nil_of_mem ((hmem _).mpr (.inl rfl)),
    hreadable, hapart, hsorted⟩, request, rfl⟩, fun e => ?_⟩
  simp only [hmem, isFor_iff, h.exact, liveStep, Function.update_apply, Prod.mk.injEq]
  split_ifs with htuple
  · simp only [htuple, true_and, not_true, and_false, or_false, Option.some.injEq, Prod.mk.injEq]
    constructor
    · rintro rfl
      exact ⟨rfl, rfl, rfl⟩
    · rintro ⟨hkind, hbody, hid⟩
      obtain ⟨p, k, b, i, kd⟩ := e
      simp only at hkind hbody hid htuple
      rw [hkind, htuple.1, htuple.2, ← hbody, ← hid]
      rfl
  · simp only [htuple, not_false_eq_true, and_true, or_iff_right_iff_imp]
    rintro rfl
    exact absurd ⟨rfl, rfl⟩ htuple

/-- Updating the body of a live entry. -/
theorem HistoryInv.replace {existing : PamProviderManagedEntry}
    (hfind : findEntry entries spec.policy spec.managedKey = some existing)
    (hid : existing.mutationId = spec.mutationId) (request : PamProviderBlockPlacementRequest) :
    HistoryInv provider foreign (liveStep live (.set spec request))
      (placeBlock provider
        (replaceBody entries spec.policy spec.managedKey spec.entry.body) foreign request)
      (replaceBody entries spec.policy spec.managedKey spec.entry.body) := by
  obtain ⟨hmem, hpolicy, hkey⟩ := mem_of_findEntry hfind
  have hlive := ((h.exact existing).mp hmem).2
  rw [replaceBody_eq_map h.apart]
  set update := fun e : PamProviderManagedEntry =>
    if e.isFor spec.policy spec.managedKey then { e with body := spec.entry.body } else e
    with hupdate
  have hsame : ∀ e, update e = { e with body := (update e).body } := by
    intro e
    simp only [hupdate]
    split_ifs <;> rfl
  -- only one entry is updated, and becomes the one of the call
  have hwritten : ∀ e ∈ entries, e.isFor spec.policy spec.managedKey = true →
      update e = spec.entry := by
    intro e he hfor
    obtain ⟨hpolicy', hkey'⟩ := isFor_iff.mp hfor
    obtain ⟨hkind, hlive'⟩ := (h.exact e).mp he
    rw [hpolicy', hkey', ← hpolicy, ← hkey, hlive, Option.some.injEq, Prod.mk.injEq] at hlive'
    simp only [hupdate, if_pos hfor, PamProviderEntrySpec.entry, hpolicy', hkey', hkind,
      ← hlive'.2, hid]
  refine h.written hprovider hvalid hplain (fun e' => ?_) ?_ ?_ request
  · rw [List.mem_map]
    constructor
    · rintro ⟨e, he, rfl⟩
      by_cases hfor : e.isFor spec.policy spec.managedKey = true
      · exact .inl (hwritten e he hfor)
      · simp only [hupdate, if_neg hfor]
        exact .inr ⟨he, hfor⟩
    · rintro (rfl | ⟨he, hfor⟩)
      · exact ⟨existing, hmem, hwritten _ hmem (isFor_iff.mpr ⟨hpolicy, hkey⟩)⟩
      · exact ⟨e', he, if_neg hfor⟩
  · refine List.pairwise_map.mpr (h.apart.imp fun {a b} hab => ?_)
    rw [hsame a, hsame b]
    exact hab
  · refine List.pairwise_map.mpr (h.sorted.imp fun {a b} hab => ?_)
    rw [hsame a, hsame b]
    exact hab

/-- Adding an entry for a tuple that is not live. -/
theorem HistoryInv.insert (hfresh : ∀ tuple body, live tuple = some (body, spec.mutationId) →
      tuple = (spec.policy, spec.managedKey))
    (hfind : findEntry entries spec.policy spec.managedKey = none)
    (request : PamProviderBlockPlacementRequest) :
    HistoryInv provider foreign (liveStep live (.set spec request))
      (placeBlock provider (canonicalSort (entries ++ [spec.entry])) foreign request)
      (canonicalSort (entries ++ [spec.entry])) := by
  rw [findEntry_eq_none_iff] at hfind
  have hperm := canonicalSort_perm (entries ++ [spec.entry])
  have hapart : (entries ++ [spec.entry]).Pairwise EntriesApart := by
    refine List.pairwise_append.mpr ⟨h.apart, List.pairwise_singleton _ _, ?_⟩
    intro e he new hnew
    rw [List.mem_singleton.mp hnew]
    refine ⟨hfind e he, fun hid => hfind e he ?_⟩
    have hlive := ((h.exact e).mp he).2
    rw [hid] at hlive
    simpa using hfresh _ _ hlive
  refine h.written hprovider hvalid hplain (fun e => ?_)
    (hperm.symm.pairwise hapart EntriesApart.symm) (canonicalSort_sorted hapart) request
  rw [hperm.mem_iff, List.mem_append, List.mem_singleton, or_comm, isFor_iff]
  exact or_congr_right (and_iff_left_of_imp (hfind e)).symm

end Set

/-- A successful set call with a readable body keeps the invariant. -/
theorem HistoryInv.set (h : HistoryInv provider foreign live content entries)
    (hforeign : mentionsReservedNamespace foreign = false) (hprovider : spec.provider = provider)
    (hplain : mentionsReservedNamespace spec.entry.body = false)
    (hfresh : ∀ tuple body, live tuple = some (body, spec.mutationId) →
      tuple = (spec.policy, spec.managedKey))
    (hset : setPamProviderManagedEntry content spec request = .ok result) :
    ∃ entries', HistoryInv provider foreign (liveStep live (.set spec request))
      result.content entries' := by
  obtain ⟨view, hview, rfl, -, -, hbytes⟩ := h.parse hforeign
  obtain ⟨hvalid, hcases⟩ := setPamProviderManagedEntry_cases hview hset
  rw [hbytes] at hcases
  rcases hcases with ⟨existing, hfind, hid, hbody, hcontent⟩ |
    ⟨existing, hfind, hid, hcontent⟩ | ⟨hfind, hcontent⟩
  · -- nothing to do: the live entry is already this one
    obtain ⟨hmem, hpolicy, hkey⟩ := mem_of_findEntry hfind
    have hlive := ((h.exact existing).mp hmem).2
    rw [hpolicy, hkey, hbody, hid] at hlive
    have hnoop : liveStep live (.set spec request) = live := by
      rw [liveStep, ← hlive, Function.update_eq_self]
    rw [hcontent, hnoop]
    exact ⟨_, h⟩
  · rw [hcontent, hprovider]
    exact ⟨_, h.replace hprovider hvalid hplain hfind hid request⟩
  · rw [hcontent, hprovider]
    exact ⟨_, h.insert hprovider hvalid hplain hfresh hfind request⟩

/-- A successful remove call keeps the invariant. -/
theorem HistoryInv.remove (h : HistoryInv provider foreign live content entries)
    (hforeign : mentionsReservedNamespace foreign = false) {result : PamProviderRemovalResult}
    (hremove : removePamProviderManagedEntry content expectation request = .ok result) :
    ∃ entries', HistoryInv provider foreign (liveStep live (.remove expectation request))
      result.content entries' := by
  obtain ⟨view, hview, rfl, hpresent, hprovider, hbytes⟩ := h.parse hforeign
  have hcases := removePamProviderManagedEntry_cases hview hremove
  rw [hbytes] at hcases
  rcases hcases with ⟨habsent, hcontent⟩ | ⟨hthere, hname, entry, hfind, -, -, hcontent⟩
  · -- the tuple was not live, so removing it changes nothing
    have hnone : findEntry view.entries expectation.policy expectation.managedKey = none := by
      rcases habsent with habsent | hnone
      · have hnil : view.entries = [] := by simpa [habsent] using hpresent.symm
        rw [hnil]
        rfl
      · exact hnone
    rw [findEntry_eq_none_iff] at hnone
    have hdead : live (expectation.policy, expectation.managedKey) = none := by
      cases hlive : live (expectation.policy, expectation.managedKey) with
      | none => rfl
      | some found =>
        have hmem := (h.exact
          { policy := expectation.policy
            managedKey := expectation.managedKey
            body := found.1
            mutationId := found.2 }).mpr ⟨rfl, hlive⟩
        exact absurd ⟨rfl, rfl⟩ (hnone _ hmem)
    have hnoop : liveStep live (.remove expectation request) = live := by
      rw [liveStep, ← hdead, Function.update_eq_self]
    rw [hcontent, hnoop]
    exact ⟨_, h⟩
  · set remaining := view.entries.filter fun candidate =>
      !candidate.isFor expectation.policy expectation.managedKey with hremaining
    have hexact : ∀ e, e ∈ remaining ↔ e.kind = .Assignment ∧
        liveStep live (.remove expectation request) (e.policy, e.managedKey) =
          some (e.body, e.mutationId) := by
      intro e
      simp only [hremaining, List.mem_filter, Bool.not_eq_true', ← Bool.not_eq_true,
        isFor_iff, h.exact e, liveStep, Function.update_apply, Prod.mk.injEq]
      split_ifs with htuple <;> simp [htuple]
    refine ⟨remaining, ?_, hexact⟩
    by_cases hlast : remaining = []
    · rw [hcontent, hlast]
      exact .inl ⟨rfl, rfl⟩
    · have hblock : BlockEntries provider view.entries :=
        h.block.resolve_left fun hnil => hlast (by simp [hremaining, hnil])
      refine .inr ⟨?_, request, ?_⟩
      · exact
          { identity := hblock.identity
            nonempty := hlast
            readable := fun e he => hblock.readable e (List.mem_of_mem_filter he)
            apart := hblock.apart.filter _
            sorted := hblock.sorted.filter _ }
      · rw [hcontent, ← hname, hprovider hthere]
        simp [hlast]

end Step

/-! ## Whole histories -/

/-- Every history of one provider whose bodies do not mention the reserved
namespace keeps the file a rendering of the live entries. -/
theorem EntryRun.inv {provider foreign : Bytes} (hrun : EntryRun foreign calls content)
    (hforeign : mentionsReservedNamespace foreign = false)
    (hprovider : ∀ spec ∈ setSpecs calls, spec.provider = provider)
    (hids : ∀ spec ∈ setSpecs calls, ∀ other ∈ setSpecs calls,
      spec.mutationId = other.mutationId →
        spec.policy = other.policy ∧ spec.managedKey = other.managedKey)
    (hplain : ∀ spec ∈ setSpecs calls, mentionsReservedNamespace spec.entry.body = false) :
    ∃ entries, HistoryInv provider foreign (liveAfter calls) content entries := by
  induction hrun with
  | start => exact ⟨[], .inl ⟨rfl, rfl⟩, by simp [liveAfter]⟩
  | @step calls call content content' hrun hcall ih =>
    have hold : ∀ spec ∈ setSpecs calls, spec ∈ setSpecs (calls ++ [call]) := by
      intro spec hspec
      simp only [setSpecs, List.filterMap_append, List.mem_append] at hspec ⊢
      exact .inl hspec
    obtain ⟨entries, hinv⟩ := ih (fun spec hspec => hprovider spec (hold spec hspec))
      (fun spec hspec other hother => hids spec (hold spec hspec) other (hold other hother))
      (fun spec hspec => hplain spec (hold spec hspec))
    rw [liveAfter_concat]
    cases call with
    | set spec request =>
      have hspec : spec ∈ setSpecs (calls ++ [.set spec request]) := by simp [setSpecs]
      obtain ⟨result, hset, rfl⟩ := except_map_eq_ok.mp hcall
      refine hinv.set hforeign (hprovider spec hspec) (hplain spec hspec) ?_ hset
      intro tuple body hlive
      -- the id of a live entry was given to its own tuple only
      obtain ⟨other, hother, htuple, hid⟩ := liveAfter_origin hlive
      obtain ⟨hpolicy, hkey⟩ := hids other (hold other hother) spec hspec hid
      rw [← htuple, hpolicy, hkey]
    | remove expectation request =>
      obtain ⟨result, hremove, rfl⟩ := except_map_eq_ok.mp hcall
      exact hinv.remove hforeign hremove

/-- At every point of a history of one provider, the parser accepts the file
and lists exactly the entries that are live; when none is left the file is
the administrator's, byte for byte. -/
theorem entryHistory_exact {provider foreign content : Bytes} {calls : List EntryCall}
    (hrun : EntryRun foreign calls content)
    (hforeign : mentionsReservedNamespace foreign = false)
    (hprovider : ∀ spec ∈ setSpecs calls, spec.provider = provider)
    (hids : ∀ spec ∈ setSpecs calls, ∀ other ∈ setSpecs calls,
      spec.mutationId = other.mutationId →
        spec.policy = other.policy ∧ spec.managedKey = other.managedKey)
    (hplain : ∀ spec ∈ setSpecs calls, mentionsReservedNamespace spec.entry.body = false) :
    ∃ view, parsePamProviderManagedBlock content = .ok view ∧ view.entries.Nodup ∧
      (∀ e, e ∈ view.entries ↔ e.kind = .Assignment ∧
        liveAfter calls (e.policy, e.managedKey) = some (e.body, e.mutationId)) ∧
      ((∀ tuple, liveAfter calls tuple = none) → content = foreign) := by
  obtain ⟨entries, hinv⟩ := hrun.inv hforeign hprovider hids hplain
  obtain ⟨view, hview, rfl, -⟩ := hinv.parse hforeign
  refine ⟨view, hview, ?_, hinv.exact, ?_⟩
  · refine hinv.apart.imp fun {a b} hapart heq => hapart.1 ?_
    rw [heq]
    exact ⟨rfl, rfl⟩
  · intro hdead
    rcases hinv.rendered with ⟨-, hcontent⟩ | ⟨hblock, -⟩
    · exact hcontent
    · -- a rendered block would hold a live entry
      obtain ⟨e, he⟩ := List.exists_mem_of_ne_nil _ hblock.nonempty
      have hlive := ((hinv.exact e).mp he).2
      rw [hdead] at hlive
      contradiction

/-- Setting and removing one entry in a file without a final line feed. -/
def sampleSpec : PamProviderEntrySpec :=
  { provider := lit "pam_faillock"
    policy := lit "faillock_deny"
    managedKey := lit "deny"
    value := lit "5"
    mutationId := 7 }

def sampleExpectation : PamProviderOwnershipExpectation :=
  { provider := lit "pam_faillock"
    policy := lit "faillock_deny"
    managedKey := lit "deny"
    body := lit "deny = 5"
    mutationId := 7 }

/-- The history "set, then remove" on that file. -/
def sampleCalls : List EntryCall :=
  [.set sampleSpec .End, .remove sampleExpectation .End]

theorem entryHistory_exact_sample :
    EntryRun (lit "audit\ndeny = 3") sampleCalls (lit "audit\ndeny = 3") ∧
    ∃ view, parsePamProviderManagedBlock (lit "audit\ndeny = 3") = .ok view ∧
      view.entries.Nodup ∧
      (∀ e, e ∈ view.entries ↔ e.kind = .Assignment ∧
        liveAfter sampleCalls (e.policy, e.managedKey) = some (e.body, e.mutationId)) ∧
      ((∀ tuple, liveAfter sampleCalls tuple = none) →
        lit "audit\ndeny = 3" = lit "audit\ndeny = 3") := by
  have hrun : EntryRun (lit "audit\ndeny = 3") sampleCalls (lit "audit\ndeny = 3") :=
    .step (.step .start rfl) rfl
  have hspecs : setSpecs sampleCalls = [sampleSpec] := rfl
  have hprovider : ∀ spec ∈ setSpecs sampleCalls, spec.provider = lit "pam_faillock" := by
    rw [hspecs]
    simp [sampleSpec]
  have hplain : ∀ spec ∈ setSpecs sampleCalls,
      mentionsReservedNamespace spec.entry.body = false := by
    rw [hspecs]
    simp only [List.mem_singleton, forall_eq]
    rfl
  exact ⟨hrun, entryHistory_exact hrun (by rfl) hprovider (by simp [hspecs]) hplain⟩

/-- What setting `deny` to `5 FIC_PAM_` leaves of the file `audit`. -/
def markerValueContent : Bytes :=
  lit ("audit\n" ++
    "\n" ++
    "# FIC_PAM_PROVIDER_BLOCK_BEGIN version=1 provider=pam_faillock lead=newline\n" ++
    "# FIC_PAM_ENTRY_BEGIN version=1 policy=faillock_deny mutation=7\n" ++
    "deny = 5 FIC_PAM_\n" ++
    "# FIC_PAM_ENTRY_END\n" ++
    "# FIC_PAM_PROVIDER_BLOCK_END\n")

/-- The value `5 FIC_PAM_` passes the shared body validator, so it is
written; the parser then takes the body line for a marker. -/
theorem entryHistory_marker_value :
    EntryRun (lit "audit\n")
        [.set { sampleSpec with value := lit "5 FIC_PAM_" } .End] markerValueContent ∧
      ∀ view, parsePamProviderManagedBlock markerValueContent ≠ .ok view := by
  refine ⟨.step .start (by decide +kernel), ?_⟩
  intro view hview
  have hrefused : (parsePamProviderManagedBlock markerValueContent).toOption = none := by
    decide +kernel
  rw [hview] at hrefused
  exact Option.some_ne_none view hrefused

end Fic.Pam
