import Fic.Journal.Codec.RoundTrip

/-!
# What the loader has read

Every record the loader reads is one its validators accept and its readers have
bounds for.  With the round trip this says that the records the loader can give
are exactly those it reads back.
-/

namespace Fic.Journal

open Fic.Lib

variable {j value : Json}
  {prim : Primitives} {backend : MutationBackend}

/-- What a reader of payloads has made sure of. -/
structure PayloadRead (prim : Primitives) (backend : MutationBackend) (payload : UndoPayload) :
    Prop where
  belongs : belongsTo backend payload = true
  checks : payloadChecks prim backend payload = .ok ()
  bounds : readerBounds payload = true

/-! ## SYSCTL -/

theorem toNat_of_isAtMost {bound : Nat} {n : UInt32} (h : isAtMost bound j = true)
    (hn : j.getUInt32 = .ok n) : n.toNat ≤ bound := by
  cases j with
  | unsigned value =>
    injection hn with hn
    have hle : value.toNat ≤ bound := of_decide_eq_true h
    rw [← hn, UInt64.toNat_toUInt32]
    exact (Nat.mod_le _ _).trans hle
  | _ => simp [isAtMost] at h

theorem length_of_isShortText {text : Bytes} (h : isShortText j = true)
    (htext : j.getString = .ok text) : text.length ≤ 1024 * 1024 := by
  cases j with
  | string value =>
    injection htext with htext
    subst htext
    exact of_decide_eq_true h
  | _ => simp [isShortText] at h

theorem readSysctlSnapshot_inBounds (j : Json) :
    Yields (fun state : Option AtomicTargetState => state.all (·.inBounds) = true)
      (readSysctlSnapshot j) := by
  unfold readSysctlSnapshot
  split_ifs
  · exact .ok rfl
  · refine .bind fun device _ => .require fun _ => .bind fun inode _ => .require fun _ => ?_
    refine .bind fun mode _ => .require fun _ => .bind fun owner _ => .require fun _ => ?_
    refine .bind fun group _ => .require fun _ => .require fun hbounds => ?_
    refine .bind fun content _ => .require fun hcontent => ?_
    refine .bind fun _ _ => .bind fun _ _ => .bind fun m hm => .bind fun _ _ => .bind fun _ _ => ?_
    refine .bind fun text htext => .ok ?_
    simp only [Bool.and_eq_true] at hbounds
    simp [AtomicTargetState.inBounds, toNat_of_isAtMost hbounds.1.1 hm,
      length_of_isShortText hcontent htext]

theorem deserializeSysctlRelease_inBounds (j : Json) :
    Yields (fun r : SysctlReleaseIntent => r.inBounds = true) (deserializeSysctlRelease j) := by
  unfold deserializeSysctlRelease
  simp only [bind_assoc]
  refine .bind fun _ _ => .bind fun _ _ => .bind fun _ _ => .bind fun _ _ => ?_
  refine .bind fun v _ => .bind fun before hbefore => ?_
  refine .bind fun v' _ => .bind fun target htarget => ?_
  refine .bind fun v'' _ => .bind fun prepared hprepared => .ok ?_
  simp [SysctlReleaseIntent.inBounds, readSysctlSnapshot_inBounds v before hbefore,
    readSysctlSnapshot_inBounds v' target htarget,
    readSysctlSnapshot_inBounds v'' prepared hprepared]

theorem deserializeSysctlState_inBounds (j : Json) :
    Yields (fun x : SysctlSettingState => x.release.all (·.inBounds) = true)
      (deserializeSysctlState j) := by
  refine .bind fun _ _ => .bind fun _ _ => .bind fun _ _ => .bind fun _ _ => ?_
  refine .bind fun _ _ => .bind fun _ _ => .bind fun _ _ => .bind fun _ _ => ?_
  refine .bind fun _ _ => .require fun _ => ?_
  split
  · exact .ok rfl
  · exact .bind fun release hrelease => .ok (deserializeSysctlRelease_inBounds _ release hrelease)

/-! ## SSSD -/

theorem parseAssignments_length (j : Json) :
    Yields (fun v : List SssdAssignment => v.length ≤ 256) (Sssd.parseAssignments j) := by
  refine .requireOrThrow fun hbound => .bind fun elements helements => ?_
  cases j with
  | array values =>
    injection helements with helements
    subst helements
    intro v hv
    have hlength := (Yields.readAll (fun _ _ _ => trivial) v hv :
      v.length = values.length ∧ ∀ _ ∈ v, True).1
    rw [hlength]
    exact of_decide_eq_true (Bool.and_eq_true_iff.mp hbound).2
  | _ => simp [Json.isArray] at hbound

theorem parseRelease_length (version : UInt32) (j : Json) :
    Yields (fun d : SssdReleaseDetails => d.remaining.length ≤ 256)
      (Sssd.parseRelease version j) := by
  unfold Sssd.parseRelease
  simp only [bind_assoc]
  refine .bind fun _ _ => .bind fun _ _ => .bind fun _ _ => .requireOrThrow fun _ => ?_
  refine .bind fun _ _ => .bind fun _ _ => .bind fun v _ => .bind fun remaining hremaining => ?_
  have hlength := parseAssignments_length v remaining hremaining
  refine .bind fun _ _ => .bind fun _ _ => .bind fun _ _ => .bind fun _ _ => .bind fun _ _ => ?_
  refine .bind fun _ _ => .bind fun _ _ => .bind fun _ _ => .bind fun _ _ => ?_
  split_ifs
  · exact .bind fun _ _ => .bind fun _ _ => .ok hlength
  · exact .requireOrThrow fun _ => .ok hlength

/-- The assignments that remain behind a release are bounded. -/
def remainingBound (t : SssdOwnershipTransition) : Prop :=
  (t.release.all fun d => d.remaining.length ≤ 256) = true

theorem parseTransition_bound (format : UInt64) (j : Json) :
    Yields remainingBound (Sssd.parseTransition format j) := by
  unfold Sssd.parseTransition
  simp only [bind_assoc]
  -- every field in front of the release
  repeat refine .bind fun _ _ => ?_
  split_ifs
  · refine .requireOrThrow fun _ => .bind fun v _ => .bind fun d hd => .ok ?_
    simpa [remainingBound] using parseRelease_length _ v d hd
  · exact .ok rfl

theorem decode_bound (j : Json) :
    Yields (fun own : SssdJournalOwnership => readerBounds (.SssdOwnership own) = true)
      (Sssd.decode j) := by
  unfold Sssd.decode
  simp only [bind_assoc]
  refine .bind fun version _ => .requireOrThrow fun _ => .bind fun _ _ => .bind fun _ _ => ?_
  have hnull : ∀ t : Option SssdOwnershipTransition, (.ok none : Reader _) = .ok t →
      (t.all fun t => t.release.all fun d => d.remaining.length ≤ 256) = true := by
    rintro t ⟨⟩
    rfl
  have hread : ∀ v t, (Sssd.parseTransition version v).map some = .ok t →
      (t.all fun t => t.release.all fun d => d.remaining.length ≤ 256) = true := by
    intro v t h
    obtain ⟨t, ht, rfl⟩ := except_map_eq_ok.mp h
    exact parseTransition_bound version v t ht
  split_ifs
  · refine .bind fun _ _ => .bind fun _ _ => .bind fun v _ => ?_
    split_ifs
    · exact .bind fun t ht => .requireOrThrow fun _ => .ok (hnull t ht)
    · exact .bind fun t ht => .requireOrThrow fun _ => .ok (hread v t ht)
  · refine .requireOrThrow fun _ => .bind fun _ _ => .bind fun v _ => ?_
    split_ifs
    · exact .bind fun t ht => .requireOrThrow fun _ => .ok (hnull t ht)
    · exact .bind fun t ht => .requireOrThrow fun _ => .ok (hread v t ht)

/-! ## SSH -/

theorem readDisabledIds_nonempty (value : Json) :
    Yields (fun ids : List Bytes => ids.any (·.isEmpty) = false) (readDisabledIds value) := by
  have hid : ∀ item, Yields (fun id : Bytes => id.isEmpty = false) (readDisabledId item) := by
    intro item
    refine .require fun _ => .bind fun id _ => .require fun hne => .ok ?_
    simpa using hne
  unfold readDisabledIds
  split
  · exact .ok rfl
  · refine .require fun _ => .bind fun items _ => ?_
    intro ids hids
    have hall := (Yields.readAll hid ids hids).2
    simpa [List.any_eq_false] using hall

/-- The contract adds typed ownership and keeps the rest. -/
theorem readSshContract_keeps (payload : UndoRemoveSshManagedPolicy) (value : Json) :
    Yields (fun p : UndoRemoveSshManagedPolicy =>
      p.policyName = payload.policyName ∧ p.directive = payload.directive ∧
        p.appliedValue = payload.appliedValue ∧
        p.disabledMutationIds = payload.disabledMutationIds)
      (readSshContract payload value) := by
  exact .bind fun _ _ => .bind fun _ _ => .bind fun _ _ => .ok ⟨rfl, rfl, rfl, rfl⟩

theorem readSshPolicy_read (value : Json) :
    Yields (PayloadRead prim .Ssh) (readSshPolicy value) := by
  refine .bind fun policyName _ => .bind fun directive _ => .bind fun appliedValue _ => ?_
  refine .require fun hnamed => .bind fun ids hids => .bind fun p hp => .ok ?_
  obtain ⟨hpolicy, hdirective, happlied, hdisabled⟩ :=
    (readSshContract_keeps _ value).guarded p hp
  have hnonempty := readDisabledIds_nonempty value ids hids
  refine ⟨rfl, ?_, rfl⟩
  simp only [payloadChecks, except_check_eq_ok, rejectIf_eq_ok, hpolicy, hdirective, happlied,
    hdisabled]
  exact ⟨by simpa using hnamed, hnonempty⟩

/-! ## The readers of payloads -/

theorem readManagedSetting_read (hbackend : belongsTo backend (.RemoveManagedSetting {}) = true) :
    Yields (PayloadRead prim backend) (readManagedSetting backend value) := by
  refine .bind fun key _ => .bind fun appliedValue _ => .bind fun sysctl hsysctl => ?_
  refine .require fun hkey => .ok ⟨?_, ?_, ?_⟩
  · cases backend <;> simp_all [belongsTo]
  · simpa [payloadChecks, imp_iff_not_or] using hkey
  · unfold readSysctlExtension at hsysctl
    split at hsysctl
    · injection hsysctl with hsysctl
      subst hsysctl
      rfl
    · obtain ⟨-, hsysctl⟩ := except_check_eq_ok.mp hsysctl
      obtain ⟨x, hx, rfl⟩ := except_map_eq_ok.mp hsysctl
      exact deserializeSysctlState_inBounds _ x hx

theorem readFirewallPolicy_read (value : Json) :
    Yields (PayloadRead prim .Firewall) (readFirewallPolicy value) := by
  refine .bind fun policyName _ => .require fun hnamed => .ok ⟨rfl, ?_, rfl⟩
  simpa [payloadChecks] using hnamed

theorem readSssdOwnership_read (value : Json) :
    Yields (PayloadRead prim .Sssd) (readSssdOwnership value) := by
  unfold readSssdOwnership
  simp only [bind_assoc]
  refine Yields.guarded (.bind fun j _ => .bind fun own hown => .ok ⟨rfl, rfl, ?_⟩)
  exact decode_bound j own hown

theorem readPayload_read {name : Bytes} {reader : Reader UndoPayload}
    (h : readPayload prim backend name value = some reader) :
    Yields (PayloadRead prim backend) reader := by
  cases backend <;> simp only [readPayload] at h <;> split_ifs at h <;> cases h
  any_goals first
    | exact readManagedSetting_read rfl
    | exact readSshPolicy_read value
    | exact readFirewallPolicy_read value
    | exact readSssdOwnership_read value
  -- the other readers build the payload and validate it at their end, or not at all
  all_goals
    repeat refine .bind fun _ _ => ?_
    first
      | exact .ok ⟨rfl, ofChecked_eq_ok.mp ‹_›, rfl⟩
      | exact .ok ⟨rfl, rfl, rfl⟩

theorem deserializeUndoAction_read {action : UndoAction}
    (h : deserializeUndoAction prim value = .ok action) :
    PayloadRead prim action.backend action.payload := by
  obtain ⟨actionName, -, h⟩ := except_bind_eq_ok.mp h
  obtain ⟨backendName, -, h⟩ := except_bind_eq_ok.mp h
  split at h
  · cases h
  · split at h
    · rename_i reader hreader
      obtain ⟨payload, hpayload, rfl⟩ := except_map_eq_ok.mp h
      exact readPayload_read hreader payload hpayload
    · cases h

/-! ## Records -/

theorem identityChecks_mono {namesPam : Bool} {record : MutationRecord}
    (h : identityChecks prim namesPam record = .ok ()) :
    identityChecks prim true record = .ok () := by
  cases namesPam with
  | true => exact h
  | false =>
    simp only [identityChecks, except_check_eq_ok] at h ⊢
    refine ⟨h.1, h.2.1, h.2.2.1, h.2.2.2.1, h.2.2.2.2.1, ?_, h.2.2.2.2.2.2⟩
    have hpam := h.2.2.2.2.2.1
    unfold checkIf at hpam ⊢
    split_ifs at hpam ⊢
    · unfold checkPamIdentity at hpam ⊢
      split at hpam <;> simp_all
    · rfl

end Fic.Journal
