import Fic.Execution.DependencyGraph
import Fic.Execution.Planner

/-!
# What a plan guarantees

`Followed` is the part of the dependency graph the planner follows: matching
dependencies of enabled policies outside the excluded modules.  `PlannerInv`
ties the planner's tables together; its core is that the summary is a
dependency order of the followed graph.

`executePolicy_spec` is the specification of one recursive call, proved by
induction on the fuel with the loop over the dependencies as its step
(`executeDependencies_spec`).  It needs the registry to be acyclic, which the
validator guarantees.
-/

namespace Fic.Execution

open Fic.Lib Relation

variable {results : List PolicyApplyResult}

variable {policy : Policy} {result : PolicyApplyResult} {ref : PolicyRef}

/-! ## The followed dependencies -/

/-- The planner executes `target` on behalf of `owner`. -/
def Followed (registry : PolicyRegistry) (excludedModules : List Bytes)
    (owner target : PolicyRef) : Prop :=
  ∃ policy, registry.findPolicy owner = some policy ∧ policy.enabled = true ∧
    ∃ dependency ∈ policy.dependencies,
      dependencyConditionMatches policy dependency.condition = true ∧
      dependency.policy.moduleName ∉ excludedModules ∧ dependency.policy = target

section

variable {registry : PolicyRegistry} {excludedModules : List Bytes}

theorem Followed.dependsOn {owner target : PolicyRef}
    (h : Followed registry excludedModules owner target) : registry.DependsOn owner target := by
  obtain ⟨policy, hpolicy, -, dependency, hdependency, -, -, htarget⟩ := h
  exact ⟨policy, hpolicy, dependency, hdependency, htarget⟩

theorem followed_acyclic (h : validatePolicyDependencyGraph registry = some (.ok ()))
    (ref : PolicyRef) : ¬ TransGen (Followed registry excludedModules) ref ref := by
  intro hcycle
  exact validatePolicyDependencyGraph_acyclic h ref
    (hcycle.lift id fun _ _ hstep => Followed.dependsOn hstep)

end

/-! ## The invariant -/

def refs (results : List PolicyApplyResult) : List PolicyRef :=
  results.map (·.ref)

/-- The policy is registered and enabled. -/
def Enabled (registry : PolicyRegistry) (ref : PolicyRef) : Prop :=
  ∃ policy, registry.findPolicy ref = some policy ∧ policy.enabled = true

/-- An own execution of an enabled policy happened right before its result, behind
the results of its followed dependencies, and with every required one applied. -/
structure AttemptInOrder (registry : PolicyRegistry) (excludedModules : List Bytes)
    (results : List PolicyApplyResult) (attempt : OwnAttempt) : Prop where
  enabled : Enabled registry attempt.ref
  position : ∃ result behind, results = attempt.before ++ result :: behind ∧
    result.ref = attempt.ref
  followed : ∀ target, Followed registry excludedModules attempt.ref target →
    target ∈ refs attempt.before
  required : ∀ policy, registry.findPolicy attempt.ref = some policy →
    ∀ dependency ∈ policy.dependencies,
      dependencyConditionMatches policy dependency.condition = true →
      dependency.strength = .Required →
      ∃ result ∈ attempt.before, result.ref = dependency.policy ∧ result.status = .Applied

structure PlannerInv {ω : Type} (registry : PolicyRegistry) (excludedModules : List Bytes)
    (st : PlannerState ω) : Prop where
  stored : st.results = st.summary.results.map fun result => (result.ref, result)
  ordered : DependencyOrder (Followed registry excludedModules) (refs st.summary.results)
  attempts : ∀ attempt ∈ st.attempts,
    AttemptInOrder registry excludedModules st.summary.results attempt
  once : (st.attempts.map (·.ref)).Nodup

/-- A part of a plan that executes only what `reached` allows. -/
structure Progress {ω : Type} (registry : PolicyRegistry) (excludedModules : List Bytes)
    (reached : PolicyRef → Prop) (st st' : PlannerState ω) : Prop where
  inv : PlannerInv registry excludedModules st'
  visiting : st'.visiting = st.visiting
  grows : ∃ added, st'.summary.results = st.summary.results ++ added ∧
    ∀ result ∈ added, reached result.ref
  roots : st'.summary.requestedRoots = st.summary.requestedRoots

section

variable {ω : Type} {registry : PolicyRegistry} {excludedModules : List Bytes}
  {st st' st'' : PlannerState ω} {reached : PolicyRef → Prop}

variable {attempt : OwnAttempt}

theorem AttemptInOrder.append
    (h : AttemptInOrder registry excludedModules results attempt) (added : List PolicyApplyResult) :
    AttemptInOrder registry excludedModules (results ++ added) attempt := by
  obtain ⟨result, behind, hresults, href⟩ := h.position
  refine ⟨h.enabled, ⟨result, behind ++ added, ?_, href⟩, h.followed, h.required⟩
  rw [hresults, List.append_assoc, List.cons_append]

theorem AttemptInOrder.mem_refs
    (h : AttemptInOrder registry excludedModules results attempt) : attempt.ref ∈ refs results := by
  obtain ⟨result, behind, hresults, href⟩ := h.position
  rw [refs, hresults, ← href]
  simp

theorem Progress.refl (h : PlannerInv registry excludedModules st) :
    Progress registry excludedModules reached st st :=
  ⟨h, rfl, ⟨[], by simp⟩, rfl⟩

section

variable (h : Progress registry excludedModules reached st st')

include h

theorem Progress.trans (h' : Progress registry excludedModules reached st' st'') :
    Progress registry excludedModules reached st st'' := by
  obtain ⟨added, hadded, hreached⟩ := h.grows
  obtain ⟨added', hadded', hreached'⟩ := h'.grows
  refine ⟨h'.inv, h'.visiting.trans h.visiting, ⟨added ++ added', ?_, ?_⟩,
    h'.roots.trans h.roots⟩
  · rw [hadded', hadded, List.append_assoc]
  · exact List.forall_mem_append.mpr ⟨hreached, hreached'⟩

theorem Progress.mono {reached' : PolicyRef → Prop}
    (hmono : ∀ ref, reached ref → reached' ref) :
    Progress registry excludedModules reached' st st' := by
  obtain ⟨added, hadded, hreached⟩ := h.grows
  exact ⟨h.inv, h.visiting, ⟨added, hadded, fun result hresult =>
    hmono _ (hreached result hresult)⟩, h.roots⟩

theorem Progress.subset :
    st.summary.results ⊆ st'.summary.results := by
  obtain ⟨added, hadded, -⟩ := h.grows
  rw [hadded]
  exact List.subset_append_left _ _

end

/-! ## The results table -/

section

variable (h : PlannerInv registry excludedModules st)

include h

theorem PlannerInv.lookup_some (hlookup : st.results.lookup ref = some result) :
    result ∈ st.summary.results ∧ result.ref = ref := by
  rw [h.stored] at hlookup
  obtain ⟨stored, hstored, heq⟩ := List.mem_map.mp (mem_of_lookup hlookup)
  obtain ⟨rfl, rfl⟩ := heq
  exact ⟨hstored, rfl⟩

theorem PlannerInv.lookup_eq_none :
    st.results.lookup ref = none ↔ ref ∉ refs st.summary.results := by
  rw [h.stored, Lib.lookup_eq_none, List.map_map]
  rfl

/-- Every matching required dependency has been applied. -/
def RequiredApplied (registry : PolicyRegistry) (ref : PolicyRef)
    (results : List PolicyApplyResult) : Prop :=
  ∀ policy, registry.findPolicy ref = some policy → ∀ dependency ∈ policy.dependencies,
    dependencyConditionMatches policy dependency.condition = true →
    dependency.strength = .Required →
    ∃ result ∈ results, result.ref = dependency.policy ∧ result.status = .Applied

/-- A new result, with or without an own execution right before it. -/
theorem record_progress (hlookup : st.results.lookup ref = none) (href : result.ref = ref)
    (hdeps : ∀ target, Followed registry excludedModules ref target →
      target ∈ refs st.summary.results) {world : ω} {attempts : List OwnAttempt}
    (hattempts : attempts = st.attempts ∨
      attempts = st.attempts ++ [⟨ref, st.summary.results⟩] ∧ Enabled registry ref ∧
        RequiredApplied registry ref st.summary.results) :
    Progress registry excludedModules (ReflTransGen (Followed registry excludedModules) ref) st
      (PlannerState.record { st with world := world, attempts := attempts } ref result).2 := by
  have hnew := h.lookup_eq_none.mp hlookup
  have horder := h.ordered.concat hnew hdeps
  have hold : ∀ attempt ∈ st.attempts,
      AttemptInOrder registry excludedModules (st.summary.results ++ [result]) attempt :=
    fun attempt hattempt => (h.attempts attempt hattempt).append _
  simp only [PlannerState.record, hlookup, Option.getD_none, Option.isSome_none,
    Bool.false_eq_true, if_false]
  refine ⟨⟨by simp [h.stored, href], by simpa [refs, href] using horder, ?_, ?_⟩, rfl,
    ⟨[result], rfl, List.forall_mem_singleton.mpr (href ▸ .refl)⟩, rfl⟩
  · rcases hattempts with rfl | ⟨rfl, henabled, hrequired⟩
    · exact hold
    · refine List.forall_mem_append.mpr ⟨hold, List.forall_mem_singleton.mpr ?_⟩
      exact ⟨henabled, ⟨result, [], rfl, href⟩, hdeps, hrequired⟩
  · rcases hattempts with rfl | ⟨rfl, -⟩
    · exact h.once
    · rw [List.map_append, List.map_singleton, ← List.concat_eq_append]
      refine h.once.concat fun hmem => ?_
      obtain ⟨attempt, hattempt, rfl⟩ := List.mem_map.mp hmem
      exact hnew (h.attempts attempt hattempt).mem_refs

end

theorem record_mem (hlookup : st.results.lookup ref = none) (href : result.ref = ref) :
    (st.record ref result).1 ∈ (st.record ref result).2.summary.results ∧
      (st.record ref result).1.ref = ref := by
  simp [PlannerState.record, hlookup, href]

end

/-! ## Own execution -/

/-- Whatever the executor and `apply()` do, the result is one of this policy. -/
theorem executeOwnPolicy_ref {ω : Type} (own : OwnBehaviour ω) (ref : PolicyRef) (world : ω) :
    (executeOwnPolicy own ref world).1.ref = ref := by
  have hadapted : ∀ adapted applied,
      (ownAnswer own ref world).1 = .ok (some adapted, applied) → adapted.ref = ref := by
    intro adapted applied h
    unfold ownAnswer at h
    split at h
    · cases happly : (own.apply ref world).1 <;> simp [happly, Except.map] at h
    · split at h
      · simp at h
      · rename_i world' _
        cases happly : (own.apply ref world').1 <;> simp [happly, Except.map] at h
      · split_ifs at h with hidentity hstatus
        simp only [Except.ok.injEq, Prod.mk.injEq, Option.some.injEq] at h
        rw [← h.1]
        exact not_not.mp hidentity
  unfold executeOwnPolicy
  dsimp only
  split
  · rename_i adapted applied hanswer
    exact hadapted adapted applied hanswer
  · rfl
  · rfl

/-! ## The loop over the dependencies -/

section

variable {ω : Type} {registry : PolicyRegistry} {excludedModules : List Bytes}

def unvisited (registry : PolicyRegistry) (visiting : List PolicyRef) : List PolicyRef :=
  registry.policyRefs.filter fun ref => ref ∉ visiting

theorem unvisited_cons_lt {visiting : List PolicyRef} (hmem : ref ∈ registry.policyRefs)
    (hnew : ref ∉ visiting) :
    (unvisited registry (ref :: visiting)).length < (unvisited registry visiting).length := by
  refine length_filter_lt (fun other hother => ?_) hmem (by simpa using hnew) (by simp)
  simp only [List.mem_cons, not_or, decide_eq_true_eq] at hother ⊢
  exact hother.2

/-- The specification of one recursive call: it answers, it executes only what
can be reached from `ref`, and its answer is the result of `ref`. -/
def ExecuteSpec (registry : PolicyRegistry) (excludedModules : List Bytes) (fuel : Nat)
    (execute : PolicyRef → PlannerState ω → Option (PolicyApplyResult × PlannerState ω)) :
    Prop :=
  ∀ ref st, PlannerInv registry excludedModules st →
    (∀ other ∈ st.visiting, TransGen (Followed registry excludedModules) other ref) →
    (unvisited registry st.visiting).length < fuel →
    ∃ result st', execute ref st = some (result, st') ∧
      Progress registry excludedModules
        (ReflTransGen (Followed registry excludedModules) ref) st st' ∧
      result ∈ st'.summary.results ∧ result.ref = ref

/-- What the loop has established about the dependencies it went through. -/
structure Scanned (registry : PolicyRegistry) (excludedModules : List Bytes)
    (policy : Policy) (dependencies : List PolicyDependency)
    (results : List PolicyApplyResult) (requiredBlocked : Bool) : Prop where
  executed : ∀ dependency ∈ dependencies,
    dependencyConditionMatches policy dependency.condition = true →
    dependency.policy.moduleName ∉ excludedModules → dependency.policy ∈ refs results
  unblocked : requiredBlocked = false → ∀ dependency ∈ dependencies,
    dependencyConditionMatches policy dependency.condition = true →
    dependency.strength = .Required →
    ∃ result ∈ results, result.ref = dependency.policy ∧ result.status = .Applied

variable {dependencies : List PolicyDependency} {requiredBlocked : Bool}

theorem Scanned.cons {dependency : PolicyDependency}
    (h : Scanned registry excludedModules policy dependencies results requiredBlocked)
    (hexecuted : dependencyConditionMatches policy dependency.condition = true →
      dependency.policy.moduleName ∉ excludedModules → dependency.policy ∈ refs results)
    (hunblocked : requiredBlocked = false →
      dependencyConditionMatches policy dependency.condition = true →
      dependency.strength = .Required →
      ∃ result ∈ results, result.ref = dependency.policy ∧ result.status = .Applied) :
    Scanned registry excludedModules policy (dependency :: dependencies) results requiredBlocked :=
  ⟨List.forall_mem_cons.mpr ⟨hexecuted, h.executed⟩,
    fun hfree => List.forall_mem_cons.mpr ⟨hunblocked hfree, h.unblocked hfree⟩⟩

variable {own : OwnBehaviour ω}
  {execute : PolicyRef → PlannerState ω → Option (PolicyApplyResult × PlannerState ω)}

theorem executeDependencies_blocked_mono {scan scan' : DependencyScan ω}
    (h : executeDependencies own excludedModules execute policy dependencies scan =
      some scan') (hblocked : scan.requiredBlocked = true) : scan'.requiredBlocked = true := by
  induction dependencies generalizing scan with
  | nil =>
    rw [executeDependencies, Option.some.injEq] at h
    rw [← h, hblocked]
  | cons dependency dependencies ih =>
    rw [executeDependencies] at h
    split_ifs at h with hmatch hexcluded
    · exact ih h hblocked
    · exact ih h (by simp [DependencyScan.block, hblocked])
    · split at h
      · contradiction
      · refine ih h ?_
        split_ifs
        · simp [DependencyScan.block, hblocked]
        · exact hblocked

theorem executeDependencies_spec (own : OwnBehaviour ω) {fuel : Nat}
    (hexecute : ExecuteSpec registry excludedModules fuel execute)
    (hpolicy : registry.findPolicy ref = some policy) (henabled : policy.enabled = true)
    (dependencies : List PolicyDependency) (hsub : dependencies ⊆ policy.dependencies)
    (scan : DependencyScan ω) (hinv : PlannerInv registry excludedModules scan.st)
    (hvisiting : ∀ other ∈ scan.st.visiting,
      ReflTransGen (Followed registry excludedModules) other ref)
    (hfuel : (unvisited registry scan.st.visiting).length < fuel) :
    ∃ scan', executeDependencies own excludedModules execute policy dependencies scan =
        some scan' ∧
      Progress registry excludedModules
        (TransGen (Followed registry excludedModules) ref) scan.st scan'.st ∧
      Scanned registry excludedModules policy dependencies scan'.st.summary.results
        scan'.requiredBlocked := by
  induction dependencies generalizing scan with
  | nil =>
    exact ⟨scan, rfl, .refl hinv, ⟨by simp, by simp⟩⟩
  | cons dependency dependencies ih =>
    obtain ⟨hdependency, hrest⟩ := List.cons_subset.mp hsub
    rw [executeDependencies]
    by_cases hmatch : dependencyConditionMatches policy dependency.condition = true
    swap
    · -- the condition does not match: nothing to show for this dependency
      obtain ⟨scan', hloop, hprogress, hscanned⟩ := ih hrest scan hinv hvisiting hfuel
      rw [if_pos (by simpa using hmatch)]
      exact ⟨scan', hloop, hprogress, hscanned.cons (fun hmatches => absurd hmatches hmatch)
        fun _ hmatches => absurd hmatches hmatch⟩
    rw [if_neg (by simp [hmatch])]
    by_cases hexcluded : dependency.policy.moduleName ∈ excludedModules
    · -- an excluded dependency is not executed and blocks if required
      rw [if_pos (by simpa using hexcluded)]
      obtain ⟨scan', hloop, hprogress, hscanned⟩ := ih hrest
        (scan.block own dependency (lit "dependency belongs to explicitly excluded module " ++
          dependency.policy.moduleName)) hinv hvisiting hfuel
      refine ⟨scan', hloop, hprogress, hscanned.cons (fun _ hfree => absurd hexcluded hfree)
        fun hfree _ hrequired => ?_⟩
      have hblocked := executeDependencies_blocked_mono hloop
        (by simp [DependencyScan.block, hrequired])
      rw [hfree] at hblocked
      contradiction
    · rw [if_neg (by simpa using hexcluded)]
      have hstep : Followed registry excludedModules ref dependency.policy :=
        ⟨policy, hpolicy, henabled, dependency, hdependency, hmatch, hexcluded, rfl⟩
      obtain ⟨result, st, hcall, hprogress, hresult, href⟩ :=
        hexecute dependency.policy scan.st hinv
          (fun other hother => TransGen.tail' (hvisiting other hother) hstep) hfuel
      rw [hcall]
      dsimp only
      -- the state behind the call, whether the dependency blocks or not
      generalize hnext : (if result.status ≠ .Applied then
        DependencyScan.block { scan with st := st } own dependency
          (lit "dependency status=" ++ policyApplyStatusToString result.status)
        else { scan with st := st }) = next
      have hstate : next.st = st := by
        rw [← hnext]
        split_ifs <;> rfl
      have hbelow : Progress registry excludedModules
          (TransGen (Followed registry excludedModules) ref) scan.st next.st := by
        rw [hstate]
        exact hprogress.mono fun _ hreach => TransGen.head' hstep hreach
      obtain ⟨scan', hloop, hprogress', hscanned⟩ := ih hrest next hbelow.inv
        (by rw [hbelow.visiting]; exact hvisiting) (by rw [hbelow.visiting]; exact hfuel)
      have hkept : result ∈ scan'.st.summary.results := by
        refine hprogress'.subset ?_
        rw [hstate]
        exact hresult
      refine ⟨scan', hloop, hbelow.trans hprogress', hscanned.cons (fun _ _ => ?_)
        fun hfree _ hrequired => ⟨result, hkept, href, ?_⟩⟩
      · rw [← href]
        exact List.mem_map_of_mem hkept
      · by_contra hstatus
        have hblocked := executeDependencies_blocked_mono hloop (by
          rw [← hnext, if_pos hstatus]
          simp [DependencyScan.block, hrequired])
        rw [hfree] at hblocked
        contradiction

/-! ## One policy -/

/-- What the loop over all dependencies has established. -/
theorem Scanned.complete
    (h : Scanned registry excludedModules policy (sortedDependencies policy) results
      requiredBlocked) (hpolicy : registry.findPolicy ref = some policy) :
    (∀ target, Followed registry excludedModules ref target → target ∈ refs results) ∧
      (requiredBlocked = false → RequiredApplied registry ref results) := by
  have hmem : ∀ dependency ∈ policy.dependencies, dependency ∈ sortedDependencies policy :=
    fun dependency => (List.mem_insertionSort _).mpr
  constructor
  · rintro target ⟨policy', hpolicy', -, dependency, hdependency, hmatch, hfree, rfl⟩
    obtain rfl := Option.some.inj (hpolicy.symm.trans hpolicy')
    exact h.executed dependency (hmem dependency hdependency) hmatch hfree
  · intro hblocked policy' hpolicy' dependency hdependency
    obtain rfl := Option.some.inj (hpolicy.symm.trans hpolicy')
    exact h.unblocked hblocked dependency (hmem dependency hdependency)

theorem finishPolicy_spec (own : OwnBehaviour ω) (hpolicy : registry.findPolicy ref = some policy)
    (henabled : policy.enabled = true) {st : PlannerState ω} {scan : DependencyScan ω}
    (hprogress : Progress registry excludedModules
      (TransGen (Followed registry excludedModules) ref)
      { st with visiting := ref :: st.visiting } scan.st)
    (hscanned : Scanned registry excludedModules policy (sortedDependencies policy)
      scan.st.summary.results scan.requiredBlocked) (hlookup : scan.st.results.lookup ref = none) :
    Progress registry excludedModules (ReflTransGen (Followed registry excludedModules) ref)
        st (finishPolicy own ref scan).2 ∧
      (finishPolicy own ref scan).1 ∈ (finishPolicy own ref scan).2.summary.results ∧
      (finishPolicy own ref scan).1.ref = ref := by
  obtain ⟨hdeps, hrequired⟩ := hscanned.complete hpolicy
  have hvisiting : scan.st.visiting.erase ref = st.visiting := by
    rw [hprogress.visiting]
    exact List.erase_cons_head ref st.visiting
  -- the state the result is recorded in
  have hbefore : Progress registry excludedModules
      (ReflTransGen (Followed registry excludedModules) ref) st
      { scan.st with visiting := scan.st.visiting.erase ref } := by
    obtain ⟨added, hadded, hreached⟩ := hprogress.grows
    exact ⟨⟨hprogress.inv.stored, hprogress.inv.ordered, hprogress.inv.attempts,
      hprogress.inv.once⟩, hvisiting,
      ⟨added, hadded, fun result hresult => (hreached result hresult).to_reflTransGen⟩,
      hprogress.roots⟩
  have href := executeOwnPolicy_ref own ref scan.st.world
  unfold finishPolicy
  dsimp only
  split_ifs with hblocked
  · exact ⟨hbefore.trans (record_progress hbefore.inv hlookup rfl hdeps (.inl rfl)),
      record_mem hlookup rfl⟩
  · have happlied := hrequired (Bool.eq_false_iff.mpr hblocked)
    refine ⟨hbefore.trans (record_progress hbefore.inv hlookup ?_ hdeps
      (.inr ⟨rfl, ⟨policy, hpolicy, henabled⟩, happlied⟩)), record_mem hlookup ?_⟩ <;> exact href

theorem executePolicy_spec (own : OwnBehaviour ω)
    (hacyclic : ∀ ref, ¬ TransGen (Followed registry excludedModules) ref ref) (fuel : Nat) :
    ExecuteSpec registry excludedModules fuel
      (executePolicy registry own excludedModules fuel) := by
  induction fuel with
  | zero =>
    intro ref st _ _ hfuel
    omega
  | succ fuel ih =>
    intro ref st hinv hvisiting hfuel
    rw [executePolicy]
    cases hlookup : st.results.lookup ref with
    | some cached =>
      obtain ⟨hcached, href⟩ := hinv.lookup_some hlookup
      exact ⟨cached, st, rfl, .refl hinv, hcached, href⟩
    | none =>
      -- a result for a policy that follows nothing
      have hplain : ∀ result : PolicyApplyResult, result.ref = ref →
          (∀ target, ¬ Followed registry excludedModules ref target) →
          ∃ result' st', some (st.record ref result) = some (result', st') ∧
            Progress registry excludedModules
              (ReflTransGen (Followed registry excludedModules) ref) st st' ∧
            result' ∈ st'.summary.results ∧ result'.ref = ref := by
        intro result href hnone
        exact ⟨_, _, rfl, record_progress hinv hlookup href
          (fun target hstep => absurd hstep (hnone target)) (.inl rfl), record_mem hlookup href⟩
      cases hpolicy : registry.findPolicy ref with
      | none =>
        refine hplain _ rfl ?_
        rintro target ⟨policy, hpolicy', -⟩
        rw [hpolicy] at hpolicy'
        contradiction
      | some policy =>
        by_cases henabled : policy.enabled = true
        swap
        · dsimp only
          rw [if_pos (by simpa using henabled)]
          refine hplain _ rfl ?_
          rintro target ⟨policy', hpolicy', henabled', -⟩
          rw [hpolicy] at hpolicy'
          obtain rfl := Option.some.inj hpolicy'
          exact henabled henabled'
        · have hnew : ref ∉ st.visiting := fun hmem => hacyclic ref (hvisiting ref hmem)
          have hless := unvisited_cons_lt (PolicyRegistry.mem_policyRefs hpolicy) hnew
          obtain ⟨scan, hloop, hprogress, hscanned⟩ := executeDependencies_spec
            own ih hpolicy henabled (sortedDependencies policy)
            (fun dependency hdependency => (List.mem_insertionSort _).mp hdependency)
            { st := { st with visiting := ref :: st.visiting } }
            ⟨hinv.stored, hinv.ordered, hinv.attempts, hinv.once⟩
            (List.forall_mem_cons.mpr
              ⟨.refl, fun other hother => (hvisiting other hother).to_reflTransGen⟩)
            (by dsimp only; omega)
          have hlookup' : scan.st.results.lookup ref = none := by
            rw [hprogress.inv.lookup_eq_none]
            obtain ⟨added, hadded, hreached⟩ := hprogress.grows
            rw [hadded, refs, List.map_append, List.mem_append, not_or]
            refine ⟨hinv.lookup_eq_none.mp hlookup, ?_⟩
            intro hmem
            obtain ⟨result, hresult, href⟩ := List.mem_map.mp hmem
            exact hacyclic ref (href ▸ hreached result hresult)
          obtain ⟨hfinish, hresult, href⟩ :=
            finishPolicy_spec own hpolicy henabled hprogress hscanned hlookup'
          dsimp only
          rw [if_neg (by simp [henabled]), if_neg (by simpa using hnew), hloop]
          exact ⟨_, _, rfl, hfinish, hresult, href⟩

/-! ## The whole plan -/

theorem executeRoots_spec (hacyclic : ∀ ref, ¬ TransGen (Followed registry excludedModules) ref ref)
    (roots : List PolicyRef) (st : PlannerState ω)
    (hinv : PlannerInv registry excludedModules st) (hidle : st.visiting = []) :
    ∃ st', executeRoots registry own excludedModules (registry.policies.length + 1) roots st =
        some st' ∧
      Progress registry excludedModules
        (fun ref => ∃ root ∈ roots, ReflTransGen (Followed registry excludedModules) root ref)
        st st' ∧
      roots ⊆ refs st'.summary.results := by
  induction roots generalizing st with
  | nil => exact ⟨st, rfl, .refl hinv, List.nil_subset _⟩
  | cons root roots ih =>
    have hfuel : (unvisited registry st.visiting).length < registry.policies.length + 1 := by
      have hle := List.length_filter_le (fun ref => decide (ref ∉ st.visiting))
        registry.policyRefs
      rw [PolicyRegistry.policyRefs, List.length_map] at hle
      exact Nat.lt_succ_of_le hle
    obtain ⟨result, st₁, hcall, hfirst, hresult, href⟩ :=
      executePolicy_spec own hacyclic _ root st hinv (by simp [hidle]) hfuel
    obtain ⟨st', hrun, hrest, hroots⟩ :=
      ih st₁ hfirst.inv (hfirst.visiting.trans hidle)
    rw [executeRoots, hcall]
    refine ⟨st', hrun, ?_, List.cons_subset.mpr ⟨?_, hroots⟩⟩
    · refine (hfirst.mono fun ref hreach => ?_).trans (hrest.mono fun ref hreach => ?_)
      · exact ⟨root, List.mem_cons_self, hreach⟩
      · obtain ⟨other, hother, hreach⟩ := hreach
        exact ⟨other, List.mem_cons_of_mem _ hother, hreach⟩
    · rw [← href]
      exact List.mem_map_of_mem (hrest.subset hresult)

end

theorem mem_roots {request : PolicyExecutionRequest} :
    ref ∈ request.roots ↔ ref ∈ request.requestedRoots := by
  rw [PolicyExecutionRequest.roots, List.mem_insertionSort, List.mem_dedup]

/-- For an accepted registry, whatever the policies' own `apply()` does: the
plan ends; every own execution is of an enabled policy and happens once, behind
the results of the followed dependencies and with every matching required
dependency applied; and the summary holds exactly one result for each policy
that is reached, dependencies first. -/
theorem execute_planned {ω : Type} {registry : PolicyRegistry}
    (haccepted : validatePolicyDependencyGraph registry = some (.ok ()))
    (own : OwnBehaviour ω) (request : PolicyExecutionRequest) (world : ω) :
    ∃ st, execute registry own request world = some st ∧
      (st.attempts.map (·.ref)).Nodup ∧
      (∀ attempt ∈ st.attempts,
        AttemptInOrder registry request.excludedModules st.summary.results attempt) ∧
      DependencyOrder (Followed registry request.excludedModules)
        (refs st.summary.results) ∧
      (∀ ref, ref ∈ refs st.summary.results ↔ ∃ root ∈ request.requestedRoots,
        ReflTransGen (Followed registry request.excludedModules) root ref) ∧
      st.summary.requestedRoots = request.roots := by
  have hacyclic : ∀ ref, ¬ TransGen (Followed registry request.excludedModules) ref ref :=
    followed_acyclic haccepted
  have hstart : PlannerInv registry request.excludedModules
      ({ world := world, summary := { requestedRoots := request.roots } } : PlannerState ω) :=
    ⟨rfl, .nil, by simp, List.nodup_nil⟩
  obtain ⟨st, hrun, hprogress, hroots⟩ := executeRoots_spec hacyclic request.roots _ hstart rfl
  refine ⟨st, hrun, hprogress.inv.once, hprogress.inv.attempts, hprogress.inv.ordered, ?_,
    hprogress.roots⟩
  intro ref
  constructor
  · intro href
    obtain ⟨result, hresult, rfl⟩ := List.mem_map.mp href
    obtain ⟨added, hadded, hreached⟩ := hprogress.grows
    rw [List.nil_append] at hadded
    obtain ⟨root, hroot, hreach⟩ := hreached result (hadded ▸ hresult)
    exact ⟨root, mem_roots.mp hroot, hreach⟩
  · rintro ⟨root, hroot, hreach⟩
    exact hprogress.inv.ordered.mem_of_reach (hroots (mem_roots.mpr hroot)) hreach

/-- Two policies of different modules, the first with a recommended dependency
on the second. -/
def sampleOwner : PolicyRef :=
  { moduleName := lit "A", submoduleName := lit "s", policyName := lit "owner" }

def sampleTarget : PolicyRef :=
  { moduleName := lit "B", submoduleName := lit "s", policyName := lit "target" }

def sampleRegistryWith (enabled : Bool) : PolicyRegistry :=
  { policies :=
      [(sampleOwner,
          { enabled
            dependencies := [{ policy := sampleTarget, strength := .Recommended }] }),
        (sampleTarget, { enabled := true })]
    sorted := by cases enabled <;> decide }

def sampleRegistry : PolicyRegistry := sampleRegistryWith true

def sampleOwn : OwnBehaviour Unit :=
  { apply := fun _ _ => (.ok true, ()) }

theorem sampleRegistry_accepted :
    validatePolicyDependencyGraph sampleRegistry = some (.ok ()) := by
  decide +kernel

theorem execute_planned_sample :
    ∃ st, execute sampleRegistry sampleOwn { requestedRoots := [sampleOwner] } () = some st ∧
      (st.attempts.map (·.ref)).Nodup ∧
      (∀ attempt ∈ st.attempts, AttemptInOrder sampleRegistry [] st.summary.results attempt) ∧
      DependencyOrder (Followed sampleRegistry []) (refs st.summary.results) ∧
      (∀ ref, ref ∈ refs st.summary.results ↔ ∃ root ∈ [sampleOwner],
        ReflTransGen (Followed sampleRegistry []) root ref) ∧
      st.summary.requestedRoots =
        PolicyExecutionRequest.roots { requestedRoots := [sampleOwner] } :=
  execute_planned sampleRegistry_accepted sampleOwn { requestedRoots := [sampleOwner] } ()

/-- With module `B` excluded the owner runs although its matching dependency
was not executed, and the dependency has no result.  A disabled owner gets a result
without its dependency too, and does not run. -/
theorem execute_excluded_dependency :
    validatePolicyDependencyGraph sampleRegistry = some (.ok ()) ∧
      Followed sampleRegistry [] sampleOwner sampleTarget ∧
      (execute sampleRegistry sampleOwn
          { requestedRoots := [sampleOwner], excludedModules := [lit "B"] } ()).map
        (fun st => (st.attempts.map (·.ref), refs st.summary.results)) =
      some ([sampleOwner], [sampleOwner]) ∧
      (execute (sampleRegistryWith false) sampleOwn { requestedRoots := [sampleOwner] } ()).map
        (fun st => (st.attempts.map (·.ref), refs st.summary.results)) =
      some ([], [sampleOwner]) := by
  refine ⟨sampleRegistry_accepted, ?_, ?_, ?_⟩
  · exact ⟨_, rfl, rfl, _, List.mem_singleton_self _, rfl, by simp, rfl⟩
  · decide +kernel
  · decide +kernel

end Fic.Execution
