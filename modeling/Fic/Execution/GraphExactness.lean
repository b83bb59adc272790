import Fic.Execution.DependencyGraph

/-!
# The dependency graph validator is exact

A registry holds policies with complete names only: its `addPolicy` refuses
others.  On such a registry the validator accepts exactly the graphs whose
declarations are well-formed (`WellDeclared`) and that have no cycle, and the
cycle it reports is a closed path of declared dependencies.

The search keeps its path: `Searching` says that the path is a chain of
dependencies and holds exactly the policies that are being visited.
-/

namespace Fic.Execution

open Fic.Lib Relation

variable {dependencies : List PolicyDependency} {ref : PolicyRef} {error : Bytes}
  {policies : List (PolicyRef × Policy)}
  {targets : List (PolicyRef × PolicyDependencyStrength)} {current : PolicyRef}

/-! ## The registered policies -/

/-- The registered policies.  Every registered name is complete. -/
structure NamedRegistry extends PolicyRegistry where
  named : ∀ ref ∈ toPolicyRegistry.policyRefs, validPolicyRef ref = true

/-! ## Declarations -/

/-- The conditions a policy may put on a dependency: none, a value it can have, or a
capability it supports. -/
inductive Conditioned (owner : Policy) : PolicyDependencyCondition → Prop
  | always : Conditioned owner { type := .Always, value := [] }
  | ownerValueEquals {value : Bytes} (valid : owner.validate value = true) :
      Conditioned owner { type := .OwnerValueEquals, value }
  | backendRequiresCapability {value : Bytes} (named : value ≠ [])
      (supported : owner.supportsDependencyCapability value = true) :
      Conditioned owner { type := .BackendRequiresCapability, value }

theorem validateDependencyCondition_eq_ok {owner : Policy}
    {condition : PolicyDependencyCondition} :
    validateDependencyCondition owner condition = .ok () ↔ Conditioned owner condition := by
  obtain ⟨type, value⟩ := condition
  unfold validateDependencyCondition
  constructor
  · intro h
    cases type with
    | Always =>
      dsimp only at h
      split_ifs at h with hvalue
      obtain rfl : value = [] := by simpa using hvalue
      exact .always
    | OwnerValueEquals =>
      dsimp only at h
      split_ifs at h with hvalid
      exact .ownerValueEquals (by simpa using hvalid)
    | BackendRequiresCapability =>
      dsimp only at h
      split_ifs at h with hsupported
      rw [Bool.not_eq_true, Bool.or_eq_false_iff, List.isEmpty_eq_false_iff] at hsupported
      exact .backendRequiresCapability hsupported.1 (by simpa using hsupported.2)
  · intro h
    cases h with
    | always => rfl
    | ownerValueEquals valid => exact if_neg (by simp [valid])
    | backendRequiresCapability named supported => exact if_neg (by simp [named, supported])

/-- What the validator asks of the declarations of one policy. -/
structure DeclaresWell (registry : PolicyRegistry) (owner : PolicyRef) (policy : Policy) :
    Prop where
  others : ∀ d ∈ policy.dependencies, d.policy ≠ owner
  known : ∀ d ∈ policy.dependencies, d.policy ∈ registry.policyRefs
  conditions : ∀ d ∈ policy.dependencies, Conditioned policy d.condition
  distinct : (policy.dependencies.map (·.policy)).Nodup

/-- Every registered policy declares its dependencies well. -/
def WellDeclared (registry : PolicyRegistry) : Prop :=
  ∀ owner policy, registry.findPolicy owner = some policy → DeclaresWell registry owner policy

section Declarations

variable {registry : PolicyRegistry} {owner : PolicyRef} {policy : Policy}

theorem isNone_findPolicy :
    (registry.findPolicy ref).isNone = true ↔ ref ∉ registry.policyRefs := by
  rw [Option.isNone_iff_eq_none, PolicyRegistry.findPolicy_eq_none]

/-- One declaration is accepted behind those of `targets`. -/
structure DeclarationFits (registry : PolicyRegistry) (owner : PolicyRef) (policy : Policy)
    (seen : List PolicyRef) (d : PolicyDependency) : Prop where
  complete : validPolicyRef d.policy = true
  other : d.policy ≠ owner
  known : d.policy ∈ registry.policyRefs
  condition : Conditioned policy d.condition
  fresh : d.policy ∉ seen

theorem checkDependencies_cons {d : PolicyDependency} :
    checkDependencies registry owner policy (d :: dependencies) targets = .ok () ↔
      DeclarationFits registry owner policy (targets.map (·.1)) d ∧
        checkDependencies registry owner policy dependencies
          (targets ++ [(d.policy, d.strength)]) = .ok () := by
  constructor
  · intro h
    rw [checkDependencies] at h
    split_ifs at h with hcomplete howner hknown
    split at h
    · cases h
    · rename_i hcondition
      split at h
      · cases h
      · rename_i hseen
        refine ⟨⟨by simpa using hcomplete, howner, ?_,
          validateDependencyCondition_eq_ok.mp hcondition, lookup_eq_none.mp hseen⟩, h⟩
        exact not_not.mp fun hnot => hknown (isNone_findPolicy.mpr hnot)
  · rintro ⟨hfits, h⟩
    rw [checkDependencies, if_neg (by simp [hfits.complete]), if_neg hfits.other,
      if_neg fun hnone => isNone_findPolicy.mp hnone hfits.known,
      validateDependencyCondition_eq_ok.mpr hfits.condition]
    dsimp only
    rw [lookup_eq_none.mpr hfits.fresh]
    exact h

theorem checkDependencies_eq_ok :
    checkDependencies registry owner policy dependencies targets = .ok () ↔
      (∀ d ∈ dependencies, DeclarationFits registry owner policy (targets.map (·.1)) d) ∧
        (dependencies.map (·.policy)).Nodup := by
  induction dependencies generalizing targets with
  | nil => simp [checkDependencies]
  | cons d dependencies ih =>
    rw [checkDependencies_cons, ih, List.forall_mem_cons, List.map_cons, List.nodup_cons]
    -- being fresh behind `d` is being fresh and different from `d`
    constructor
    · rintro ⟨hd, hrest, hnodup⟩
      refine ⟨⟨hd, fun e he => ?_⟩, ?_, hnodup⟩
      · obtain ⟨hcomplete, hother, hknown, hcondition, hfresh⟩ := hrest e he
        exact ⟨hcomplete, hother, hknown, hcondition, fun hmem => hfresh (by simp_all)⟩
      · intro hmem
        obtain ⟨e, he, heq⟩ := List.mem_map.mp hmem
        exact (hrest e he).fresh (by simp [heq])
    · rintro ⟨⟨hd, hrest⟩, hnew, hnodup⟩
      refine ⟨hd, fun e he => ?_, hnodup⟩
      obtain ⟨hcomplete, hother, hknown, hcondition, hfresh⟩ := hrest e he
      refine ⟨hcomplete, hother, hknown, hcondition, ?_⟩
      intro hmem
      rw [List.map_append, List.mem_append] at hmem
      rcases hmem with hmem | hmem
      · exact hfresh hmem
      · have heq : e.policy = d.policy := by simpa using hmem
        exact hnew (heq ▸ List.mem_map_of_mem he)

theorem checkPolicies_eq_ok :
    checkPolicies registry policies = .ok () ↔
      ∀ entry ∈ policies,
        checkDependencies registry entry.1 entry.2 entry.2.dependencies [] = .ok () := by
  induction policies with
  | nil => simp [checkPolicies]
  | cons entry policies ih =>
    obtain ⟨owner, policy⟩ := entry
    rw [checkPolicies, List.forall_mem_cons]
    split
    · rename_i error herror
      simp [herror]
    · rename_i hok
      simp [hok, ih]

end Declarations

variable {registry : PolicyRegistry}

theorem mem_policies_iff {owner : PolicyRef} {policy : Policy} :
    (owner, policy) ∈ registry.policies ↔ registry.findPolicy owner = some policy := by
  constructor
  · intro hmem
    obtain ⟨other, hother⟩ :=
      PolicyRegistry.exists_findPolicy (List.mem_map_of_mem (f := (·.1)) hmem)
    have heq := List.inj_on_of_nodup_map registry.nodup_policyRefs hmem (mem_of_lookup hother) rfl
    rw [hother, (Prod.mk.inj heq).2]
  · exact mem_of_lookup

/-- The first pass accepts exactly the well-formed declarations. -/
theorem checkPolicies_iff (registry : NamedRegistry) :
    checkPolicies registry.toPolicyRegistry registry.policies = .ok () ↔
      WellDeclared registry.toPolicyRegistry := by
  rw [checkPolicies_eq_ok]
  constructor
  · intro h owner policy hfind
    obtain ⟨hfits, hnodup⟩ :=
      checkDependencies_eq_ok.mp (h (owner, policy) (mem_policies_iff.mpr hfind))
    exact ⟨fun d hd => (hfits d hd).other, fun d hd => (hfits d hd).known,
      fun d hd => (hfits d hd).condition, hnodup⟩
  · rintro h ⟨owner, policy⟩ hmem
    have hwell := h owner policy (mem_policies_iff.mp hmem)
    refine checkDependencies_eq_ok.mpr ⟨fun d hd => ?_, hwell.distinct⟩
    exact ⟨registry.named _ (hwell.known d hd), hwell.others d hd, hwell.known d hd,
      hwell.conditions d hd, by simp⟩

/-! ## Reported cycles -/

/-- The error shows a closed path of declared dependencies. -/
def ReportsCycle (registry : PolicyRegistry) (error : Bytes) : Prop :=
  ∃ target between, List.IsChain registry.DependsOn (target :: between ++ [target]) ∧
    error = lit "policy dependency cycle detected: " ++
      (lit " -> ").intercalate ((target :: between ++ [target]).map formatPolicyRef)

/-- The search stands behind `path`. -/
structure Searching (registry : PolicyRegistry) (path : List PolicyRef) (states : VisitStates) :
    Prop where
  chain : path.IsChain registry.DependsOn
  visiting : ∀ ref, states ref = some .Visiting ↔ ref ∈ path
  finished : ∃ order, Finished registry states order

section Reported

variable {registry : PolicyRegistry} {path : List PolicyRef} {states states' : VisitStates}

theorem cycleError_reports {target : PolicyRef} (hchain : path.IsChain registry.DependsOn)
    (hmem : target ∈ path) (hedge : ∀ last ∈ path.getLast?, registry.DependsOn last target) :
    ReportsCycle registry (cycleError path target) := by
  have hsuffix := List.dropWhile_suffix (l := path) fun ref => decide (ref ≠ target)
  have hne : path.dropWhile (· ≠ target) ≠ [] := by
    intro hnil
    have hall := List.dropWhile_eq_nil_iff.mp hnil target hmem
    simp at hall
  obtain ⟨first, between, hcycle⟩ := List.exists_cons_of_ne_nil hne
  have hfirst : first = target := by
    have hhead := List.head_dropWhile_not (fun ref => decide (ref ≠ target)) hne
    simp only [hcycle, List.head_cons] at hhead
    simpa using hhead
  subst hfirst
  have hlast : (first :: between).getLast? = path.getLast? := by
    obtain ⟨before, hsplit⟩ := hsuffix
    rw [hcycle] at hsplit
    rw [← List.getLast?_append_of_ne_nil before (List.cons_ne_nil _ _), hsplit]
  refine ⟨first, between, List.isChain_append.mpr ⟨?_, .singleton _, ?_⟩, ?_⟩
  · exact hcycle ▸ hchain.suffix hsuffix
  · intro last hmemLast next hnext
    obtain rfl : first = next := by simpa using hnext
    exact hedge last (hlast ▸ hmemLast)
  · simp only [cycleError, hcycle]

/-- What a recursive call that fails has found. -/
def VisitReports (registry : PolicyRegistry)
    (visit : PolicyRef → List PolicyRef → VisitStates → Option (Except Bytes VisitStates)) :
    Prop :=
  ∀ current path states error, visit current path states = some (.error error) →
    current ∈ registry.policyRefs → (path ++ [current]).IsChain registry.DependsOn →
    states current = none → Searching registry path states → ReportsCycle registry error

theorem Searching.further {order' : List PolicyRef} (h : Searching registry path states)
    {order : List PolicyRef} (hfurther : SearchedFurther registry states states' order order') :
    Searching registry path states' where
  chain := h.chain
  visiting := fun ref => (hfurther.visiting ref).trans (h.visiting ref)
  finished := ⟨order', hfurther.finished⟩

theorem visitTargets_reports
    {visit : PolicyRef → List PolicyRef → VisitStates → Option (Except Bytes VisitStates)}
    (hspec : VisitSpec registry visit) (hvisit : VisitReports registry visit)
    {targets : List PolicyRef}
    (h : visitTargets visit path targets states = some (.error error))
    (hedges : ∀ target ∈ targets, ∀ last ∈ path.getLast?, registry.DependsOn last target)
    (hknown : ∀ target ∈ targets, target ∈ registry.policyRefs)
    (hsearching : Searching registry path states) : ReportsCycle registry error := by
  induction targets generalizing states with
  | nil => simp [visitTargets] at h
  | cons target targets ih =>
    rw [List.forall_mem_cons] at hedges hknown
    rw [visitTargets] at h
    split at h
    · rename_i hvisiting
      injection h with h
      injection h with h
      subst h
      exact cycleError_reports hsearching.chain ((hsearching.visiting target).mp hvisiting) hedges.1
    · exact ih h hedges.2 hknown.2 hsearching
    · rename_i hnew
      split at h
      · rename_i states₁ hcall
        obtain ⟨order, hfinished⟩ := hsearching.finished
        obtain ⟨order', hfurther, -⟩ := hspec _ _ _ _ _ hcall hnew hfinished
        exact ih h hedges.2 hknown.2 (hsearching.further hfurther)
      · refine hvisit _ _ _ _ h hknown.1 ?_ hnew hsearching
        refine List.isChain_append.mpr ⟨hsearching.chain, .singleton _, ?_⟩
        intro last hlast next hnext
        obtain rfl : target = next := by simpa using hnext
        exact hedges.1 last hlast

theorem Searching.enter (h : Searching registry path states)
    (hchain : (path ++ [current]).IsChain registry.DependsOn) (hnew : states current = none) :
    Searching registry (path ++ [current])
      (Function.update states current (some .Visiting)) := by
  obtain ⟨order, hfinished⟩ := h.finished
  refine ⟨hchain, fun ref => ?_, order, hfinished.mark hnew⟩
  by_cases href : ref = current
  · subst href
    simp
  · rw [Function.update_of_ne href, h.visiting]
    simp [href]

theorem visitPolicy_reports (hwell : WellDeclared registry) (fuel : Nat) :
    VisitReports registry (visitPolicy registry fuel) := by
  induction fuel with
  | zero =>
    intro current path states error h
    simp [visitPolicy] at h
  | succ fuel ih =>
    intro current path states error h hcurrent hchain hnew hsearching
    obtain ⟨policy, hpolicy⟩ := PolicyRegistry.exists_findPolicy hcurrent
    rw [visitPolicy, hpolicy] at h
    dsimp only at h
    split at h
    · cases h
    · have htargets : ∀ target ∈ (policy.dependencies.map (·.policy)).insertionSort (· ≤ ·),
          ∃ d ∈ policy.dependencies, d.policy = target := by
        intro target htarget
        rw [List.mem_insertionSort] at htarget
        exact List.mem_map.mp htarget
      refine visitTargets_reports (visitPolicy_spec fuel) ih h ?_ ?_
        (hsearching.enter hchain hnew)
      · intro target htarget last hlast
        obtain rfl : current = last := by simpa using hlast
        exact ⟨policy, hpolicy, htargets target htarget⟩
      · intro target htarget
        obtain ⟨d, hd, rfl⟩ := htargets target htarget
        exact (hwell current policy hpolicy).known d hd

end Reported

theorem ReportsCycle.cyclic (h : ReportsCycle registry error) :
    ∃ ref, TransGen registry.DependsOn ref ref := by
  obtain ⟨target, between, hchain, -⟩ := h
  obtain ⟨hpath, -, hclosing⟩ := List.isChain_append.mp hchain
  have hback : registry.DependsOn ((target :: between).getLast (List.cons_ne_nil _ _)) target :=
    hclosing _ (List.getLast?_eq_some_getLast _) target rfl
  refine ⟨target, .tail' ?_ hback⟩
  exact List.relationReflTransGen_of_exists_isChain_cons between hpath rfl

/-- The validator answers on every registry; it accepts exactly the well-formed
declarations without a cycle, and behind well-formed declarations its error
shows a closed path. -/
theorem validatePolicyDependencyGraph_exact (registry : NamedRegistry) :
    (∃ answer, validatePolicyDependencyGraph registry.toPolicyRegistry = some answer) ∧
      (validatePolicyDependencyGraph registry.toPolicyRegistry = some (.ok ()) ↔
        WellDeclared registry.toPolicyRegistry ∧
          ∀ ref, ¬ TransGen registry.DependsOn ref ref) ∧
      ∀ error, validatePolicyDependencyGraph registry.toPolicyRegistry = some (.error error) →
        WellDeclared registry.toPolicyRegistry →
          ReportsCycle registry.toPolicyRegistry error := by
  have htotal := validatePolicyDependencyGraph_total registry.toPolicyRegistry
  have hreports : ∀ error,
      validatePolicyDependencyGraph registry.toPolicyRegistry = some (.error error) →
      WellDeclared registry.toPolicyRegistry →
      ReportsCycle registry.toPolicyRegistry error := by
    intro error h hwell
    rw [validatePolicyDependencyGraph, (checkPolicies_iff registry).mpr hwell] at h
    obtain ⟨result, hsearch, herror⟩ := Option.map_eq_some_iff.mp h
    cases result with
    | ok states => cases herror
    | error found =>
      injection herror with herror
      subst herror
      rw [visitPolicies_eq finished_nil (by simp)] at hsearch
      exact visitTargets_reports (visitPolicy_spec _) (visitPolicy_reports hwell _) hsearch
        (by simp) (fun _ htarget => htarget) ⟨.nil, by simp, [], finished_nil⟩
  refine ⟨htotal, ⟨fun h => ⟨?_, validatePolicyDependencyGraph_acyclic h⟩, ?_⟩, hreports⟩
  · rw [← checkPolicies_iff]
    unfold validatePolicyDependencyGraph at h
    split at h
    · cases h
    · assumption
  · rintro ⟨hwell, hacyclic⟩
    obtain ⟨answer, hanswer⟩ := htotal
    cases answer with
    | ok done => exact hanswer
    | error error =>
      obtain ⟨ref, hcycle⟩ := (hreports error hanswer hwell).cyclic
      exact absurd hcycle (hacyclic ref)

end Fic.Execution
