import Fic.Execution.Registry
import Fic.Lib.DependencyOrder

/-!
# The dependency graph validator

`validatePolicyDependencyGraph` checks every declared dependency and then runs
a depth-first search for cycles.  The recursion of the search is bounded by a
fuel argument; `validatePolicyDependencyGraph_total` says that the fuel given
to it never runs out.

`validatePolicyDependencyGraph_acyclic` is what an accepted registry
guarantees: the finishing order of the search is a dependency order of all
policies.
-/

namespace Fic.Execution

open Fic.Lib Relation

variable {fuel : Nat}

/-! ## Declared dependencies -/

def validPolicyRef (policy : PolicyRef) : Bool :=
  !policy.moduleName.isEmpty && !policy.submoduleName.isEmpty && !policy.policyName.isEmpty

/-- The dependencies of one owner; `targets` are those already seen. -/
def checkDependencies (registry : PolicyRegistry) (owner : PolicyRef) (policy : Policy) :
    List PolicyDependency → List (PolicyRef × PolicyDependencyStrength) → Except Bytes Unit
  | [], _ => .ok ()
  | dependency :: dependencies, targets =>
    if !validPolicyRef dependency.policy then
      .error (lit "policy " ++ formatPolicyRef owner ++
        lit " contains an incomplete dependency reference")
    else if dependency.policy = owner then
      .error (lit "policy " ++ formatPolicyRef owner ++ lit " depends on itself")
    else if (registry.findPolicy dependency.policy).isNone then
      .error (lit "policy " ++ formatPolicyRef owner ++
        lit " references unknown dependency " ++ formatPolicyRef dependency.policy)
    else
      match validateDependencyCondition policy dependency.condition with
      | .error conditionError =>
        .error (lit "policy " ++ formatPolicyRef owner ++
          lit " contains invalid dependency condition for " ++
          formatPolicyRef dependency.policy ++ lit ": " ++ conditionError)
      | .ok () =>
        match targets.lookup dependency.policy with
        | some strength =>
          .error (lit "policy " ++ formatPolicyRef owner ++
            (if strength = dependency.strength then lit " declares duplicate dependency "
              else lit " declares dependency as both Required and Recommended ") ++
            formatPolicyRef dependency.policy)
        | none =>
          checkDependencies registry owner policy dependencies
            (targets ++ [(dependency.policy, dependency.strength)])

def checkPolicies (registry : PolicyRegistry) :
    List (PolicyRef × Policy) → Except Bytes Unit
  | [] => .ok ()
  | (owner, policy) :: policies =>
    match checkDependencies registry owner policy policy.dependencies [] with
    | .error error => .error error
    | .ok () => checkPolicies registry policies

/-! ## The search for cycles -/

inductive VisitState
  | Visiting
  | Visited
  deriving DecidableEq, Repr

abbrev VisitStates := PolicyRef → Option VisitState

variable {visit : PolicyRef → List PolicyRef → VisitStates → Option (Except Bytes VisitStates)}

/-- The text of the cycle that closes at `target`. -/
def cycleError (path : List PolicyRef) (target : PolicyRef) : Bytes :=
  let cycle := path.dropWhile (· ≠ target) ++ [target]
  lit "policy dependency cycle detected: " ++
    (lit " -> ").intercalate (cycle.map formatPolicyRef)

/-- The loop over the sorted targets; `visit` is the recursive call. -/
def visitTargets
    (visit : PolicyRef → List PolicyRef → VisitStates → Option (Except Bytes VisitStates))
    (path : List PolicyRef) :
    List PolicyRef → VisitStates → Option (Except Bytes VisitStates)
  | [], states => some (.ok states)
  | target :: targets, states =>
    match states target with
    | some .Visiting => some (.error (cycleError path target))
    | some .Visited => visitTargets visit path targets states
    | none =>
      match visit target path states with
      | some (.ok states) => visitTargets visit path targets states
      | other => other

/-- The search below `current`.  The path is restored when the search of a
node succeeds, so it is passed down. -/
def visitPolicy (registry : PolicyRegistry) :
    Nat → PolicyRef → List PolicyRef → VisitStates → Option (Except Bytes VisitStates)
  | 0, _, _, _ => none
  | fuel + 1, current, path, states =>
    match registry.findPolicy current with
    | none =>
      some (.error (lit "dependency graph references missing policy " ++
        formatPolicyRef current))
    | some policy =>
      let targets := (policy.dependencies.map (·.policy)).insertionSort (· ≤ ·)
      match visitTargets (visitPolicy registry fuel) (path ++ [current]) targets
          (Function.update states current (some .Visiting)) with
      | some (.ok states) => some (.ok (Function.update states current (some .Visited)))
      | other => other

def visitPolicies (registry : PolicyRegistry) (fuel : Nat) :
    List PolicyRef → VisitStates → Option (Except Bytes VisitStates)
  | [], states => some (.ok states)
  | policy :: policies, states =>
    match states policy with
    | some _ => visitPolicies registry fuel policies states
    | none =>
      match visitPolicy registry fuel policy [] states with
      | some (.ok states) => visitPolicies registry fuel policies states
      | other => other

def validatePolicyDependencyGraph (registry : PolicyRegistry) : Option (Except Bytes Unit) :=
  match checkPolicies registry registry.policies with
  | .error error => some (.error error)
  | .ok () =>
    (visitPolicies registry (registry.policies.length + 1) registry.policyRefs
      fun _ => none).map (·.map fun _ => ())

/-! ## An accepted registry has no cycle -/

/-- `order` lists the finished policies, each behind its dependencies. -/
structure Finished (registry : PolicyRegistry) (states : VisitStates)
    (order : List PolicyRef) : Prop where
  ordered : DependencyOrder registry.DependsOn order
  visited : ∀ ref, states ref = some .Visited ↔ ref ∈ order

/-- What a successful search makes of the states: more finished policies,
the same unfinished ones. -/
structure SearchedFurther (registry : PolicyRegistry) (states states' : VisitStates)
    (order order' : List PolicyRef) : Prop where
  finished : Finished registry states' order'
  grows : order ⊆ order'
  visiting : ∀ ref, states' ref = some .Visiting ↔ states ref = some .Visiting

/-- The specification of one recursive call. -/
def VisitSpec (registry : PolicyRegistry)
    (visit : PolicyRef → List PolicyRef → VisitStates → Option (Except Bytes VisitStates)) :
    Prop :=
  ∀ current path states states' order, visit current path states = some (.ok states') →
    states current = none → Finished registry states order →
    ∃ order', SearchedFurther registry states states' order order' ∧ current ∈ order'

section Search

variable {registry : PolicyRegistry} {path : List PolicyRef} {states states' : VisitStates}
  {order : List PolicyRef}

theorem visitTargets_spec (hvisit : VisitSpec registry visit) {targets : List PolicyRef}
    (h : visitTargets visit path targets states = some (.ok states'))
    (hfinished : Finished registry states order) :
    ∃ order', SearchedFurther registry states states' order order' ∧ targets ⊆ order' := by
  induction targets generalizing states order with
  | nil =>
    simp only [visitTargets, Option.some.injEq, Except.ok.injEq] at h
    subst h
    exact ⟨order, ⟨hfinished, List.Subset.refl _, fun _ => Iff.rfl⟩, List.nil_subset _⟩
  | cons target targets ih =>
    rw [visitTargets] at h
    split at h
    · simp at h
    · rename_i hvisited
      obtain ⟨order', hfurther, htargets⟩ := ih h hfinished
      refine ⟨order', hfurther, List.cons_subset.mpr ⟨?_, htargets⟩⟩
      exact hfurther.grows ((hfinished.visited target).mp hvisited)
    · rename_i hnew
      split at h
      · rename_i states₁ hcall
        obtain ⟨order₁, hfirst, hmem⟩ := hvisit _ _ _ _ _ hcall hnew hfinished
        obtain ⟨order', hrest, htargets⟩ := ih h hfirst.finished
        refine ⟨order', ⟨hrest.finished, List.Subset.trans hfirst.grows hrest.grows, ?_⟩, ?_⟩
        · intro ref
          rw [hrest.visiting, hfirst.visiting]
        · exact List.cons_subset.mpr ⟨hrest.grows hmem, htargets⟩
      · rename_i hother
        exact absurd h (hother _)

/-- Marking a policy does not change what is finished. -/
theorem Finished.mark (h : Finished registry states order) {current : PolicyRef}
    (hnew : states current = none) :
    Finished registry (Function.update states current (some .Visiting)) order := by
  refine ⟨h.ordered, fun ref => ?_⟩
  by_cases href : ref = current
  · subst href
    rw [Function.update_self, ← h.visited, hnew]
    simp
  · rw [Function.update_of_ne href, h.visited]

theorem visitPolicy_spec (fuel : Nat) : VisitSpec registry (visitPolicy registry fuel) := by
  induction fuel with
  | zero =>
    intro current path states states' order h
    simp [visitPolicy] at h
  | succ fuel ih =>
    intro current path states states' order h hnew hfinished
    rw [visitPolicy] at h
    split at h
    · simp at h
    · rename_i policy hpolicy
      dsimp only at h
      split at h
      · rename_i states₁ hloop
        simp only [Option.some.injEq, Except.ok.injEq] at h
        subst h
        have hmarked := hfinished.mark hnew
        obtain ⟨order₁, hfurther, htargets⟩ := visitTargets_spec ih hloop hmarked
        have hcurrent : states₁ current = some .Visiting :=
          (hfurther.visiting current).mpr (Function.update_self ..)
        have hfresh : current ∉ order₁ := by
          rw [← hfurther.finished.visited, hcurrent]
          simp
        have hdeps : ∀ target, registry.DependsOn current target → target ∈ order₁ := by
          rintro target ⟨policy', hpolicy', dependency, hdependency, rfl⟩
          rw [hpolicy] at hpolicy'
          obtain rfl := Option.some.inj hpolicy'
          refine htargets ?_
          rw [List.mem_insertionSort]
          exact List.mem_map_of_mem hdependency
        refine ⟨order₁ ++ [current], ⟨⟨hfurther.finished.ordered.concat hfresh hdeps, ?_⟩, ?_, ?_⟩,
          by simp⟩
        · intro ref
          by_cases href : ref = current
          · subst href
            simp
          · rw [Function.update_of_ne href, hfurther.finished.visited]
            simp [href]
        · exact List.Subset.trans hfurther.grows (List.subset_append_left _ _)
        · intro ref
          by_cases href : ref = current
          · subst href
            simp [hnew]
          · rw [Function.update_of_ne href, hfurther.visiting, Function.update_of_ne href]
      · rename_i hother
        exact absurd h (hother _)

/-- Where nothing is being visited, the outer loop is the loop over targets. -/
theorem visitPolicies_eq {policies : List PolicyRef} (hfinished : Finished registry states order)
    (hnone : ∀ ref, states ref ≠ some .Visiting) :
    visitPolicies registry fuel policies states =
      visitTargets (visitPolicy registry fuel) [] policies states := by
  induction policies generalizing states order with
  | nil => rfl
  | cons policy policies ih =>
    rw [visitPolicies, visitTargets]
    cases hstate : states policy with
    | some state =>
      cases state with
      | Visiting => exact absurd hstate (hnone policy)
      | Visited => exact ih hfinished hnone
    | none =>
      dsimp only
      split
      · rename_i states₁ hcall
        obtain ⟨order₁, hfirst, -⟩ := visitPolicy_spec fuel _ _ _ _ _ hcall hstate hfinished
        exact ih hfirst.finished fun ref hvisiting => hnone ref ((hfirst.visiting ref).mp hvisiting)
      · rfl

theorem finished_nil : Finished registry (fun _ => none) [] := ⟨.nil, by simp⟩

end Search

variable {registry : PolicyRegistry}

/-- No policy of an accepted registry depends on itself, directly or through
others. -/
theorem validatePolicyDependencyGraph_acyclic
    (h : validatePolicyDependencyGraph registry = some (.ok ())) (ref : PolicyRef) :
    ¬ TransGen registry.DependsOn ref ref := by
  unfold validatePolicyDependencyGraph at h
  split at h
  · simp at h
  · rw [Option.map_eq_some_iff] at h
    obtain ⟨result, hsearch, hok⟩ := h
    cases result with
    | error error => simp [Except.map] at hok
    | ok states =>
      rw [visitPolicies_eq finished_nil (by simp)] at hsearch
      obtain ⟨order, hdone, hall⟩ := visitTargets_spec (visitPolicy_spec _) hsearch finished_nil
      intro hcycle
      obtain ⟨target, ⟨policy, hpolicy, -⟩, -⟩ := TransGen.head'_iff.mp hcycle
      exact hdone.finished.ordered.acyclic (hall (PolicyRegistry.mem_policyRefs hpolicy)) hcycle

/-! ## The search ends -/

/-- The registered policies the search has not met yet. -/
def unseen (registry : PolicyRegistry) (states : VisitStates) : List PolicyRef :=
  registry.policyRefs.filter fun ref => (states ref).isNone

/-- Everything met before is still met. -/
def Remembers (states states' : VisitStates) : Prop :=
  ∀ ref, states ref ≠ none → states' ref ≠ none

theorem unseen_le {states states' : VisitStates} (h : Remembers states states') :
    (unseen registry states').length ≤ (unseen registry states).length := by
  refine (List.monotone_filter_right _ fun ref hnone => ?_).length_le
  by_contra hmet
  exact h ref (by simpa using hmet) (by simpa using hnone)

theorem unseen_update_lt {states : VisitStates}
    {current : PolicyRef} (hmem : current ∈ registry.policyRefs) (hnew : states current = none)
    (state : VisitState) :
    (unseen registry (Function.update states current (some state))).length <
      (unseen registry states).length := by
  refine length_filter_lt (fun ref hnone => ?_) hmem (by simp [hnew]) (by simp)
  by_cases href : ref = current
  · subst href
    exact Option.isNone_iff_eq_none.mpr hnew
  · rwa [Function.update_of_ne href] at hnone

/-- With fuel for every unseen policy the call answers, and forgets nothing. -/
def VisitTotal (registry : PolicyRegistry) (fuel : Nat)
    (visit : PolicyRef → List PolicyRef → VisitStates → Option (Except Bytes VisitStates)) :
    Prop :=
  ∀ current path states, states current = none → (unseen registry states).length < fuel →
    ∃ answer, visit current path states = some answer ∧
      ∀ states', answer = .ok states' → Remembers states states'

section Total

variable {registry : PolicyRegistry}

theorem visitTargets_total (hvisit : VisitTotal registry fuel visit)
    (path targets : List PolicyRef) (states : VisitStates)
    (hfuel : (unseen registry states).length < fuel) :
    ∃ answer, visitTargets visit path targets states = some answer ∧
      ∀ states', answer = .ok states' → Remembers states states' := by
  induction targets generalizing states with
  | nil =>
    refine ⟨_, rfl, ?_⟩
    rintro states' ⟨⟩ ref hmet
    exact hmet
  | cons target targets ih =>
    rw [visitTargets]
    cases hstate : states target with
    | some state =>
      cases state with
      | Visiting => exact ⟨_, rfl, by simp⟩
      | Visited => exact ih states hfuel
    | none =>
      obtain ⟨answer, hcall, hkeeps⟩ := hvisit target path states hstate hfuel
      rw [hcall]
      cases answer with
      | error error => exact ⟨_, rfl, by simp⟩
      | ok states₁ =>
        have hfirst := hkeeps states₁ rfl
        obtain ⟨answer, hrest, hkeeps'⟩ :=
          ih states₁ (Nat.lt_of_le_of_lt (unseen_le hfirst) hfuel)
        refine ⟨answer, hrest, fun states' hok ref hmet => ?_⟩
        exact hkeeps' states' hok ref (hfirst ref hmet)

theorem visitPolicy_total (fuel : Nat) :
    VisitTotal registry fuel (visitPolicy registry fuel) := by
  induction fuel with
  | zero =>
    intro current path states hnew hfuel
    omega
  | succ fuel ih =>
    intro current path states hnew hfuel
    rw [visitPolicy]
    cases hpolicy : registry.findPolicy current with
    | none => exact ⟨_, rfl, by simp⟩
    | some policy =>
      have hless := unseen_update_lt (PolicyRegistry.mem_policyRefs hpolicy) hnew .Visiting
      obtain ⟨answer, hloop, hkeeps⟩ := visitTargets_total ih (path ++ [current])
        ((policy.dependencies.map (·.policy)).insertionSort (· ≤ ·))
        (Function.update states current (some .Visiting)) (by omega)
      dsimp only
      rw [hloop]
      cases answer with
      | error error => exact ⟨_, rfl, by simp⟩
      | ok states₁ =>
        refine ⟨_, rfl, ?_⟩
        rintro states' ⟨⟩ ref hmet
        by_cases href : ref = current
        · subst href
          simp
        · rw [Function.update_of_ne href]
          refine hkeeps states₁ rfl ref ?_
          rwa [Function.update_of_ne href]

end Total

/-- The validator answers on every registry. -/
theorem validatePolicyDependencyGraph_total (registry : PolicyRegistry) :
    ∃ answer, validatePolicyDependencyGraph registry = some answer := by
  unfold validatePolicyDependencyGraph
  split
  · exact ⟨_, rfl⟩
  · have hfuel : (unseen registry fun _ => none).length < registry.policies.length + 1 := by
      simp [unseen, PolicyRegistry.policyRefs]
    obtain ⟨answer, hsearch, -⟩ := visitTargets_total (visitPolicy_total _) []
      registry.policyRefs (fun _ => none) hfuel
    rw [visitPolicies_eq finished_nil (by simp), hsearch]
    exact ⟨_, rfl⟩

end Fic.Execution
