import Fic.Lib.OrderedMap

/-!
# Policies, their dependencies and the registry

The data the dependency validator and the execution planner work on: policy
references, declared dependencies with their strength and condition, and the
registry that owns the policies.

A `Policy` keeps the answers the planner asks its C++ object for: whether the
module configuration enables it, its configured value, and its backend
capabilities.  They do not change while a plan is executed; what `apply()`
does to the rest of the system is the planner's own parameter.
-/

namespace Fic.Execution

open Fic.Lib

/-! ## References and dependencies -/

structure PolicyRef where
  moduleName : Bytes
  submoduleName : Bytes
  policyName : Bytes
  deriving DecidableEq, Repr

/-- The tuple the order of references compares. -/
def PolicyRef.key (ref : PolicyRef) : Bytes ×ₗ Bytes ×ₗ Bytes :=
  toLex (ref.moduleName, toLex (ref.submoduleName, ref.policyName))

theorem PolicyRef.key_injective : Function.Injective PolicyRef.key := by
  rintro ⟨m, s, p⟩ ⟨m', s', p'⟩ h
  obtain ⟨rfl, rfl, rfl⟩ := h
  rfl

instance : LinearOrder PolicyRef := LinearOrder.lift' PolicyRef.key PolicyRef.key_injective

def formatPolicyRef (policy : PolicyRef) : Bytes :=
  policy.moduleName ++ lit ":" ++ policy.submoduleName ++ lit ":" ++ policy.policyName

inductive PolicyDependencyStrength
  | Required
  | Recommended
  deriving DecidableEq, Repr

inductive PolicyDependencyConditionType
  | Always
  | OwnerValueEquals
  | BackendRequiresCapability
  deriving DecidableEq, Repr

structure PolicyDependencyCondition where
  type : PolicyDependencyConditionType := .Always
  value : Bytes := []
  deriving DecidableEq, Repr

structure PolicyDependency where
  policy : PolicyRef
  strength : PolicyDependencyStrength := .Required
  condition : PolicyDependencyCondition := {}
  deriving DecidableEq, Repr

/-! ## Policies -/

structure Policy where
  /-- `isEnabled()` -/
  enabled : Bool
  /-- `getValue()` -/
  value : Option Bytes := none
  /-- `validate(value)` of the policy's value type -/
  validate : Bytes → Bool := fun _ => true
  supportsDependencyCapability : Bytes → Bool := fun _ => false
  requiresDependencyCapability : Bytes → Bool := fun _ => true
  dependencies : List PolicyDependency := []

def dependencyConditionMatches (owner : Policy) (condition : PolicyDependencyCondition) :
    Bool :=
  match condition.type with
  | .Always => true
  | .BackendRequiresCapability => owner.requiresDependencyCapability condition.value
  | .OwnerValueEquals => owner.value = some condition.value

def validateDependencyCondition (owner : Policy) (condition : PolicyDependencyCondition) :
    Except Bytes Unit :=
  match condition.type with
  | .Always =>
    if !condition.value.isEmpty then
      .error (lit "Always dependency condition must not contain a value")
    else .ok ()
  | .OwnerValueEquals =>
    if !owner.validate condition.value then
      .error (lit ("OwnerValueEquals dependency condition contains an invalid " ++
        "owner policy value: ") ++ condition.value)
    else .ok ()
  | .BackendRequiresCapability =>
    if condition.value.isEmpty || !owner.supportsDependencyCapability condition.value then
      .error (lit ("BackendRequiresCapability dependency condition is not supported by " ++
        "its owner"))
    else .ok ()

/-! ## The registry -/

/-- The registered policies in the order of the nested maps: by module,
submodule and name. -/
structure PolicyRegistry where
  policies : List (PolicyRef × Policy)
  sorted : (policies.map (·.1)).Pairwise (· < ·)

namespace PolicyRegistry

def findPolicy (registry : PolicyRegistry) (ref : PolicyRef) : Option Policy :=
  registry.policies.lookup ref

def policyRefs (registry : PolicyRegistry) : List PolicyRef :=
  registry.policies.map (·.1)

variable {registry : PolicyRegistry}

variable {ref : PolicyRef}

theorem mem_policyRefs {policy : Policy}
    (h : registry.findPolicy ref = some policy) : ref ∈ registry.policyRefs := by
  exact List.mem_map_of_mem (f := (·.1)) (mem_of_lookup h)

theorem findPolicy_eq_none :
    registry.findPolicy ref = none ↔ ref ∉ registry.policyRefs :=
  lookup_eq_none

theorem exists_findPolicy
    (h : ref ∈ registry.policyRefs) : ∃ policy, registry.findPolicy ref = some policy :=
  Option.ne_none_iff_exists'.mp fun hnone => findPolicy_eq_none.mp hnone h

theorem nodup_policyRefs (registry : PolicyRegistry) : registry.policyRefs.Nodup :=
  registry.sorted.imp fun h => ne_of_lt h

/-- `owner` declares a dependency on `target`, whatever its condition. -/
def DependsOn (registry : PolicyRegistry) (owner target : PolicyRef) : Prop :=
  ∃ policy, registry.findPolicy owner = some policy ∧
    ∃ dependency ∈ policy.dependencies, dependency.policy = target

end PolicyRegistry

end Fic.Execution
