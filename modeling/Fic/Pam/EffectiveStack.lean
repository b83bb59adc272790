import Fic.Lib.Except
import Fic.Pam.ControlFlow.Rules

/-!
# Building effective stacks

`buildEffectiveStack` expands the rules of one management group: an include is
replaced by the rules of its service, and a substack keeps them as a list of its
own.  The services are a map of parsed rule lists; they may include each other
in any way.

`inlineService` is the textual inlining to a number of levels, without any check,
and `Obstructed` says that the expansion meets a missing service, a cycle or the
depth limit.  `buildEffectiveStack_exact` says that nothing else makes the
expansion fail but the number of entries, and that its result is the inlining.
-/

namespace Fic.Pam

open Fic.Lib

structure ParsedService where
  path : Bytes
  rules : List PamRule

/-- What `parseService` gives for a service. -/
abbrev ParsedServices := Bytes → Except Bytes ParsedService

def kMaximumIncludeDepth : Nat := 32

def kMaximumCollectedRules : Nat := 4096

def pamManagementGroupName : PamManagementGroup → Bytes
  | .Auth => lit "auth"
  | .Account => lit "account"
  | .Password => lit "password"
  | .Session => lit "session"

/-- The list that is filled, the number of all entries so far and the files they are from. -/
structure StackState where
  entries : List PamStackEntry := []
  entryCount : Nat := 0
  sourceFiles : Finset Bytes := ∅

def countLimitError (service : Bytes) : Bytes :=
  lit "PAM rule count limit exceeded at service: " ++ service

/-- One rule of `service`; `build` is the recursive call. -/
def expandRule (group : PamManagementGroup)
    (build : Bytes → StackState → Except Bytes StackState) (service : Bytes) (state : StackState)
    (rule : PamRule) : Except Bytes StackState :=
  match rule.includeKind with
  | .IncludeAll => build rule.includeTarget state
  | .Include => if rule.group = group then build rule.includeTarget state else .ok state
  | .Substack =>
    if rule.group ≠ group then .ok state
    else if state.entryCount + 1 > kMaximumCollectedRules then .error (countLimitError service)
    else
      match build rule.includeTarget ⟨[], state.entryCount + 1, state.sourceFiles⟩ with
      | .error error => .error (if error.isEmpty then countLimitError service else error)
      | .ok inner => .ok { inner with entries := state.entries ++ [.mk rule inner.entries] }
  | .None =>
    if rule.group ≠ group then .ok state
    else if state.entryCount + 1 > kMaximumCollectedRules then .error (countLimitError service)
    else .ok ⟨state.entries ++ [.mk rule []], state.entryCount + 1, state.sourceFiles⟩

def recursionKey (group : PamManagementGroup) (service : Bytes) : Bytes :=
  service ++ (lit ":" ++ pamManagementGroupName group)

/-- The first argument is the number of levels that `depth` still allows. -/
def buildEffectiveStackRecursive (services : ParsedServices) (group : PamManagementGroup) :
    Nat → List Bytes → Bytes → StackState → Except Bytes StackState
  | 0, _, service, _ => .error (lit "PAM include depth limit exceeded at service: " ++ service)
  | levels + 1, recursionStack, service, state =>
    let recursionKey := recursionKey group service
    if recursionKey ∈ recursionStack then
      .error (lit "PAM include cycle detected at service: " ++ service)
    else
      services service >>= fun parsed =>
        parsed.rules.foldlM (expandRule group
          (buildEffectiveStackRecursive services group levels (recursionKey :: recursionStack))
          service) { state with sourceFiles := insert parsed.path state.sourceFiles }

def buildEffectiveStack (services : ParsedServices) (service : Bytes) (group : PamManagementGroup) :
    Except Bytes PamEffectiveStack :=
  (buildEffectiveStackRecursive services group (kMaximumIncludeDepth + 1) [] service {}).map
    fun state => { service, group, entries := state.entries, sourceFiles := state.sourceFiles }

/-! ## Inlining -/

/-- The entries a rule stands for in the requested group. -/
def inlineRule (group : PamManagementGroup) (inline : Bytes → Option (List PamStackEntry))
    (rule : PamRule) : Option (List PamStackEntry) :=
  if rule.includeKind = .IncludeAll then inline rule.includeTarget
  else if rule.group ≠ group then some []
  else
    match rule.includeKind with
    | .None => some [.mk rule []]
    | .Substack => (inline rule.includeTarget).map fun substack => [.mk rule substack]
    | _ => inline rule.includeTarget

def inlineService (services : ParsedServices) (group : PamManagementGroup) :
    Nat → Bytes → Option (List PamStackEntry)
  | 0, _ => none
  | levels + 1, service =>
    (services service).toOption.bind fun parsed =>
      (parsed.rules.mapM (inlineRule group (inlineService services group levels))).map List.flatten

/-- The number of entries, those of substacks included. -/
def countEntries : List PamStackEntry → Nat
  | [] => 0
  | .mk _ substack :: entries => countEntries substack + 1 + countEntries entries

/-- The expansion goes on with the service the rule names. -/
def Follows (group : PamManagementGroup) (rule : PamRule) : Prop :=
  rule.includeKind = .IncludeAll ∨ rule.includeKind ≠ .None ∧ rule.group = group

/-- The expansion of a service, reached through the services of `path`, meets a
missing service, a cycle or the depth limit. -/
inductive Obstructed (services : ParsedServices) (group : PamManagementGroup) :
    List Bytes → Bytes → Prop
  | deep {path : List Bytes} {service : Bytes} (h : kMaximumIncludeDepth < path.length) :
      Obstructed services group path service
  | cycle {path : List Bytes} {service : Bytes} (h : service ∈ path) :
      Obstructed services group path service
  | missing {path : List Bytes} {service error : Bytes} (h : services service = .error error) :
      Obstructed services group path service
  | nested {path : List Bytes} {service : Bytes} {parsed : ParsedService} {rule : PamRule}
      (hparsed : services service = .ok parsed) (hrule : rule ∈ parsed.rules)
      (hfollows : Follows group rule)
      (h : Obstructed services group (service :: path) rule.includeTarget) :
      Obstructed services group path service

/-! ## The expansion is the inlining -/

variable {services : ParsedServices} {group : PamManagementGroup} {service : Bytes}
  {rule : PamRule} {rules : List PamRule} {path : List Bytes} {levels : Nat}

theorem countEntries_append (a b : List PamStackEntry) :
    countEntries (a ++ b) = countEntries a + countEntries b := by
  induction a with
  | nil => simp [countEntries]
  | cons entry a ih =>
    obtain ⟨rule, substack⟩ := entry
    simp only [List.cons_append, countEntries, ih]
    omega

theorem recursionKey_mem :
    recursionKey group service ∈ path.map (recursionKey group) ↔ service ∈ path :=
  List.mem_map_of_injective fun _ _ h => List.append_cancel_right h

/-- The call adds these entries, or fails because they are too many. -/
def Adds (result : Except Bytes StackState) (state : StackState) (entries : List PamStackEntry) :
    Prop :=
  if state.entryCount + countEntries entries ≤ kMaximumCollectedRules then
    ∃ files, result = .ok ⟨state.entries ++ entries, state.entryCount + countEntries entries, files⟩
  else ∃ error, result = .error error

/-- A call that adds the same entries to every state. -/
def AddsAlways (build : StackState → Except Bytes StackState)
    (entries : List PamStackEntry) : Prop :=
  ∀ state, state.entryCount ≤ kMaximumCollectedRules → Adds (build state) state entries

theorem AddsAlways.bind {f g : StackState → Except Bytes StackState} {a b : List PamStackEntry}
    (hf : AddsAlways f a) (hg : AddsAlways g b) :
    AddsAlways (fun state => f state >>= g) (a ++ b) := by
  intro state hstate
  have hfirst := hf state hstate
  unfold Adds at hfirst ⊢
  dsimp only
  rw [countEntries_append]
  split_ifs at hfirst with hfits
  · obtain ⟨files, hfirst⟩ := hfirst
    have hrest := hg ⟨state.entries ++ a, state.entryCount + countEntries a, files⟩ hfits
    rw [hfirst, except_ok_bind]
    simpa [Adds, Nat.add_assoc] using hrest
  · obtain ⟨error, herror⟩ := hfirst
    rw [if_neg (by omega), herror]
    exact ⟨error, rfl⟩

theorem addsAlways_ok : AddsAlways .ok [] := by
  intro state hstate
  rw [Adds, List.append_nil, countEntries, Nat.add_zero, if_pos hstate]
  exact ⟨state.sourceFiles, rfl⟩

variable {f : StackState → PamRule → Except Bytes StackState}

theorem foldlM_adds {inline : PamRule → Option (List PamStackEntry)}
    (h : ∀ rule ∈ rules, ∃ own, inline rule = some own ∧ AddsAlways (f · rule) own) :
    ∃ pieces, rules.mapM inline = some pieces ∧ AddsAlways (rules.foldlM f) pieces.flatten := by
  induction rules with
  | nil => exact ⟨[], by simp, addsAlways_ok⟩
  | cons rule rules ih =>
    obtain ⟨⟨own, hown, hadds⟩, hrules⟩ := List.forall_mem_cons.mp h
    obtain ⟨pieces, hpieces, hrest⟩ := ih hrules
    refine ⟨own :: pieces, by simp [hown, hpieces], ?_⟩
    simpa only [List.foldlM_cons, List.flatten_cons] using hadds.bind hrest

variable {build : Bytes → StackState → Except Bytes StackState}

theorem expandRule_adds {inline : Bytes → Option (List PamStackEntry)}
    (h : Follows group rule → ∃ inner, inline rule.includeTarget = some inner ∧
      AddsAlways (build rule.includeTarget) inner) :
    ∃ own, inlineRule group inline rule = some own ∧
      AddsAlways (expandRule group build service · rule) own := by
  unfold inlineRule expandRule
  by_cases hgroup : rule.group = group
  · cases hkind : rule.includeKind with
    | None =>
      refine ⟨[.mk rule []], by simp [hgroup], fun state _ => ?_⟩
      simp only [Adds, countEntries, hgroup, ne_eq, not_true, if_false]
      by_cases hroom : state.entryCount + 1 > kMaximumCollectedRules
      · rw [if_pos hroom, if_neg (by omega)]
        exact ⟨_, rfl⟩
      · rw [if_neg hroom, if_pos (by omega), Nat.zero_add]
        exact ⟨_, rfl⟩
    | IncludeAll => simpa using h (.inl hkind)
    | Include => simpa [hgroup] using h (.inr ⟨by simp [hkind], hgroup⟩)
    | Substack =>
      obtain ⟨inner, hinner, hadds⟩ := h (.inr ⟨by simp [hkind], hgroup⟩)
      refine ⟨[.mk rule inner], by simp [hgroup, hinner], fun state _ => ?_⟩
      simp only [Adds, countEntries, hgroup, ne_eq, not_true, if_false]
      by_cases hroom : state.entryCount + 1 > kMaximumCollectedRules
      · rw [if_pos hroom, if_neg (by omega)]
        exact ⟨_, rfl⟩
      · -- The substack starts with no entries of its own, but with the common count.
        have hinner := hadds ⟨[], state.entryCount + 1, state.sourceFiles⟩ (not_lt.mp hroom)
        rw [if_neg hroom]
        unfold Adds at hinner
        split_ifs at hinner with hfits
        · obtain ⟨files, hinner⟩ := hinner
          rw [if_pos (by simpa only [Nat.add_assoc, Nat.add_comm 1] using hfits), hinner]
          refine ⟨files, ?_⟩
          simp only [List.nil_append, Except.ok.injEq, StackState.mk.injEq, true_and, and_true]
          omega
        · obtain ⟨error, herror⟩ := hinner
          rw [if_neg (by simp only [] at hfits; omega), herror]
          exact ⟨_, rfl⟩
  · cases hkind : rule.includeKind with
    | IncludeAll => simpa using h (.inl hkind)
    | _ => exact ⟨[], by simp [hgroup], by simpa [hgroup] using addsAlways_ok⟩

theorem foldlM_error (hrule : rule ∈ rules)
    (h : ∀ state, ∃ error, f state rule = .error error) (state : StackState) :
    ∃ error, rules.foldlM f state = .error error := by
  induction rules generalizing state with
  | nil => simp at hrule
  | cons first rules ih =>
    rw [List.foldlM_cons]
    cases hfirst : f state first with
    | error error => exact ⟨error, rfl⟩
    | ok state' =>
      rcases List.mem_cons.mp hrule with rfl | hrule
      · obtain ⟨error, herror⟩ := h state
        rw [hfirst] at herror
        cases herror
      · exact ih hrule state'

theorem expandRule_error (hfollows : Follows group rule)
    (h : ∀ state, ∃ error, build rule.includeTarget state = .error error) (state : StackState) :
    ∃ error, expandRule group build service state rule = .error error := by
  unfold expandRule
  rcases hfollows with hall | ⟨hkind, hgroup⟩
  · simpa [hall] using h state
  · cases hcase : rule.includeKind with
    | None => exact absurd hcase hkind
    | IncludeAll => exact h state
    | Include => simpa [hgroup] using h state
    | Substack =>
      obtain ⟨error, herror⟩ := h ⟨[], state.entryCount + 1, state.sourceFiles⟩
      simp only [hgroup, herror, ne_eq, not_true, if_false]
      split_ifs <;> exact ⟨_, rfl⟩

theorem build_obstructed (h : Obstructed services group path service)
    (hlevels : levels + path.length = kMaximumIncludeDepth + 1) (state : StackState) :
    ∃ error, buildEffectiveStackRecursive services group levels (path.map (recursionKey group))
      service state = .error error := by
  induction h generalizing levels state with
  | deep hdeep =>
    obtain rfl : levels = 0 := by omega
    exact ⟨_, rfl⟩
  | cycle hmem =>
    cases levels with
    | zero => exact ⟨_, rfl⟩
    | succ levels => exact ⟨_, if_pos (recursionKey_mem.mpr hmem)⟩
  | missing hmissing =>
    cases levels with
    | zero => exact ⟨_, rfl⟩
    | succ levels =>
      rw [buildEffectiveStackRecursive, hmissing]
      split_ifs <;> exact ⟨_, rfl⟩
  | @nested path service parsed rule hparsed hrule hfollows _ ih =>
    cases levels with
    | zero => exact ⟨_, rfl⟩
    | succ levels =>
      rw [buildEffectiveStackRecursive, hparsed, except_ok_bind]
      split_ifs
      · exact ⟨_, rfl⟩
      · refine foldlM_error hrule (expandRule_error hfollows fun state => ?_) _
        exact ih (by simp only [List.length_cons]; omega) state

theorem build_adds (h : ¬ Obstructed services group path service)
    (hlevels : levels + path.length = kMaximumIncludeDepth + 1) :
    ∃ entries, inlineService services group levels service = some entries ∧
      AddsAlways (buildEffectiveStackRecursive services group levels
        (path.map (recursionKey group)) service) entries := by
  -- The levels left and the length of the path add up to the limit at every call.
  induction levels generalizing path service with
  | zero => exact absurd (.deep (by omega)) h
  | succ levels ih =>
    have hpath : service ∉ path := fun hmem => h (.cycle hmem)
    cases hparsed : services service with
    | error error => exact absurd (.missing hparsed) h
    | ok parsed =>
      have hstep : ∀ rule ∈ parsed.rules, ∃ own,
          inlineRule group (inlineService services group levels) rule = some own ∧
          AddsAlways (expandRule group (buildEffectiveStackRecursive services group levels
            ((service :: path).map (recursionKey group))) service · rule) own := by
        intro rule hrule
        refine expandRule_adds fun hfollows => ?_
        have hbelow : ¬ Obstructed services group (service :: path) rule.includeTarget :=
          fun hbelow => h (.nested hparsed hrule hfollows hbelow)
        exact ih hbelow (by simp only [List.length_cons]; omega)
      obtain ⟨pieces, hpieces, hadds⟩ := foldlM_adds hstep
      refine ⟨pieces.flatten, by simp [inlineService, hparsed, hpieces, Except.toOption], ?_⟩
      intro state hstate
      rw [buildEffectiveStackRecursive, if_neg (by rwa [recursionKey_mem]), hparsed]
      exact hadds { state with sourceFiles := insert parsed.path state.sourceFiles } hstate

/-- The expansion fails exactly when it meets an obstacle or has too many entries;
otherwise it is the textual inlining. -/
theorem buildEffectiveStack_exact (services : ParsedServices) (service : Bytes)
    (group : PamManagementGroup) :
    ((∃ error, buildEffectiveStack services service group = .error error) ↔
      Obstructed services group [] service ∨
        ∃ entries, inlineService services group (kMaximumIncludeDepth + 1) service = some entries ∧
          kMaximumCollectedRules < countEntries entries) ∧
    ∀ stack, buildEffectiveStack services service group = .ok stack →
      stack.service = service ∧ stack.group = group ∧
      inlineService services group (kMaximumIncludeDepth + 1) service = some stack.entries := by
  unfold buildEffectiveStack
  by_cases hobstructed : Obstructed services group [] service
  · obtain ⟨error, herror⟩ := build_obstructed hobstructed rfl {}
    rw [List.map_nil] at herror
    rw [herror]
    exact ⟨iff_of_true ⟨_, rfl⟩ (.inl hobstructed), nofun⟩
  · obtain ⟨entries, hinline, hadds⟩ := build_adds hobstructed rfl
    have hbuild := hadds {} (Nat.zero_le _)
    simp only [Adds, List.map_nil, Nat.zero_add, List.nil_append] at hbuild
    simp only [hobstructed, hinline, false_or, Option.some.injEq, exists_eq_left']
    split_ifs at hbuild with hfits
    · obtain ⟨files, hbuild⟩ := hbuild
      rw [hbuild]
      refine ⟨iff_of_false nofun (not_lt.mpr hfits), fun stack hstack => ?_⟩
      rw [← Except.ok.inj hstack]
      exact ⟨rfl, rfl, rfl⟩
    · obtain ⟨error, herror⟩ := hbuild
      rw [herror]
      exact ⟨iff_of_true ⟨_, rfl⟩ (not_le.mp hfits), nofun⟩

end Fic.Pam
