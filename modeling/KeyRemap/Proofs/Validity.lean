import KeyRemap.Config.Checks
import KeyRemap.Proofs.CheckRun
import KeyRemap.Proofs.ScopeTree
import KeyRemap.Proofs.Trimming

/-!
# Valid configurations

`Config.Valid` says what a configuration must satisfy, part by part and without the order in which
checks are made. Validation goes through exactly on the valid configurations
(`Config.validate_passes_iff`): the claims and the variables that the checks carry are those of the
configuration, and a refusal stands among the checks exactly where something is wrong by itself.
-/

namespace KeyRemap

/-- Every node with the forest nested in it, each before those nested in it. -/
def Forest.nodes {α : Type} : Forest α → List (α × Forest α)
  | nil => []
  | cons root nested next => (root, nested) :: (nested.nodes ++ next.nodes)

/-! ## The claims and the variables of a configuration -/

/-- The claims of the bindings declared directly in a scope. -/
def Scope.claims (config : Config) (scope : Scope) : List Claim :=
  scope.bindings.map fun binding => ⟨binding.source, scope.path, scope.device? config⟩

/-- The variable of a scope, with the path that is to own it. -/
def Scope.owner (scope : Scope) : Owner :=
  ⟨scope.variableName, scope.path, scope.description⟩

/-- The claims of a base: its trigger everywhere, then those of its scopes. -/
def Base.claims (config : Config) (base : Base) : List Claim :=
  ⟨base.trigger, [], config.device? base.device⟩ :: base.scopes.flatMap (Scope.claims config)

/-- The claims of a rule, all of them everywhere. -/
def Rule.claims (config : Config) (rule : Rule) : List Claim :=
  rule.bindings.map fun binding => ⟨binding.source, [], config.device? rule.device⟩

/-- All claims of a configuration. -/
def Config.claims (config : Config) : List Claim :=
  (config.substitutions.map fun substitution =>
      ⟨substitution.source, [], config.device? substitution.device⟩) ++
    config.bases.flatMap (Base.claims config) ++ config.rules.flatMap (Rule.claims config)

/-! ## What can be sent -/

/-- Something can be sent to a destination. -/
def Destination.Sendable (destination : Destination) : Prop :=
  ∃ action, destination.resolve = .ok action

/-- All destinations of a binding can be sent to. -/
def Binding.Sendable (binding : Binding) : Prop :=
  ∀ destination ∈ binding.destinations, destination.Sendable

/-- What a substitution stands for, if anything, is a key. -/
def Substitution.Sendable (substitution : Substitution) : Prop :=
  ∀ destination ∈ substitution.destination,
    ∃ pressed modifiers, destination.resolve = .ok (.key pressed modifiers)

/-- A hold action is no command of blanks alone. -/
def Hold.Action.Sendable (action : Hold.Action) : Prop :=
  ∀ command, action = .shell command → Text.trimmed command ≠ ""

/-! ## Validity -/

/-- What a configuration must satisfy to be compiled. -/
structure Config.Valid (config : Config) : Prop where
  /-- No two claims conflict. -/
  claims : config.claims.Pairwise fun a b => ¬ a.Conflict b
  /-- A base binds the key of none of its layers. -/
  base_keys : ∀ base ∈ config.bases, ∀ binding ∈ base.bindings, ∀ layer ∈ base.layers.preorder,
    binding.source.key ≠ layer.key
  /-- A layer binds neither its own key nor that of a layer directly in it. -/
  layer_keys : ∀ base ∈ config.bases, ∀ node ∈ base.layers.nodes, ∀ binding ∈ node.1.bindings,
    binding.source.key ≠ node.1.key ∧ ∀ child ∈ node.2.roots, binding.source.key ≠ child.key
  /-- Every substitution stands for a key. -/
  substitutions : ∀ substitution ∈ config.substitutions, substitution.Sendable
  /-- Every binding of a scope can be sent. -/
  bindings : ∀ scope ∈ config.scopes, ∀ binding ∈ scope.bindings, binding.toBinding.Sendable
  /-- Every binding of a rule can be sent, and so can what it holds. -/
  rules : ∀ rule ∈ config.rules, ∀ binding ∈ rule.bindings,
    binding.toBinding.Sendable ∧ ∀ hold ∈ binding.hold, hold.action.Sendable
  /-- Scopes that share a variable have the same path. -/
  shared_variable : ∀ a ∈ config.scopes, ∀ b ∈ config.scopes, a.variableName = b.variableName →
    SamePath a.path b.path

/-- What a configuration must satisfy by itself, whatever is claimed and whatever variables there
are. -/
structure Config.Sound (config : Config) : Prop where
  /-- A base binds the key of none of its layers. -/
  base_keys : ∀ base ∈ config.bases, ∀ binding ∈ base.bindings, ∀ layer ∈ base.layers.preorder,
    binding.source.key ≠ layer.key
  /-- A layer binds neither its own key nor that of a layer directly in it. -/
  layer_keys : ∀ base ∈ config.bases, ∀ node ∈ base.layers.nodes, ∀ binding ∈ node.1.bindings,
    binding.source.key ≠ node.1.key ∧ ∀ child ∈ node.2.roots, binding.source.key ≠ child.key
  /-- Every substitution stands for a key. -/
  substitutions : ∀ substitution ∈ config.substitutions, substitution.Sendable
  /-- Every binding of a scope can be sent. -/
  bindings : ∀ scope ∈ config.scopes, ∀ binding ∈ scope.bindings, binding.toBinding.Sendable
  /-- Every binding of a rule can be sent, and so can what it holds. -/
  rules : ∀ rule ∈ config.rules, ∀ binding ∈ rule.bindings,
    binding.toBinding.Sendable ∧ ∀ hold ∈ binding.hold, hold.action.Sendable

/-- A valid configuration is sound. -/
theorem Config.Valid.sound {config : Config} (h : config.Valid) : config.Sound :=
  ⟨h.base_keys, h.layer_keys, h.substitutions, h.bindings, h.rules⟩

/-- What is sound is valid if its claims do not conflict and its variables agree. -/
theorem Config.Sound.valid {config : Config} (h : config.Sound)
    (claims : config.claims.Pairwise fun a b => ¬ a.Conflict b)
    (shared : ∀ a ∈ config.scopes, ∀ b ∈ config.scopes, a.variableName = b.variableName →
      SamePath a.path b.path) : config.Valid :=
  ⟨claims, h.base_keys, h.layer_keys, h.substitutions, h.bindings, h.rules, shared⟩

/-! ## The claims, variables and refusals among the checks -/

namespace Check

variable {α β : Type} {f : Check → Option β}

/-- What finds nothing in a refusal finds nothing where there is at most one. -/
theorem filterMap_unlessOk (hf : ∀ violation, f (refuse violation) = none)
    (outcome : Except Violation α) : (unlessOk outcome).filterMap f = [] := by
  cases outcome with
  | ok result => rfl
  | error violation => exact List.filterMap_cons_none (hf violation)

/-- Of a check and what is refused after it, only the check can hold something else. -/
theorem filterMap_cons_unlessOk {γ : Type} (hf : ∀ violation, f (refuse violation) = none)
    (first : Check) (list : List γ) (outcome : γ → Except Violation α) :
    (first :: list.flatMap fun a => unlessOk (outcome a)).filterMap f = (f first).toList := by
  have hrest : (list.flatMap fun a => unlessOk (outcome a)).filterMap f = [] := by
    rw [List.filterMap_flatMap, List.flatMap_eq_nil_iff]
    exact fun a _ => filterMap_unlessOk hf (outcome a)
  rw [List.filterMap_cons, hrest]
  cases f first <;> rfl

/-- What finds nothing in a refusal finds nothing where a refusal may be made. -/
theorem filterMap_refuse (hf : ∀ violation, f (refuse violation) = none) (found : Option α)
    (violation : α → Violation) :
    ((found.map fun a => refuse (violation a)).toList).filterMap f = [] := by
  cases found with
  | none => rfl
  | some a => exact List.filterMap_cons_none (hf (violation a))

/-- The check of an outcome refuses nothing exactly where there is a result. -/
theorem refusals_unlessOk (outcome : Except Violation α) :
    (unlessOk outcome).filterMap refusal? = [] ↔ ∃ result, outcome = .ok result := by
  cases outcome <;> simp [unlessOk, refusal?]

/-- Nothing is refused exactly where nothing is found that is to be refused. -/
theorem refusals_refuse (found : Option α) (violation : α → Violation) :
    ((found.map fun a => refuse (violation a)).toList).filterMap refusal? = [] ↔ found = none := by
  cases found <;> simp [refusal?]

end Check

/-- A destination has an action, in whatever context, exactly if it can be sent. -/
theorem Destination.action_isOk_iff (destination : Destination) (context : String) :
    (∃ action, destination.action context = .ok action) ↔ destination.Sendable := by
  rw [Destination.action, Sendable]
  cases destination.resolve <;> simp [Except.mapError]

/-- A destination is a key press, in whatever context, exactly if it resolves to a key. -/
theorem Destination.keyPress_isOk_iff (destination : Destination) (context : String) :
    (∃ press, destination.keyPress context = .ok press) ↔
      ∃ pressed modifiers, destination.resolve = .ok (.key pressed modifiers) := by
  rw [Destination.keyPress]
  cases destination.resolve with
  | error fault => simp
  | ok action => cases action <;> simp

namespace Binding

variable (binding : Binding) (place : String) (path : List Combo) (device : Option Device)

/-- A binding claims its source, on its path and for its device. -/
@[simp] theorem claims_checks :
    (binding.checks place path device).filterMap Check.claim? =
      [⟨binding.source, path, device⟩] :=
  Check.filterMap_cons_unlessOk (fun _ => rfl) _ _ _

/-- Checking a binding takes no variable. -/
@[simp] theorem owners_checks :
    (binding.checks place path device).filterMap Check.owner? = [] :=
  Check.filterMap_cons_unlessOk (fun _ => rfl) _ _ _

/-- A binding is refused nowhere exactly if it can be sent. -/
theorem refusals_checks :
    (binding.checks place path device).filterMap Check.refusal? = [] ↔ binding.Sendable := by
  rw [checks, List.filterMap_cons_none rfl, List.filterMap_flatMap, List.flatMap_eq_nil_iff]
  simp only [Check.refusals_unlessOk, Destination.action_isOk_iff]
  rfl

end Binding

namespace Substitution

variable (config : Config) (substitution : Substitution)

/-- A substitution claims its source, everywhere but for its device. -/
@[simp] theorem claims_checks :
    (substitution.checks config).filterMap Check.claim? =
      [⟨substitution.source, [], config.device? substitution.device⟩] :=
  Check.filterMap_cons_unlessOk (fun _ => rfl) _ _ _

/-- Checking a substitution takes no variable. -/
@[simp] theorem owners_checks : (substitution.checks config).filterMap Check.owner? = [] :=
  Check.filterMap_cons_unlessOk (fun _ => rfl) _ _ _

/-- A substitution is refused nowhere exactly if it can be sent. -/
theorem refusals_checks :
    (substitution.checks config).filterMap Check.refusal? = [] ↔ substitution.Sendable := by
  rw [checks, List.filterMap_cons_none rfl, List.filterMap_flatMap, List.flatMap_eq_nil_iff]
  simp only [Check.refusals_unlessOk, Destination.keyPress_isOk_iff, Option.mem_toList]
  rfl

end Substitution

namespace Hold.Action

variable (context : String) (action : Hold.Action)

/-- What finds nothing in a refusal finds nothing in the check of a hold action. -/
theorem filterMap_checks {α : Type} {f : Check → Option α}
    (hf : ∀ violation, f (.refuse violation) = none) : (action.checks context).filterMap f = [] := by
  cases action with
  | key pressed modifiers => rfl
  | shell command =>
      rw [checks]
      split
      · exact List.filterMap_cons_none (hf _)
      · rfl

/-- A hold action is refused nowhere exactly if it can be sent. -/
theorem refusals_checks :
    (action.checks context).filterMap Check.refusal? = [] ↔ action.Sendable := by
  cases action with
  | key pressed modifiers => simp [checks, Sendable]
  | shell command =>
      simp only [Sendable, shell.injEq, forall_eq', ne_eq, Text.trimmed_eq_empty_iff, checks]
      split
      · next hblank => simp [Check.refusal?, hblank]
      · next hblank => simp [hblank]

end Hold.Action

namespace HoldBinding

variable (config : Config) (rule : Rule) (binding : HoldBinding)

/-- The hold adds nothing but what is refused. -/
theorem filterMap_checks {α : Type} {f : Check → Option α}
    (hf : ∀ violation, f (.refuse violation) = none) :
    (binding.checks config rule).filterMap f =
      (binding.toBinding.checks rule.name [] (config.device? rule.device)).filterMap f := by
  have hhold : (binding.hold.toList.flatMap fun hold => hold.action.checks
      (mapContext rule.name binding.source.text)).filterMap f = [] := by
    rw [List.filterMap_flatMap, List.flatMap_eq_nil_iff]
    exact fun hold _ => Hold.Action.filterMap_checks _ _ hf
  rw [checks, List.filterMap_append, hhold, List.append_nil]

/-- A binding of a rule claims its source for the device of the rule. -/
@[simp] theorem claims_checks :
    (binding.checks config rule).filterMap Check.claim? =
      [⟨binding.source, [], config.device? rule.device⟩] := by
  rw [filterMap_checks _ _ _ fun _ => rfl, Binding.claims_checks]

/-- Checking a binding of a rule takes no variable. -/
@[simp] theorem owners_checks : (binding.checks config rule).filterMap Check.owner? = [] := by
  rw [filterMap_checks _ _ _ fun _ => rfl, Binding.owners_checks]

/-- A binding of a rule is refused nowhere exactly if it can be sent, and held as well. -/
theorem refusals_checks :
    (binding.checks config rule).filterMap Check.refusal? = [] ↔
      binding.toBinding.Sendable ∧ ∀ hold ∈ binding.hold, hold.action.Sendable := by
  rw [checks, List.filterMap_append, List.append_eq_nil_iff, Binding.refusals_checks,
    List.filterMap_flatMap, List.flatMap_eq_nil_iff]
  simp only [Hold.Action.refusals_checks, Option.mem_toList, Option.mem_def]

end HoldBinding

namespace Scope

variable (config : Config) (scope : Scope)

/-- A scope binds none of some keys exactly if no source of its bindings is among them. -/
theorem bound?_eq_none_iff (keys : List Key) :
    scope.bound? keys = none ↔ ∀ binding ∈ scope.bindings, binding.source.key ∉ keys := by
  simp [bound?, List.find?_eq_none]

/-- What finds nothing in a refusal finds nothing in the checks of the keys of a scope. -/
theorem filterMap_keyChecks {α : Type} {f : Check → Option α}
    (hf : ∀ violation, f (.refuse violation) = none) : scope.keyChecks.filterMap f = [] := by
  rw [keyChecks, List.filterMap_append, selfChecks, roleChecks, Check.filterMap_refuse hf,
    Check.filterMap_refuse hf, List.append_nil]

/-- Keys that have a role are refused nowhere exactly if the scope binds none of them. -/
theorem refusals_roleChecks (keys : List Key) :
    (scope.roleChecks keys).filterMap Check.refusal? = [] ↔
      ∀ binding ∈ scope.bindings, binding.source.key ∉ keys := by
  rw [roleChecks, Check.refusals_refuse, bound?_eq_none_iff]

/-- The keys of a layer are refused nowhere exactly if it binds neither its own key nor one of a
layer in it. -/
theorem refusals_keyChecks {layer : Layer} (hlayer : scope.layers.getLast? = some layer) :
    scope.keyChecks.filterMap Check.refusal? = [] ↔
      ∀ binding ∈ layer.bindings, binding.source.key ≠ layer.key ∧
        ∀ child ∈ scope.nested.roots, binding.source.key ≠ child.key := by
  have hbindings : scope.bindings = layer.bindings := by rw [bindings, hlayer]
  rw [keyChecks, List.filterMap_append, List.append_eq_nil_iff, refusals_roleChecks, selfChecks,
    Check.refusals_refuse, bound?_eq_none_iff, hbindings, hlayer]
  simp only [Option.map_some, Option.toList_some, List.mem_singleton, List.mem_map, not_exists,
    not_and]
  constructor
  · rintro ⟨hself, hchildren⟩ binding hbinding
    exact ⟨hself binding hbinding,
      fun child hchild heq => hchildren binding hbinding child hchild heq.symm⟩
  · intro h
    exact ⟨fun binding hbinding => (h binding hbinding).1,
      fun binding hbinding child hchild heq => (h binding hbinding).2 child hchild heq.symm⟩

/-- The bindings of a scope claim what the scope claims. -/
@[simp] theorem claims_bindingChecks :
    (scope.bindingChecks config).filterMap Check.claim? = scope.claims config := by
  rw [bindingChecks, claims, List.filterMap_flatMap, List.map_eq_flatMap]
  simp only [Binding.claims_checks]

/-- Checking the bindings of a scope takes no variable. -/
@[simp] theorem owners_bindingChecks :
    (scope.bindingChecks config).filterMap Check.owner? = [] := by
  rw [bindingChecks, List.filterMap_flatMap, List.flatMap_eq_nil_iff]
  exact fun binding _ => Binding.owners_checks _ _ _ _

/-- The bindings of a scope are refused nowhere exactly if all of them can be sent. -/
theorem refusals_bindingChecks :
    (scope.bindingChecks config).filterMap Check.refusal? = [] ↔
      ∀ binding ∈ scope.bindings, binding.toBinding.Sendable := by
  rw [bindingChecks, List.filterMap_flatMap, List.flatMap_eq_nil_iff]
  simp only [Binding.refusals_checks]

/-- The layers of a forest stand in its scopes as they stand in its nodes. -/
theorem map_within (forest : Forest Layer) :
    (scope.within forest).map (fun inner => (inner.layers.getLast?, inner.nested)) =
      forest.nodes.map fun node => (some node.1, node.2) := by
  induction forest generalizing scope with
  | nil => rfl
  | cons root nested next ihn ihs => simp [Forest.nodes, ihn, ihs]

end Scope

namespace Base

variable (config : Config) (base : Base)

/-- What holds of every layer of a base holds of every node of its forest. -/
theorem forall_layerScopes_iff {motive : Layer → Forest Layer → Prop} :
    (∀ scope ∈ base.layerScopes, ∀ layer, scope.layers.getLast? = some layer →
      motive layer scope.nested) ↔ ∀ node ∈ base.layers.nodes, motive node.1 node.2 := by
  -- scopes and nodes go through the layers in the same order, with the same forests in them
  have hmap := (Scope.ofBase base).map_within base.layers
  constructor
  · intro h node hnode
    have hmem := List.mem_map_of_mem (f := fun node => (some node.1, node.2)) hnode
    rw [← hmap] at hmem
    obtain ⟨scope, hscope, heq⟩ := List.mem_map.mp hmem
    obtain ⟨hlayer, hnested⟩ := Prod.mk.inj heq
    exact hnested ▸ h scope hscope node.1 hlayer
  · intro h scope hscope layer hlayer
    have hmem := List.mem_map_of_mem
      (f := fun inner : Scope => (inner.layers.getLast?, inner.nested)) hscope
    rw [layerScopes, hmap] at hmem
    obtain ⟨node, hnode, heq⟩ := List.mem_map.mp hmem
    obtain ⟨hlast, hnested⟩ := Prod.mk.inj heq
    rw [hlayer] at hlast
    obtain rfl := Option.some.inj hlast
    exact hnested ▸ h node hnode

/-- What a function finds among the checks of a base, group by group. -/
theorem filterMap_checks {α : Type} (f : Check → Option α) :
    (base.checks config).filterMap f =
      (f (.claim ⟨base.trigger, [], config.device? base.device⟩
          ("ruleBaseBy(" ++ base.trigger.text ++ ")"))).toList ++
        (((Scope.ofBase base).roleChecks (base.layers.preorder.map Layer.key)).filterMap f ++
          base.layerScopes.flatMap (fun scope => scope.keyChecks.filterMap f) ++
          base.scopes.flatMap (fun scope => (scope.bindingChecks config).filterMap f) ++
          base.scopes.filterMap (f ∘ Scope.ownCheck)) := by
  rw [checks, List.filterMap_cons]
  simp only [List.filterMap_append, List.filterMap_flatMap, List.filterMap_map]
  cases f (.claim ⟨base.trigger, [], config.device? base.device⟩
    ("ruleBaseBy(" ++ base.trigger.text ++ ")")) <;> rfl

/-- The checks of a base make its claims. -/
@[simp] theorem claims_checks :
    (base.checks config).filterMap Check.claim? = base.claims config := by
  have howns : base.scopes.filterMap (Check.claim? ∘ Scope.ownCheck) = [] :=
    List.filterMap_eq_nil_iff.mpr fun _ _ => rfl
  have hkeys : base.layerScopes.flatMap (fun scope => scope.keyChecks.filterMap Check.claim?) = [] :=
    List.flatMap_eq_nil_iff.mpr fun scope _ => scope.filterMap_keyChecks fun _ => rfl
  rw [filterMap_checks, howns, hkeys, Scope.roleChecks, Check.filterMap_refuse fun _ => rfl, claims]
  simp only [Scope.claims_bindingChecks, List.append_nil, List.nil_append]
  rfl

/-- The checks of a base take the variable of each of its scopes. -/
@[simp] theorem owners_checks :
    (base.checks config).filterMap Check.owner? = base.scopes.map Scope.owner := by
  have howns : base.scopes.filterMap (Check.owner? ∘ Scope.ownCheck) = base.scopes.map Scope.owner :=
    List.filterMap_eq_map (f := Scope.owner) ▸ rfl
  have hkeys : base.layerScopes.flatMap (fun scope => scope.keyChecks.filterMap Check.owner?) = [] :=
    List.flatMap_eq_nil_iff.mpr fun scope _ => scope.filterMap_keyChecks fun _ => rfl
  have hbindings : base.scopes.flatMap
      (fun scope => (scope.bindingChecks config).filterMap Check.owner?) = [] :=
    List.flatMap_eq_nil_iff.mpr fun scope _ => scope.owners_bindingChecks config
  rw [filterMap_checks, howns, hkeys, hbindings, Scope.roleChecks,
    Check.filterMap_refuse fun _ => rfl]
  rfl

/-- Nothing is wrong by itself in a base exactly when it binds the key of none of its layers, none
of its layers binds its own key or that of a layer directly in it, and all bindings can be sent. -/
theorem refusals_checks :
    (base.checks config).filterMap Check.refusal? = [] ↔
      (∀ binding ∈ base.bindings, ∀ layer ∈ base.layers.preorder,
        binding.source.key ≠ layer.key) ∧
      (∀ node ∈ base.layers.nodes, ∀ binding ∈ node.1.bindings,
        binding.source.key ≠ node.1.key ∧ ∀ child ∈ node.2.roots, binding.source.key ≠ child.key) ∧
      ∀ scope ∈ base.scopes, ∀ binding ∈ scope.bindings, binding.toBinding.Sendable := by
  have howns : base.scopes.filterMap (Check.refusal? ∘ Scope.ownCheck) = [] :=
    List.filterMap_eq_nil_iff.mpr fun _ _ => rfl
  have hlayers : base.layerScopes.flatMap (fun scope => scope.keyChecks.filterMap Check.refusal?) = []
      ↔ ∀ node ∈ base.layers.nodes, ∀ binding ∈ node.1.bindings,
        binding.source.key ≠ node.1.key ∧
          ∀ child ∈ node.2.roots, binding.source.key ≠ child.key := by
    rw [← base.forall_layerScopes_iff (motive := fun layer nested => ∀ binding ∈ layer.bindings,
      binding.source.key ≠ layer.key ∧ ∀ child ∈ nested.roots, binding.source.key ≠ child.key),
      List.flatMap_eq_nil_iff]
    refine forall₂_congr fun scope hscope => ?_
    -- the keys of a scope are checked against its last layer, and a scope of a forest has one
    have hne := Scope.layers_ne_nil_of_mem_within hscope
    constructor
    · intro h layer hlayer
      exact (scope.refusals_keyChecks hlayer).mp h
    · intro h
      have hlast := List.getLast?_eq_some_getLast hne
      exact (scope.refusals_keyChecks hlast).mpr (h _ hlast)
  have hroot : ∀ binding : ScopedBinding,
      binding.source.key ∉ base.layers.preorder.map Layer.key ↔
        ∀ layer ∈ base.layers.preorder, binding.source.key ≠ layer.key := by
    intro binding
    simp only [List.mem_map, not_exists, not_and]
    exact forall₂_congr fun layer _ => ne_comm
  rw [filterMap_checks, howns, List.append_nil, List.append_eq_nil_iff, List.append_eq_nil_iff,
    List.append_eq_nil_iff, hlayers, Scope.refusals_roleChecks, List.flatMap_eq_nil_iff]
  simp only [Scope.refusals_bindingChecks, hroot, Check.refusal?, Option.toList_none, true_and,
    and_assoc]
  rfl

end Base

/-! ## Validation -/

namespace Config

variable (config : Config)

/-- What is found in the checks of a configuration is found in those of its substitutions, of its
bases and of its rules, in this order. -/
theorem filterMap_checks {α : Type} (f : Check → Option α) :
    config.checks.filterMap f =
      config.substitutions.flatMap (fun substitution => (substitution.checks config).filterMap f) ++
        config.bases.flatMap (fun base => (base.checks config).filterMap f) ++
        config.rules.flatMap fun rule => rule.bindings.flatMap fun binding =>
          (binding.checks config rule).filterMap f := by
  simp only [checks, List.filterMap_append, List.filterMap_flatMap]

/-- The checks make the claims of the configuration. -/
theorem claims_checks : config.checks.filterMap Check.claim? = config.claims := by
  have hrule : ∀ rule ∈ config.rules, (rule.bindings.flatMap fun binding =>
      (binding.checks config rule).filterMap Check.claim?) = rule.claims config := by
    intro rule _
    simp only [HoldBinding.claims_checks, Rule.claims, List.map_eq_flatMap]
  rw [filterMap_checks, claims, List.map_eq_flatMap, List.flatMap_congr hrule]
  simp only [Substitution.claims_checks, Base.claims_checks]

/-- The checks give every scope its variable. -/
theorem owners_checks : config.checks.filterMap Check.owner? = config.scopes.map Scope.owner := by
  have hsubstitutions : config.substitutions.flatMap
      (fun substitution => (substitution.checks config).filterMap Check.owner?) = [] :=
    List.flatMap_eq_nil_iff.mpr fun substitution _ => substitution.owners_checks config
  have hrules : (config.rules.flatMap fun rule => rule.bindings.flatMap fun binding =>
      (binding.checks config rule).filterMap Check.owner?) = [] :=
    List.flatMap_eq_nil_iff.mpr fun rule _ =>
      List.flatMap_eq_nil_iff.mpr fun binding _ => binding.owners_checks config rule
  rw [filterMap_checks, hsubstitutions, hrules, List.nil_append, List.append_nil, scopes,
    List.map_flatMap]
  simp only [Base.owners_checks]

/-- Variables agree one after another exactly when they agree throughout. -/
theorem pairwise_owners_iff :
    (config.scopes.map Scope.owner).Pairwise Owner.Agrees ↔
      ∀ a ∈ config.scopes, ∀ b ∈ config.scopes, a.variableName = b.variableName →
        SamePath a.path b.path := by
  rw [List.pairwise_map]
  constructor
  · intro h a ha b hb
    -- agreement holds of a scope with itself and either way round, so the order drops out
    have hsymm : config.scopes.Pairwise fun a b => Owner.Agrees b.owner a.owner :=
      h.imp fun hagrees hname => (hagrees hname.symm).symm
    exact List.Pairwise.forall_of_forall_of_flip (fun scope _ _ => SamePath.refl scope.path) h hsymm
      ha hb
  · intro h
    exact List.pairwise_of_forall_mem_list h

/-- Nothing is refused exactly where nothing is wrong by itself. -/
theorem refusals_checks : config.checks.filterMap Check.refusal? = [] ↔ config.Sound := by
  have hparts : config.checks.filterMap Check.refusal? = [] ↔
      (∀ substitution ∈ config.substitutions, substitution.Sendable) ∧
      (∀ base ∈ config.bases, (base.checks config).filterMap Check.refusal? = []) ∧
      ∀ rule ∈ config.rules, ∀ binding ∈ rule.bindings,
        binding.toBinding.Sendable ∧ ∀ hold ∈ binding.hold, hold.action.Sendable := by
    simp only [filterMap_checks, List.append_eq_nil_iff, List.flatMap_eq_nil_iff,
      Substitution.refusals_checks, HoldBinding.refusals_checks, and_assoc]
  rw [hparts]
  simp only [Base.refusals_checks]
  constructor
  · rintro ⟨hsubstitutions, hbases, hrules⟩
    refine ⟨fun base hbase => (hbases base hbase).1, fun base hbase => (hbases base hbase).2.1,
      hsubstitutions, ?_, hrules⟩
    intro scope hscope
    obtain ⟨base, hbase, hscope⟩ := List.mem_flatMap.mp hscope
    exact (hbases base hbase).2.2 scope hscope
  · intro h
    refine ⟨h.substitutions, fun base hbase =>
      ⟨h.base_keys base hbase, h.layer_keys base hbase, ?_⟩, h.rules⟩
    exact fun scope hscope => h.bindings scope (List.mem_flatMap.mpr ⟨base, hbase, hscope⟩)

/-- Validation goes through exactly on the valid configurations. -/
theorem validate_passes_iff : config.validate.2 = none ↔ config.Valid := by
  rw [validate, Validation.run_passes_iff, claims_checks, owners_checks, pairwise_owners_iff,
    refusals_checks]
  constructor
  · rintro ⟨hclaims, hvariables, hsound⟩
    exact hsound.valid hclaims hvariables
  · intro h
    exact ⟨h.claims, h.shared_variable, h.sound⟩

end Config

end KeyRemap
