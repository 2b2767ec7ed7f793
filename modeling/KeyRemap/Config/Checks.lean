import KeyRemap.Binding.Actions
import KeyRemap.Check
import KeyRemap.Scope

/-!
# The checks of a configuration

Every declaration gives its checks, and the checks of a configuration are those of its declarations
in a fixed order.
-/

namespace KeyRemap

/-- The refusal of whatever has failed. -/
def Check.unlessOk {α : Type} : Except Violation α → List Check
  | .ok _ => []
  | .error violation => [.refuse violation]

/-- The refusal of a hold that runs a blank command. -/
def Hold.Action.checks (context : String) : Hold.Action → List Check
  | .key .. => []
  | .shell command =>
    if Text.allBlank command then [.refuse (.invalidDestination command context .blank)] else []

/-- A binding claims its source, and its destinations must be such that they can be sent. -/
def Binding.checks (binding : Binding) (place : String) (path : List Combo)
    (device : Option Device) : List Check :=
  let context := mapContext place binding.source.text
  .claim ⟨binding.source, path, device⟩ context ::
    binding.destinations.flatMap fun destination => Check.unlessOk (destination.action context)

/-- A substitution claims its source everywhere, and can only send a key. -/
def Substitution.checks (config : Config) (substitution : Substitution) : List Check :=
  .claim ⟨substitution.source, [], config.device? substitution.device⟩ substitution.context ::
    substitution.destination.toList.flatMap fun destination =>
      Check.unlessOk (destination.keyPress substitution.context)

/-- A binding of a rule claims its source everywhere. Its hold is looked at last. -/
def HoldBinding.checks (config : Config) (rule : Rule) (binding : HoldBinding) : List Check :=
  binding.toBinding.checks rule.name [] (config.device? rule.device) ++
    binding.hold.toList.flatMap fun hold =>
      hold.action.checks (mapContext rule.name binding.source.text)

namespace Scope

/-- The device on which a scope is in force. -/
def device? (scope : Scope) (config : Config) : Option Device :=
  config.device? scope.base.device

/-- The bindings of a scope claim their sources where the scope is in force. -/
def bindingChecks (config : Config) (scope : Scope) : List Check :=
  scope.bindings.flatMap fun binding =>
    binding.toBinding.checks scope.description scope.path (scope.device? config)

/-- The first binding of a scope whose key is among `keys`. -/
def bound? (scope : Scope) (keys : List Key) : Option Key :=
  (scope.bindings.find? fun binding => keys.contains binding.source.key).map (·.source.key)

/-- The refusal of a binding of a scope whose key also triggers one of the layers given by
`keys`. -/
def roleChecks (scope : Scope) (keys : List Key) : List Check :=
  ((scope.bound? keys).map fun key => .refuse (.keyRoleConflict key scope.description)).toList

/-- The refusal of a layer that binds the key by which it is armed. -/
def selfChecks (scope : Scope) : List Check :=
  ((scope.bound? (scope.layers.getLast?.map Layer.key).toList).map fun key =>
    .refuse (.selfMapping key scope.description)).toList

/-- A layer binds neither its own key nor that of a layer directly in it. -/
def keyChecks (scope : Scope) : List Check :=
  scope.selfChecks ++ scope.roleChecks (scope.nested.roots.map Layer.key)

/-- The variable of a scope belongs to its path. -/
def ownCheck (scope : Scope) : Check :=
  .own scope.variableName scope.path scope.description

end Scope

/-- A base claims its trigger everywhere. Then come the keys, first of the base, which binds the key
of no layer at any depth, and then of the layers; then the claims of all bindings, and then the
variables. -/
def Base.checks (config : Config) (base : Base) : List Check :=
  let root := Scope.ofBase base
  .claim ⟨base.trigger, [], config.device? base.device⟩
      ("ruleBaseBy(" ++ base.trigger.text ++ ")") ::
    (root.roleChecks (base.layers.preorder.map Layer.key) ++
      base.layerScopes.flatMap Scope.keyChecks ++
      base.scopes.flatMap (Scope.bindingChecks config) ++
      base.scopes.map Scope.ownCheck)

/-- All checks of a configuration: substitutions, then bases, then rules. -/
def Config.checks (config : Config) : List Check :=
  config.substitutions.flatMap (Substitution.checks config) ++
    config.bases.flatMap (Base.checks config) ++
    config.rules.flatMap fun rule => rule.bindings.flatMap (HoldBinding.checks config rule)

/-- What validating a configuration establishes, and the first violation if there is one. -/
def Config.validate (config : Config) : Validation × Option Violation :=
  ({} : Validation).run config.checks

end KeyRemap
