import KeyRemap.Base
import KeyRemap.Rule
import KeyRemap.Substitution

/-!
# Configurations

A configuration declares devices, substitutions, rules and bases. Devices are named by their number,
so a number keeps its meaning when more devices are declared.

Two configurations are equivalent when they differ at most in the order in which modifiers are
listed; `sorted` forgets that order throughout.
-/

namespace KeyRemap

/-- Everything that is to be compiled into one document. -/
structure Config where
  profile : String := "Default"
  showInMenuBar : Bool := false
  devices : List Device := []
  substitutions : List Substitution := []
  rules : List Rule := []
  bases : List Base := []
  deriving DecidableEq, Repr, Inhabited

namespace Config

/-- Declares a device. Its number is the number of devices before it. -/
def addDevice (config : Config) (device : Device) : Config × Device.Index :=
  ({ config with devices := config.devices ++ [device] }, ⟨config.devices.length⟩)

/-- Adds a substitution after those that are there. -/
def addSubstitution (config : Config) (substitution : Substitution) : Config :=
  { config with substitutions := config.substitutions ++ [substitution] }

/-- Adds a rule after those that are there. -/
def addRule (config : Config) (rule : Rule) : Config :=
  { config with rules := config.rules ++ [rule] }

/-- Adds a base after those that are there. -/
def addBase (config : Config) (base : Base) : Config :=
  { config with bases := config.bases ++ [base] }

/-- The device that a declaration is meant for. A number that names no device counts as none. -/
def device? (config : Config) (id : Option Device.Index) : Option Device :=
  id.bind fun id => config.devices[id.index]?

end Config

/-! ## Forgetting the order of modifiers -/

/-- The destination with its modifiers sorted. -/
def Destination.sorted (destination : Destination) : Destination :=
  { destination with modifiers := destination.modifiers.sorted }

/-- The binding with all modifiers sorted. -/
def Binding.sorted (binding : Binding) : Binding :=
  { binding with
    source := binding.source.sorted
    destinations := binding.destinations.map Destination.sorted }

/-- The binding with all modifiers sorted. -/
def ScopedBinding.sorted (binding : ScopedBinding) : ScopedBinding :=
  { binding with toBinding := binding.toBinding.sorted }

/-- The action with its modifiers sorted. -/
def Hold.Action.sorted : Hold.Action → Hold.Action
  | .key pressed modifiers => .key pressed modifiers.sorted
  | .shell command => .shell command

/-- The binding with all modifiers sorted. -/
def HoldBinding.sorted (binding : HoldBinding) : HoldBinding where
  toBinding := binding.toBinding.sorted
  hold := binding.hold.map fun hold => { hold with action := hold.action.sorted }

/-- The substitution with all modifiers sorted. -/
def Substitution.sorted (substitution : Substitution) : Substitution :=
  { substitution with
    source := substitution.source.sorted
    destination := substitution.destination.map Destination.sorted }

/-- The rule with all modifiers sorted. -/
def Rule.sorted (rule : Rule) : Rule :=
  { rule with bindings := rule.bindings.map HoldBinding.sorted }

/-- The layer with all modifiers sorted. -/
def Layer.sorted (layer : Layer) : Layer :=
  { layer with bindings := layer.bindings.map ScopedBinding.sorted }

/-- The base with all modifiers sorted. -/
def Base.sorted (base : Base) : Base :=
  { base with
    trigger := base.trigger.sorted
    combo := base.combo.map Combo.sorted
    bindings := base.bindings.map ScopedBinding.sorted
    layers := base.layers.map Layer.sorted }

namespace Config

/-- The configuration with all modifiers sorted. -/
def sorted (config : Config) : Config :=
  { config with
    substitutions := config.substitutions.map Substitution.sorted
    rules := config.rules.map Rule.sorted
    bases := config.bases.map Base.sorted }

/-- Two configurations are equivalent when they differ at most in the order of modifiers. -/
instance : HasEquiv Config := ⟨fun a b => a.sorted = b.sorted⟩

instance (a b : Config) : Decidable (a ≈ b) :=
  inferInstanceAs (Decidable (a.sorted = b.sorted))

end Config

end KeyRemap
