import KeyRemap.Document
import KeyRemap.Scope

/-!
# Guards

Which variables a record demands. A binding of a scope demands that every scope on the way be armed
and that no layer off the way be; the trigger of a base demands that none of its own layers be
armed; the toggle of a layer demands the scopes around it and forbids nothing. A declared device
adds its guard at the end.
-/

namespace KeyRemap

/-- The demand that a variable be set. -/
def Guard.armed (name : String) : Guard := .var name true

/-- The demand that a variable not be set. -/
def Guard.idle (name : String) : Guard := .var name false

/-- The guard of the device that a declaration is meant for, if it names a declared device. -/
def Config.deviceGuards (config : Config) (id : Option Device.Index) : List Guard :=
  ((config.device? id).map Guard.ofDevice).toList

namespace Scope

/-- The guards of a binding of a scope, where `layerVariables` are those of the whole
configuration. -/
def bindingGuards (config : Config) (layerVariables : List String) (scope : Scope) : List Guard :=
  let armed := scope.variableNames
  armed.map Guard.armed ++
    (layerVariables.filter fun name => !armed.contains name).map Guard.idle ++
    config.deviceGuards scope.base.device

/-- The guards of the toggle of a layer that is declared directly in a scope. -/
def toggleGuards (config : Config) (scope : Scope) : List Guard :=
  scope.variableNames.map Guard.armed ++ config.deviceGuards scope.base.device

end Scope

/-- The guards of the trigger of a base. -/
def Base.triggerGuards (config : Config) (base : Base) : List Guard :=
  base.layerVariables.map Guard.idle ++ config.deviceGuards base.device

end KeyRemap
