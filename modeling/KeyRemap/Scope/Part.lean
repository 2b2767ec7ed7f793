import KeyRemap.Binding.Actions
import KeyRemap.Document.Part
import KeyRemap.Scope.Guards

/-!
# The parts of scopes

Every binding of a scope that sends something gives a record, and every layer gives a toggle before
the records of its own bindings and of the layers in it. Separate bindings and separate layers are
set apart.
-/

namespace KeyRemap

namespace Scope

/-- The description of a binding by its place: the scope and the source. -/
def place (scope : Scope) (binding : Binding) : String :=
  scope.description ++ " + [ " ++ binding.source.text ++ " ]"

/-- The description of the group of a separate binding. -/
def placeWithDescription (scope : Scope) (binding : Binding) : String :=
  match binding.description with
  | some description => scope.place binding ++ " ： " ++ description
  | none => scope.place binding

/-- The record of a binding that sends `actions`. -/
def bindingRecord (scope : Scope) (guards : List Guard) (binding : Binding)
    (actions : List Action) : Record where
  description := binding.description.getD (scope.place binding)
  source := .ofCombo binding.source
  pressed := actions.map Event.ofAction
  guards := guards

/-- The part of a binding of a scope. A binding that sends nothing gives no record. -/
def bindingPart (scope : Scope) (guards : List Guard) (binding : ScopedBinding) :
    Except Violation Part := do
  let actions ← binding.actions (mapContext scope.description binding.source.text)
  if actions.isEmpty then return {}
  let part : Part := { records := [scope.bindingRecord guards binding.toBinding actions] }
  return if binding.separate then part.setApart (scope.placeWithDescription binding.toBinding)
    else part

/-- The part of the bindings of a scope. -/
def bindingsPart (config : Config) (layerVariables : List String) (scope : Scope) :
    Except Violation Part := do
  let guards := scope.bindingGuards config layerVariables
  return .join (← scope.bindings.mapM (scope.bindingPart guards))

/-- The record that arms the layer `own`, which is declared directly in `parent`, while its key is
held. -/
def toggle (config : Config) (parent own : Scope) (layer : Layer) : Record where
  description := "Toggle layer " ++ layer.key.name
  source := .anyModifiers layer.key
  pressed := [.setVariable own.variableName true]
  released := [.setVariable own.variableName false]
  guards := parent.toggleGuards config

/-- The part of the layers of a forest that is declared directly in a scope. -/
def layersPart (config : Config) (layerVariables : List String) (scope : Scope) :
    Forest Layer → Except Violation Part
  | .nil => return {}
  | .cons layer nested next => do
    let own := scope.enter layer nested
    let bindings ← own.bindingsPart config layerVariables
    let inner ← own.layersPart config layerVariables nested
    let part : Part := { records := [scope.toggle config own layer] } ++ bindings ++ inner
    let later ← scope.layersPart config layerVariables next
    return (if layer.separate then part.setApart own.description else part) ++ later

end Scope

end KeyRemap
