import KeyRemap.Scope.Part

/-!
# The groups of bases

A base gives a group with its trigger and with the records of its scopes, and after it the groups
that its scopes set apart.
-/

namespace KeyRemap

namespace Base

/-- The events that arm a base, with the combination that it may send at the same time. -/
def armEvents (base : Base) : List Event :=
  .setVariable base.variableName true ::
    (base.combo.map fun combo => Event.press combo.key combo.modifiers).toList

/-- The description of the trigger of a base. -/
def triggerDescription (base : Base) : String :=
  let arming := base.trigger.text ++ " -> Set " ++ base.variableName ++ " variable"
  match base.combo with
  | some combo => arming ++ " + " ++ combo.text
  | none => arming

/-- The source of the trigger. A trigger without modifiers listens to its key whatever else is
held. -/
def triggerSource (base : Base) : Source :=
  if base.trigger.modifiers.isEmpty then .anyModifiers base.trigger.key
  else .ofCombo base.trigger

/-- The key as it is given back when a strict trigger is interrupted: with the modifiers that had to
be held, since only those are certain to have been. -/
def literalPress (base : Base) : Event :=
  .press base.trigger.key (.ofList base.trigger.modifiers.mandatory)

/-- The record that arms a base while its key is held. -/
def triggerRecord (config : Config) (base : Base) : Record :=
  let record : Record := {
    description := base.triggerDescription
    source := base.triggerSource
    alone := [.key base.alone.key ∅ base.alone.holdDown false]
    released := [.setVariable base.variableName false]
    guards := base.triggerGuards config }
  match base.strict with
  | none => { record with pressed := base.armEvents }
  | some timing =>
    { record with
      heldDown := base.armEvents
      canceled := some [base.literalPress]
      parameters := some {
        aloneTimeout := some timing.effectiveAloneTimeout
        heldDownThreshold := timing.effectiveThreshold
        delayedAction := timing.effectiveDelayedAction } }

/-- The description of the main group of a base. -/
def groupDescription (base : Base) : String :=
  match base.combo with
  | some combo =>
    base.fullDescription ++ " [ " ++ base.trigger.text ++ " ] → [ " ++ combo.text ++ " ]"
  | none => base.fullDescription

/-- The groups of a base: its main group, then those of its separate parts. -/
def groups (config : Config) (layerVariables : List String) (base : Base) :
    Except Violation (List Group) := do
  let root := Scope.ofBase base
  let bindings ← root.bindingsPart config layerVariables
  let layers ← root.layersPart config layerVariables base.layers
  let part : Part := { records := [base.triggerRecord config] } ++ bindings ++ layers
  return (part.setApart base.groupDescription).groups

end Base

end KeyRemap
