import KeyRemap.Binding.Actions
import KeyRemap.Scope.Guards

/-!
# The outcomes of substitutions

A substitution that is meant for all devices becomes a modification of the profile, and one that is
meant for a single device becomes a record in the group of that device.
-/

namespace KeyRemap

namespace Substitution

/-- What a substitution becomes: a modification of all devices, or a record of one. -/
inductive Outcome where
  | everywhere (modification : SimpleModification)
  | onDevice (id : Device.Index) (record : Record)
  deriving DecidableEq, Repr

/-- What a substitution becomes. Without a destination it is nothing. -/
def outcome (config : Config) (substitution : Substitution) :
    Except Violation (Option Outcome) :=
  match substitution.destination with
  | none => return none
  | some destination => do
    let (pressed, modifiers) ← destination.keyPress substitution.context
    let event := Event.press pressed modifiers
    let source := Source.ofCombo substitution.source
    match substitution.device with
    | none => return some (.everywhere ⟨source, event⟩)
    | some id => return some (.onDevice id {
        description := substitution.source.text ++ " -> " ++ destination.target.display
        source := source
        pressed := [event]
        guards := config.deviceGuards (some id) })

/-- The modifications of all devices among outcomes. -/
def modifications (outcomes : List Outcome) : List SimpleModification :=
  outcomes.filterMap fun outcome =>
    match outcome with
    | .everywhere modification => some modification
    | .onDevice .. => none

/-- The records of single devices among outcomes, each with its device. -/
def deviceRecords (outcomes : List Outcome) : List (Device.Index × Record) :=
  outcomes.filterMap fun outcome =>
    match outcome with
    | .everywhere _ => none
    | .onDevice id record => some (id, record)

/-- One group for every device, in the order in which the devices first occur. -/
def deviceGroups (records : List (Device.Index × Record)) : List Group :=
  (records.map Prod.fst).eraseDups.map fun id =>
    ⟨"Device " ++ toString id.index ++ " simple maps",
      (records.filter (·.1 = id)).map Prod.snd⟩

end Substitution

end KeyRemap
