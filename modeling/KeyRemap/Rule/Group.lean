import KeyRemap.Binding.Actions
import KeyRemap.Rule
import KeyRemap.Scope.Guards

/-!
# The groups of rules

A rule gives one group, with a record for every binding that sends or holds something.
-/

namespace KeyRemap

/-- The event that performs a hold action. -/
def Hold.Action.event : Hold.Action → Event
  | .key pressed modifiers => .press pressed modifiers
  | .shell command => .shell command

namespace HoldBinding

/-- The events of a tap: those of the destinations, or the key itself where there are none. -/
def tapEvents (binding : HoldBinding) (events : List Event) : List Event :=
  if events.isEmpty then [.press binding.source.key ∅] else events

/-- The record with the hold of its binding. Timings that the hold leaves open come from the
rule. -/
def holdRecord (binding : HoldBinding) (record : Record) (hold : Hold) (fallback : Hold.Timing)
    (events : List Event) : Record :=
  let tap := binding.tapEvents events
  let timing := hold.timing.orElse fallback
  { record with
    alone := tap.map Event.halted
    heldDown := [hold.action.event]
    canceled := some tap
    parameters := some {
      aloneTimeout := timing.aloneTimeout
      heldDownThreshold := timing.effectiveThreshold
      delayedAction := timing.effectiveDelayedAction } }

/-- The record of a binding of a rule. A binding that neither sends nor holds anything gives no
record. -/
def records (config : Config) (rule : Rule) (binding : HoldBinding) :
    Except Violation (List Record) := do
  let actions ← binding.actions (mapContext rule.name binding.source.text)
  let events := actions.map Event.ofAction
  let record : Record := {
    description := binding.description.getD binding.source.text
    source := .ofCombo binding.source
    guards := config.deviceGuards rule.device }
  match binding.hold with
  | some hold => return [binding.holdRecord record hold rule.timing events]
  | none => return if events.isEmpty then [] else [{ record with pressed := events }]

end HoldBinding

/-- The group of a rule. -/
def Rule.group (config : Config) (rule : Rule) : Except Violation Group := do
  let records ← rule.bindings.mapM (HoldBinding.records config rule)
  return ⟨rule.fullDescription, records.flatten⟩

end KeyRemap
