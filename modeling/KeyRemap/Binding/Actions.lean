import KeyRemap.Binding
import KeyRemap.Violation

/-!
# What bindings send

A destination is resolved at a place in the configuration. If nothing can be sent to it, the
violation says which destination it is and where it stands.
-/

namespace KeyRemap

/-- The words by which messages say where a source is bound. -/
def mapContext (place source : String) : String :=
  place ++ ".map(" ++ source ++ ")"

namespace Destination

/-- The violation of a destination at a place. -/
def violation (destination : Destination) (context : String) (fault : Fault) : Violation :=
  .invalidDestination destination.target.display context fault

/-- What a destination sends. -/
def action (destination : Destination) (context : String) : Except Violation Action :=
  destination.resolve.mapError (destination.violation context)

/-- The key that a destination sends, with its modifiers. -/
def keyPress (destination : Destination) (context : String) : Except Violation (Key × Modifiers) :=
  match destination.resolve with
  | .ok (.key pressed modifiers) => .ok (pressed, modifiers)
  | .ok _ => .error (destination.violation context .notAKey)
  | .error fault => .error (destination.violation context fault)

end Destination

/-- What the destinations of a binding send, or the violation of the first one that cannot be
sent. -/
def Binding.actions (binding : Binding) (context : String) : Except Violation (List Action) :=
  binding.destinations.mapM (·.action context)

end KeyRemap
