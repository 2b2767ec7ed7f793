import KeyRemap.Destination
import KeyRemap.Hold

/-!
# Bindings

A binding sends destinations when its source combination is pressed. Bindings of a base or a layer
may be set apart in a group of their own; bindings of a rule may have a hold.

The bindings of a rule are built by edits, one after another. The edits that set a timing act on the
hold, so they do nothing while there is none, and a new hold action keeps the timing that is already
set.
-/

namespace KeyRemap

/-- A source combination and what it sends. -/
structure Binding where
  source : Combo
  destinations : List Destination := []
  description : Option String := none
  deriving DecidableEq, Repr

/-- Adds a destination after those that are there. -/
def Binding.to (binding : Binding) (destination : Destination) : Binding :=
  { binding with destinations := binding.destinations ++ [destination] }

/-- A binding of a base or a layer. A separate one gets a group of its own in the document. -/
structure ScopedBinding extends Binding where
  separate : Bool := false
  deriving DecidableEq, Repr

/-- A binding of a rule, which may have a hold. -/
structure HoldBinding extends Binding where
  hold : Option Hold := none
  deriving DecidableEq, Repr

namespace HoldBinding

/-- One step in building a binding of a rule. -/
inductive Edit where
  | to (destination : Destination)
  | describe (description : String)
  | onHold (action : Hold.Action)
  | threshold (ms : Nat)
  | delayedAction (ms : Nat)
  | aloneTimeout (ms : Nat)
  deriving DecidableEq, Repr

/-- Changes the timing of the hold; without a hold there is none to change. -/
def setTiming (binding : HoldBinding) (change : Hold.Timing → Hold.Timing) : HoldBinding :=
  { binding with hold := binding.hold.map fun hold => { hold with timing := change hold.timing } }

/-- Replaces the hold action and keeps the timing. -/
def setAction (binding : HoldBinding) (action : Hold.Action) : HoldBinding :=
  { binding with hold := some ⟨action, (binding.hold.map Hold.timing).getD {}⟩ }

/-- The binding after one edit. -/
def edit (binding : HoldBinding) : Edit → HoldBinding
  | .to destination => { binding with toBinding := binding.toBinding.to destination }
  | .describe description => { binding with description := some description }
  | .onHold action => binding.setAction action
  | .threshold ms => binding.setTiming fun timing => { timing with threshold := some ms }
  | .delayedAction ms => binding.setTiming fun timing => { timing with delayedAction := some ms }
  | .aloneTimeout ms => binding.setTiming fun timing => { timing with aloneTimeout := some ms }

/-- The binding of `source` that a sequence of edits builds. -/
def ofEdits (source : Combo) (edits : List Edit) : HoldBinding :=
  edits.foldl edit { source }

/-- The last edit acts on what the edits before it have built. -/
theorem ofEdits_concat (source : Combo) (edits : List Edit) (last : Edit) :
    ofEdits source (edits ++ [last]) = (ofEdits source edits).edit last := by
  rw [ofEdits, List.foldl_append]
  rfl

end HoldBinding

end KeyRemap
