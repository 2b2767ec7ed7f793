import KeyRemap.Binding
import KeyRemap.Device
import KeyRemap.Forest

/-!
# Bases and layers

A base is a key that arms a set of bindings while it is held. Layers nest in a base: while the base
and the keys of all layers around it are held, the key of a layer arms the bindings of that layer.
-/

namespace KeyRemap

/-- The key that a base sends when it is tapped alone. -/
structure Base.Alone where
  key : Key := .escape
  holdDown : Option Nat := none
  deriving DecidableEq, Repr, Inhabited

/-- An alone key that is held down for the usual 100 milliseconds. -/
def Base.Alone.ofKey (key : Key) : Base.Alone :=
  ⟨key, some 100⟩

/-- The timing of a base that is armed only once it has been held, in milliseconds. Whatever is left
open follows the time of the hold. -/
structure Base.Strict where
  hold : Nat := 150
  aloneTimeout : Option Nat := none
  heldDownThreshold : Option Nat := none
  delayedAction : Option Nat := none
  deriving DecidableEq, Repr, Inhabited

namespace Base.Strict

/-- The time within which a release counts as a tap. -/
def effectiveAloneTimeout (timing : Base.Strict) : Nat :=
  timing.aloneTimeout.getD timing.hold

/-- The time after which the key counts as held. -/
def effectiveThreshold (timing : Base.Strict) : Nat :=
  timing.heldDownThreshold.getD timing.hold

/-- The delay of the delayed action. -/
def effectiveDelayedAction (timing : Base.Strict) : Nat :=
  timing.delayedAction.getD timing.hold

end Base.Strict

/-- A layer of a base. A separate one gets a group of its own in the document. -/
structure Layer where
  key : Key
  description : Option String := none
  separate : Bool := false
  bindings : List ScopedBinding := []
  deriving DecidableEq, Repr

namespace Layer

/-- The combination that arms a layer: its key alone. -/
def trigger (layer : Layer) : Combo := ⟨layer.key, ∅⟩

/-- The description of a layer within something described as `parent`. -/
def fullDescription (layer : Layer) (parent : String) : String :=
  let place := parent ++ " + [ " ++ layer.key.name ++ " ]"
  match layer.description with
  | some description => place ++ " ： " ++ description
  | none => place

end Layer

/-- A base key, what it arms, and how. Without a strict timing it is armed when it is pressed; with
one, once it has been held. While armed it may also send a combination of its own. -/
structure Base where
  trigger : Combo
  device : Option Device.Index := none
  description : Option String := none
  alone : Base.Alone := {}
  strict : Option Base.Strict := none
  combo : Option Combo := none
  bindings : List ScopedBinding := []
  layers : Forest Layer := ∅
  deriving DecidableEq, Repr

namespace Base

/-- The description of a base. -/
def fullDescription (base : Base) : String :=
  base.description.getD ("RuleBased: " ++ base.trigger.text)

/-- The variable of a base: the names of its key and its modifiers, in the order in which they were
declared. -/
def variableName (base : Base) : String :=
  "var_" ++ base.trigger.key.name ++
    String.join (base.trigger.modifiers.toList.map fun modifier => "_" ++ modifier.name)

end Base

end KeyRemap
