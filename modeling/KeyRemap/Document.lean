import KeyRemap.Destination
import KeyRemap.Device

/-!
# Documents

What a configuration is compiled into: one profile whose groups hold event records. A record is in
force while all its guards hold; it says which source combination it listens to and which events it
sends when that combination is pressed, tapped, held or released.
-/

namespace KeyRemap

/-- An event that a record sends. A key may be held down for a time, in milliseconds, and may halt
the events that follow it. -/
inductive Event where
  | key (key : Key) (modifiers : Modifiers) (holdDown : Option Nat) (halt : Bool)
  | button (button : Button)
  | shell (command : String)
  | setVariable (name : String) (value : Bool)
  deriving DecidableEq, Repr

namespace Event

/-- The event of a key that is pressed with modifiers and nothing else. -/
def press (pressed : Key) (modifiers : Modifiers) : Event :=
  .key pressed modifiers none false

/-- The event that sends the action of a destination. -/
def ofAction : Action → Event
  | .key pressed modifiers => press pressed modifiers
  | .button pressed => .button pressed
  | .shell command => .shell command

/-- The event with a halt, which only a key event can carry. -/
def halted : Event → Event
  | .key pressed modifiers holdDown _ => .key pressed modifiers holdDown true
  | event => event

end Event

/-- A condition under which a record is in force. -/
inductive Guard where
  | var (name : String) (value : Bool)
  | device (polarity : Polarity) (identifiers : Identifiers)
  deriving DecidableEq, Repr

/-- The guard that a device puts on a record. -/
def Guard.ofDevice (device : Device) : Guard :=
  .device device.polarity device.identifiers

/-- The key that a record listens to, the modifiers that must be held with it and those that
may be. -/
structure Source where
  key : Key
  mandatory : List Modifier := []
  optional : List Modifier := []
  deriving DecidableEq, Repr

namespace Source

/-- The source that listens to a combination as it is declared. -/
def ofCombo (combo : Combo) : Source :=
  ⟨combo.key, combo.modifiers.mandatory, combo.modifiers.optional⟩

/-- The source that listens to a key whatever else is held. -/
def anyModifiers (key : Key) : Source :=
  ⟨key, [], [.any]⟩

end Source

/-- The times that tell a tap from a hold, in milliseconds. -/
structure Parameters where
  aloneTimeout : Option Nat
  heldDownThreshold : Nat
  delayedAction : Nat
  deriving DecidableEq, Repr

/-- What happens on one source combination. `canceled` holds the events that are sent when another
key interrupts before it is decided whether the key is tapped or held. -/
structure Record where
  description : String
  source : Source
  pressed : List Event := []
  alone : List Event := []
  heldDown : List Event := []
  released : List Event := []
  canceled : Option (List Event) := none
  guards : List Guard := []
  parameters : Option Parameters := none
  deriving DecidableEq, Repr

/-- Does a record demand that the variable `name` have the value `value`? -/
def Record.requires (record : Record) (name : String) (value : Nat) : Bool :=
  record.guards.any fun guard =>
    match guard with
    | .var n v => n == name && v.toNat == value
    | .device .. => false

/-- Records under one description. -/
structure Group where
  description : String
  records : List Record
  deriving DecidableEq, Repr

/-- A key that stands for another on every device. -/
structure SimpleModification where
  source : Source
  event : Event
  deriving DecidableEq, Repr

/-- A device as a profile lists it. -/
structure ProfileDevice where
  identifiers : Identifiers
  ignored : Bool
  deriving DecidableEq, Repr

/-- The document: its one profile, and whether the menu bar shows it. -/
structure Document where
  showInMenuBar : Bool
  profile : String
  devices : List ProfileDevice
  simpleModifications : List SimpleModification
  groups : List Group
  deriving DecidableEq, Repr

/-- All records of a document, in the order in which they are written. -/
def Document.records (document : Document) : List Record :=
  document.groups.flatMap Group.records

end KeyRemap
