/-!
# Devices

A device is described by identifiers, of which any may be left open, and by the polarity with which
rules that name it look for it. A configuration numbers its devices.
-/

namespace KeyRemap

/-- What identifies a device. An identifier that is left open matches every device. -/
structure Identifiers where
  vendorId : Option Nat := none
  productId : Option Nat := none
  isKeyboard : Option Bool := none
  isPointingDevice : Option Bool := none
  isBuiltInKeyboard : Option Bool := none
  deriving DecidableEq, Repr, Inhabited

namespace Identifiers

/-- The identifiers of one product of a vendor. -/
def product (vendor product : Nat) : Identifiers :=
  { vendorId := some vendor, productId := some product }

/-- The identifiers of every product of a vendor. -/
def vendor (vendor : Nat) : Identifiers :=
  { vendorId := some vendor }

/-- The identifiers of the built-in keyboard. -/
def builtIn : Identifiers :=
  { isBuiltInKeyboard := some true }

/-- The identifiers as a profile lists them: it leaves open neither whether the device is a keyboard
nor whether it points, and takes both to be so unless told otherwise. -/
def forProfile (identifiers : Identifiers) : Identifiers :=
  { identifiers with
    isKeyboard := some (identifiers.isKeyboard.getD true)
    isPointingDevice := some (identifiers.isPointingDevice.getD true) }

/-- A profile leaves nothing open, so listing identifiers again changes nothing. -/
theorem forProfile_forProfile (identifiers : Identifiers) :
    identifiers.forProfile.forProfile = identifiers.forProfile := rfl

end Identifiers

/-- How a rule that names a device looks for it: is the event from it or not, and is it connected at
all or not? -/
inductive Polarity where
  | onDevice | offDevice | whenPresent | whenAbsent
  deriving DecidableEq, Repr, Inhabited

namespace Polarity

/-- Every polarity, in the order in which messages list them. -/
def all : List Polarity := [.onDevice, .offDevice, .whenPresent, .whenAbsent]

/-- The name of a polarity. -/
def name : Polarity → String
  | .onDevice => "if"
  | .offDevice => "unless"
  | .whenPresent => "exists_if"
  | .whenAbsent => "exists_unless"

/-- The polarity that `text` names. -/
def ofName? (text : String) : Option Polarity :=
  all.find? (·.name == text)

/-- The type of the guard that a device with this polarity puts on a record. -/
def guardType : Polarity → String
  | .onDevice => "device_if"
  | .offDevice => "device_unless"
  | .whenPresent => "device_exists_if"
  | .whenAbsent => "device_exists_unless"

end Polarity

/-- A device that a configuration declares. -/
structure Device where
  identifiers : Identifiers
  polarity : Polarity := .onDevice
  ignored : Bool := false
  deriving DecidableEq, Repr, Inhabited

/-- The number of a device in a configuration. -/
structure Device.Index where
  index : Nat
  deriving DecidableEq, Repr, Inhabited

end KeyRemap
