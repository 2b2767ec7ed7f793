import KeyRemap.Document
import KeyRemap.Json.Printer

/-!
# Documents as JSON

The members of each part of a document, in the order in which they are written. What is empty or not
given is left out.
-/

namespace KeyRemap

/-- The modifiers by name. -/
def Modifier.encodeAll (modifiers : List Modifier) : List Json :=
  modifiers.map fun modifier => .str modifier.name

/-- The identifiers that are given. -/
def Identifiers.encode (identifiers : Identifiers) : Json :=
  .obj (Json.member? "vendor_id" (identifiers.vendorId.map .nat) ++
    Json.member? "product_id" (identifiers.productId.map .nat) ++
    Json.member? "is_keyboard" (identifiers.isKeyboard.map .bool) ++
    Json.member? "is_pointing_device" (identifiers.isPointingDevice.map .bool) ++
    Json.member? "is_built_in_keyboard" (identifiers.isBuiltInKeyboard.map .bool))

namespace Event

/-- An event as JSON. A variable that is set has the value 1, any other 0. -/
def encode : Event → Json
  | .key pressed modifiers holdDown halt =>
    .obj (("key_code", .str pressed.name) ::
      (Json.items? "modifiers" (Modifier.encodeAll modifiers.toList) ++
        Json.member? "hold_down_milliseconds" (holdDown.map .nat) ++
        if halt then [("halt", .bool true)] else []))
  | .button pressed => .obj [("pointing_button", .str pressed.name)]
  | .shell command => .obj [("shell_command", .str command)]
  | .setVariable name value =>
    .obj [("set_variable", .obj [("name", .str name), ("value", .nat value.toNat)])]

end Event

/-- A guard as JSON. -/
def Guard.encode : Guard → Json
  | .var name value =>
    .obj [("type", .str "variable_if"), ("name", .str name), ("value", .nat value.toNat)]
  | .device polarity identifiers =>
    .obj [("type", .str polarity.guardType), ("identifiers", .arr [identifiers.encode])]

/-- A source as JSON. -/
def Source.encode (source : Source) : Json :=
  let modifiers :=
    Json.items? "mandatory" (Modifier.encodeAll source.mandatory) ++
      Json.items? "optional" (Modifier.encodeAll source.optional)
  .obj (("key_code", .str source.key.name) ::
    if modifiers.isEmpty then [] else [("modifiers", .obj modifiers)])

/-- Parameters as JSON. -/
def Parameters.encode (parameters : Parameters) : Json :=
  .obj (Json.member? "basic.to_if_alone_timeout_milliseconds" (parameters.aloneTimeout.map .nat) ++
    [("basic.to_if_held_down_threshold_milliseconds", .nat parameters.heldDownThreshold),
      ("basic.to_delayed_action_delay_milliseconds", .nat parameters.delayedAction)])

/-- A record as JSON. -/
def Record.encode (record : Record) : Json :=
  .obj ([("description", .str record.description), ("type", .str "basic"),
      ("from", record.source.encode)] ++
    Json.items? "to" (record.pressed.map Event.encode) ++
    Json.items? "to_if_alone" (record.alone.map Event.encode) ++
    Json.items? "to_if_held_down" (record.heldDown.map Event.encode) ++
    Json.items? "to_after_key_up" (record.released.map Event.encode) ++
    Json.member? "to_delayed_action" (record.canceled.map fun events =>
      .obj [("to_if_canceled", .arr (events.map Event.encode))]) ++
    Json.items? "conditions" (record.guards.map Guard.encode) ++
    Json.member? "parameters" (record.parameters.map Parameters.encode))

/-- A group as JSON. -/
def Group.encode (group : Group) : Json :=
  .obj [("description", .str group.description),
    ("manipulators", .arr (group.records.map Record.encode))]

/-- A modification as JSON. -/
def SimpleModification.encode (modification : SimpleModification) : Json :=
  .obj [("from", modification.source.encode), ("to", modification.event.encode)]

/-- A device of a profile as JSON. -/
def ProfileDevice.encode (device : ProfileDevice) : Json :=
  .obj [("identifiers", device.identifiers.encode), ("ignore", .bool device.ignored)]

namespace Document

/-- A document as JSON. -/
def encode (document : Document) : Json :=
  .obj [("global", .obj [("show_in_menu_bar", .bool document.showInMenuBar)]),
    ("profiles", .arr [.obj (("name", .str document.profile) ::
      (Json.items? "devices" (document.devices.map ProfileDevice.encode) ++
        Json.items? "simple_modifications"
          (document.simpleModifications.map SimpleModification.encode) ++
        [("complex_modifications", .obj [("rules", .arr (document.groups.map Group.encode))]),
          ("virtual_hid_keyboard", .obj [("keyboard_type_v2", .str "ansi")])]))])]

/-- The text of a document. -/
def pretty (document : Document) : String :=
  document.encode.pretty

end Document

end KeyRemap
