import KeyRemap.Document.Encoding
import KeyRemap.Proofs.Spelling
import Mathlib.Data.List.Basic
import Mathlib.Logic.Function.Basic

/-!
# The members of written documents

What stands under which name in the JSON of a document and of its parts. A member that is empty or
not given is left out, so a list that is missing reads as the empty list and an object that is
missing as the empty object. Read in this way, every part of a document is found under its name
whatever has been left out around it, and names are read back as what they stand for.
-/

namespace KeyRemap

namespace Json

/-- The member of an object that stands under a name. -/
def get? (json : Json) (name : String) : Option Json :=
  match json with
  | .obj members => members.lookup name
  | _ => none

/-- The member that stands under a name; without one, an empty object. -/
def get (json : Json) (name : String) : Json :=
  (json.get? name).getD (.obj [])

/-- The items of the list that stands under a name; none if there is no such list. -/
def items (json : Json) (name : String) : List Json :=
  match json.get? name with
  | some (.arr items) => items
  | _ => []

/-- A member of an object is looked up by its name. -/
theorem get?_obj (members : List (String × Json)) (name : String) :
    (obj members).get? name = members.lookup name := rfl

/-- The first member under a name hides later ones. -/
theorem lookup_cons (name other : String) (json : Json) (members : List (String × Json)) :
    ((name, json) :: members).lookup other =
      if other = name then some json else members.lookup other := by
  by_cases h : other = name
  · simp [h]
  · simp [List.lookup_cons, h, beq_eq_false_iff_ne.mpr h]

/-- A member that may be missing is found under its own name only. -/
@[simp] theorem lookup_member? (name other : String) (value : Option Json) :
    (member? name value).lookup other = if other = name then value else none := by
  cases value with
  | none => simp [member?]
  | some json => simp [member?, lookup_cons]

/-- A list is found under its own name only, and not at all when it is empty. -/
@[simp] theorem lookup_items? (name other : String) (items : List Json) :
    (items? name items).lookup other =
      if other = name ∧ items ≠ [] then some (.arr items) else none := by
  cases items with
  | nil => simp [items?]
  | cons item rest => simp [items?, lookup_cons]

/-- What stands under a name is the member that is found there. -/
theorem get_eq {json value : Json} {name : String} (h : json.get? name = some value) :
    json.get name = value := by
  rw [get, h, Option.getD_some]

/-- A list that is left out where it is empty is read back in either case. -/
theorem items_eq {json : Json} {name : String} {items : List Json}
    (h : json.get? name = if items ≠ [] then some (.arr items) else none) :
    json.items name = items := by
  rw [Json.items, h]
  cases items <;> rfl

/-- The items under a name are those of the list that is found there. -/
theorem items_eq_of_get? {json : Json} {name : String} {items : List Json}
    (h : json.get? name = some (.arr items)) : json.items name = items := by
  rw [Json.items, h]

end Json

/-! ## Names -/

/-- A key is read back from its name. -/
theorem Key.ofName?_name (key : Key) : Key.ofName? key.name = some key :=
  ofName?_of_spelled (spelled_iff.mpr List.mem_cons_self)

/-- A modifier is read back from its name. -/
theorem Modifier.ofName?_name (modifier : Modifier) :
    Modifier.ofName? modifier.name = some modifier :=
  ofName?_of_spelled (spelled_iff.mpr List.mem_cons_self)

/-- A button is read back from its name. -/
theorem Button.ofName?_name (button : Button) : Button.ofName? button.name = some button :=
  ofName?_eq_some_iff.mpr (spelled_iff.mpr List.mem_cons_self)

/-- Different keys have different names. -/
theorem Key.name_injective : Function.Injective Key.name := by
  intro key other h
  have hread := congrArg Key.ofName? h
  rw [ofName?_name, ofName?_name] at hread
  exact Option.some.inj hread

/-- Different buttons have different names. -/
theorem Button.name_injective : Function.Injective Button.name := by
  intro button other h
  have hread := congrArg Button.ofName? h
  rw [ofName?_name, ofName?_name] at hread
  exact Option.some.inj hread

/-- Different modifiers have different names. -/
theorem Modifier.name_injective : Function.Injective Modifier.name := by
  intro modifier other h
  have hread := congrArg Modifier.ofName? h
  rw [ofName?_name, ofName?_name] at hread
  exact Option.some.inj hread

/-- Different modifiers are written differently. -/
theorem Modifier.json_injective :
    Function.Injective fun modifier : Modifier => Json.str modifier.name :=
  fun _ _ h => name_injective (Json.str.inj h)

/-- Different lists of modifiers are written differently. -/
theorem Modifier.encodeAll_injective : Function.Injective Modifier.encodeAll :=
  json_injective.list_map

/-- Different polarities put guards of different types on records. -/
theorem Polarity.guardType_injective : Function.Injective Polarity.guardType := by
  intro a b h
  cases a <;> cases b <;> simp_all [guardType]

open Json (get?_obj lookup_cons)

/-! ## Sources -/

namespace Source

variable (source : Source)

/-- A source is written with the name of its key. -/
theorem get?_key : source.encode.get? "key_code" = some (.str source.key.name) := by
  simp [encode, get?_obj]

/-- A source has an object for its modifiers exactly if it has a modifier. -/
theorem get?_modifiers : source.encode.get? "modifiers" =
    if source.mandatory ++ source.optional = [] then none
    else some (.obj (Json.items? "mandatory" (Modifier.encodeAll source.mandatory) ++
      Json.items? "optional" (Modifier.encodeAll source.optional))) := by
  rw [encode, get?_obj, lookup_cons, if_neg (by decide)]
  cases source.mandatory <;> cases source.optional <;>
    simp [Json.items?, Modifier.encodeAll]

/-- A source is written with the modifiers that must be held. -/
theorem items_mandatory : (source.encode.get "modifiers").items "mandatory" =
    Modifier.encodeAll source.mandatory := by
  rw [Json.get, get?_modifiers]
  split_ifs with h
  · rw [(List.append_eq_nil_iff.mp h).1]
    rfl
  · exact Json.items_eq (by simp [get?_obj, List.lookup_append])

/-- A source is written with the modifiers that may be held. -/
theorem items_optional : (source.encode.get "modifiers").items "optional" =
    Modifier.encodeAll source.optional := by
  rw [Json.get, get?_modifiers]
  split_ifs with h
  · rw [(List.append_eq_nil_iff.mp h).2]
    rfl
  · exact Json.items_eq (by simp [get?_obj, List.lookup_append])

end Source

/-! ## Devices -/

namespace Identifiers

variable (identifiers : Identifiers)

/-- The number of a vendor is written if it is given. -/
theorem get?_vendorId :
    identifiers.encode.get? "vendor_id" = identifiers.vendorId.map .nat := by
  simp [encode, get?_obj, List.lookup_append]

/-- The number of a product is written if it is given. -/
theorem get?_productId :
    identifiers.encode.get? "product_id" = identifiers.productId.map .nat := by
  simp [encode, get?_obj, List.lookup_append]

/-- Whether a device is a keyboard is written if it is told. -/
theorem get?_isKeyboard :
    identifiers.encode.get? "is_keyboard" = identifiers.isKeyboard.map .bool := by
  simp [encode, get?_obj, List.lookup_append]

/-- Whether a device points is written if it is told. -/
theorem get?_isPointingDevice :
    identifiers.encode.get? "is_pointing_device" = identifiers.isPointingDevice.map .bool := by
  simp [encode, get?_obj, List.lookup_append]

/-- Whether a device is the built-in keyboard is written if it is told. -/
theorem get?_isBuiltInKeyboard :
    identifiers.encode.get? "is_built_in_keyboard" = identifiers.isBuiltInKeyboard.map .bool := by
  simp [encode, get?_obj, List.lookup_append]

end Identifiers

/-! ## Key events -/

namespace Event

variable (pressed : Key) (modifiers : Modifiers) (holdDown : Option Nat) (halt : Bool)

/-- The event of a key is written with the name of the key. -/
theorem get?_key :
    (key pressed modifiers holdDown halt).encode.get? "key_code" = some (.str pressed.name) := by
  simp [encode, get?_obj]

/-- The event of a key is written with its modifiers, in their order. -/
theorem items_modifiers : (key pressed modifiers holdDown halt).encode.items "modifiers" =
    Modifier.encodeAll modifiers.toList := by
  refine Json.items_eq ?_
  cases halt <;> simp [encode, get?_obj, lookup_cons, List.lookup_append]

/-- The time for which a key is held down is written if there is one. -/
theorem get?_holdDown :
    (key pressed modifiers holdDown halt).encode.get? "hold_down_milliseconds" =
      holdDown.map .nat := by
  cases halt <;> simp [encode, get?_obj, lookup_cons, List.lookup_append]

/-- A key is written with a halt only where it halts. -/
theorem get?_halt : (key pressed modifiers holdDown halt).encode.get? "halt" =
    if halt then some (.bool true) else none := by
  cases halt <;> simp [encode, get?_obj, lookup_cons, List.lookup_append]

end Event

/-! ## Parameters -/

namespace Parameters

variable (parameters : Parameters)

/-- The time after which a tap is no longer one is written if it is given. -/
theorem get?_aloneTimeout :
    parameters.encode.get? "basic.to_if_alone_timeout_milliseconds" =
      parameters.aloneTimeout.map .nat := by
  simp [encode, get?_obj, lookup_cons, List.lookup_append]

/-- The threshold of a hold is always written. -/
theorem get?_heldDownThreshold :
    parameters.encode.get? "basic.to_if_held_down_threshold_milliseconds" =
      some (.nat parameters.heldDownThreshold) := by
  simp [encode, get?_obj, List.lookup_append]

/-- The delay of the delayed action is always written. -/
theorem get?_delayedAction :
    parameters.encode.get? "basic.to_delayed_action_delay_milliseconds" =
      some (.nat parameters.delayedAction) := by
  simp [encode, get?_obj, lookup_cons, List.lookup_append]

end Parameters

/-! ## Records -/

namespace Record

variable (record : Record)

/-- A record is written with its description. -/
theorem get?_description : record.encode.get? "description" = some (.str record.description) := by
  simp [encode, get?_obj]

/-- A record is written with its source. -/
theorem get?_source : record.encode.get? "from" = some record.source.encode := by
  simp [encode, get?_obj, lookup_cons]

/-- A record is written with the events that it sends when it is pressed. -/
theorem items_pressed : record.encode.items "to" = record.pressed.map Event.encode :=
  Json.items_eq (by simp [encode, get?_obj, lookup_cons, List.lookup_append])

/-- A record is written with the events that it sends when it is tapped alone. -/
theorem items_alone : record.encode.items "to_if_alone" = record.alone.map Event.encode :=
  Json.items_eq (by simp [encode, get?_obj, lookup_cons, List.lookup_append])

/-- A record is written with the events that it sends once it has been held. -/
theorem items_heldDown :
    record.encode.items "to_if_held_down" = record.heldDown.map Event.encode :=
  Json.items_eq (by simp [encode, get?_obj, lookup_cons, List.lookup_append])

/-- A record is written with the events that it sends when it is released. -/
theorem items_released :
    record.encode.items "to_after_key_up" = record.released.map Event.encode :=
  Json.items_eq (by simp [encode, get?_obj, lookup_cons, List.lookup_append])

/-- What is sent on cancellation is written in an object of its own, even if it is nothing. -/
theorem get?_canceled : record.encode.get? "to_delayed_action" = record.canceled.map fun events =>
    .obj [("to_if_canceled", .arr (events.map Event.encode))] := by
  simp [encode, get?_obj, lookup_cons, List.lookup_append]

/-- A record is written with the events that it sends on cancellation. -/
theorem items_canceled : (record.encode.get "to_delayed_action").items "to_if_canceled" =
    (record.canceled.getD []).map Event.encode := by
  rw [Json.get, get?_canceled]
  cases record.canceled with
  | none => rfl
  | some events => exact Json.items_eq_of_get? (by simp [get?_obj])

/-- A record is written with its guards, in their order. -/
theorem items_guards : record.encode.items "conditions" = record.guards.map Guard.encode :=
  Json.items_eq (by simp [encode, get?_obj, lookup_cons, List.lookup_append])

/-- The times of a record are written if it has any. -/
theorem get?_parameters :
    record.encode.get? "parameters" = record.parameters.map Parameters.encode := by
  simp [encode, get?_obj, lookup_cons, List.lookup_append]

end Record

/-! ## Documents -/

namespace Json

/-- The groups of records in the profiles of a document. -/
def groups (json : Json) : List Json :=
  (json.items "profiles").flatMap fun profile =>
    (profile.get "complex_modifications").items "rules"

/-- The records of a document. -/
def records (json : Json) : List Json :=
  json.groups.flatMap fun group => group.items "manipulators"

/-- The modifications of all devices in the profiles of a document. -/
def modifications (json : Json) : List Json :=
  (json.items "profiles").flatMap fun profile => profile.items "simple_modifications"

end Json

namespace Document

variable (document : Document)

/-- The profile of a document as JSON. -/
def profileJson : Json :=
  .obj (("name", .str document.profile) ::
    (Json.items? "devices" (document.devices.map ProfileDevice.encode) ++
      Json.items? "simple_modifications"
        (document.simpleModifications.map SimpleModification.encode) ++
      [("complex_modifications", .obj [("rules", .arr (document.groups.map Group.encode))]),
        ("virtual_hid_keyboard", .obj [("keyboard_type_v2", .str "ansi")])]))

/-- A document has one profile. -/
theorem items_profiles : document.encode.items "profiles" = [document.profileJson] :=
  Json.items_eq_of_get? (by simp [encode, profileJson, get?_obj, lookup_cons])

/-- A document tells whether the menu bar shows it. -/
theorem get?_global : document.encode.get? "global" =
    some (.obj [("show_in_menu_bar", .bool document.showInMenuBar)]) := by
  simp [encode, get?_obj]

/-- A profile is written with its name. -/
theorem get?_profile : document.profileJson.get? "name" = some (.str document.profile) := by
  simp [profileJson, get?_obj]

/-- A profile lists its devices in order. -/
theorem items_devices :
    document.profileJson.items "devices" = document.devices.map ProfileDevice.encode :=
  Json.items_eq (by simp [profileJson, get?_obj, lookup_cons, List.lookup_append])

/-- A document is written with its modifications, in order. -/
theorem modifications_encode : document.encode.modifications =
    document.simpleModifications.map SimpleModification.encode := by
  rw [Json.modifications, items_profiles, List.flatMap_singleton]
  exact Json.items_eq (by simp [profileJson, get?_obj, lookup_cons, List.lookup_append])

/-- A document is written with its groups, in order. -/
theorem groups_encode : document.encode.groups = document.groups.map Group.encode := by
  have hrules : document.profileJson.get "complex_modifications" =
      .obj [("rules", .arr (document.groups.map Group.encode))] :=
    Json.get_eq (by simp [profileJson, get?_obj, lookup_cons, List.lookup_append])
  rw [Json.groups, items_profiles, List.flatMap_singleton, hrules]
  exact Json.items_eq_of_get? (by simp [get?_obj])

/-- A document is written with its records, group by group. -/
theorem records_encode : document.encode.records = document.records.map Record.encode := by
  have hgroup : ∀ group : Group, group.encode.items "manipulators" = group.records.map Record.encode :=
    fun group => Json.items_eq_of_get? (by simp [Group.encode, get?_obj, lookup_cons])
  rw [Json.records, groups_encode, List.flatMap_map, records, List.map_flatMap]
  simp only [hgroup]

end Document

end KeyRemap
