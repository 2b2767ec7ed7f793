import KeyRemap.Script
import KeyRemap.Script.Shape
import KeyRemap.Toml.Reader

/-!
# Decoding scripts

The shapes of the clauses of a script, and the script that a TOML table writes.
-/

namespace KeyRemap.Script

open Toml (Value)

/-! ## Values of their own kind -/

/-- A reference to a device: a natural number or a name. -/
def asReference : Value → Except Misshapen Reference
  | .string text => .ok (.name text)
  | .integer value => if 0 ≤ value then .ok (.index value.toNat) else .error .notADevice
  | _ => .error .notADevice

/-- The polarity of a name. -/
def polarityOfName (name : String) : Except Misshapen Polarity :=
  match Polarity.ofName? name with
  | some polarity => .ok polarity
  | none => .error (.unknownVariant name (Polarity.all.map Polarity.name))

/-- Refuses whatever a polarity that is written as a table holds. -/
def emptyContent : Value → Except Misshapen Unit
  | .array items => if items.isEmpty then .ok () else .error .variantNotEmpty
  | .tables elements => if elements.isEmpty then .ok () else .error .variantHasElements
  | .table _ entries => if entries.isEmpty then .ok () else .error .variantNotEmpty
  | .string _ => .error (.variantContent "string")
  | .integer _ => .error (.variantContent "integer")
  | .float _ => .error (.variantContent "float")
  | .boolean _ => .error (.variantContent "boolean")
  | .dateTime _ => .error (.variantContent "datetime")

/-- A polarity: its name, or a table that has the name as its only key and nothing in it. -/
def asPolarity : Value → Except Misshapen Polarity
  | .string text => polarityOfName text
  | .table _ [] => .error .noVariant
  | .table _ [(name, content)] => do
    let polarity ← polarityOfName name
    emptyContent content
    return polarity
  | .table .. => .error .manyVariants
  | _ => .error .notAVariant

/-! ## Shapes -/

/-- The shape of a device. -/
def deviceShape : Shape DeviceClause where
  name := "DeviceEntry"
  fields := [
    .of "name" .optional asText fun name clause => { clause with name := some name },
    identifier "vendor_id" (asNat 32) fun id ids => { ids with vendorId := some id },
    identifier "product_id" (asNat 32) fun id ids => { ids with productId := some id },
    identifier "is_keyboard" asBool fun b ids => { ids with isKeyboard := some b },
    identifier "is_pointing_device" asBool fun b ids => { ids with isPointingDevice := some b },
    identifier "is_built_in_keyboard" asBool fun b ids => { ids with isBuiltInKeyboard := some b },
    .of "polarity" .defaulted asPolarity fun polarity clause =>
      { clause with device := { clause.device with polarity } },
    .of "ignore" .defaulted asBool fun ignored clause =>
      { clause with device := { clause.device with ignored } }]
where
  identifier {β : Type} (name : String) (decode : Value → Except Misshapen β)
      (put : β → Identifiers → Identifiers) : Field DeviceClause :=
    .of name .optional decode fun value clause =>
      { clause with
        device := { clause.device with identifiers := put value clause.device.identifiers } }

/-- The shape of a substitution. -/
def substitutionShape : Shape SubstitutionClause where
  name := "SimpleEntry"
  fields := [
    .of "from" .required asText fun source clause => { clause with source },
    .of "to" .optional asText fun text clause => { clause with destination := some text },
    .of "device" .optional asReference fun device clause => { clause with device := some device }]

/-- The shape of the timing of a rule. -/
def timingShape : Shape Hold.Timing where
  name := "HoldEntry"
  fields := [
    .of "threshold_ms" .optional asMilliseconds fun ms clause =>
      { clause with threshold := some ms },
    .of "delayed_action_ms" .optional asMilliseconds fun ms clause =>
      { clause with delayedAction := some ms },
    .of "alone_timeout_ms" .optional asMilliseconds fun ms clause =>
      { clause with aloneTimeout := some ms }]

/-- The shape of a binding of a rule. -/
def ruleBindingShape : Shape RuleBindingClause where
  name := "RuleMapEntry"
  fields := [
    .of "from" .required asText fun source clause => { clause with source },
    .of "to" .defaulted (asList asText) fun destinations clause => { clause with destinations },
    .of "description" .optional asText fun text clause => { clause with description := some text },
    .of "hold" .optional asText fun text clause => { clause with hold := some text },
    .of "hold_shell" .optional asText fun text clause => { clause with holdShell := some text },
    .of "hold_threshold_ms" .optional asMilliseconds fun ms clause =>
      { clause with timing := { clause.timing with threshold := some ms } },
    .of "hold_delayed_action_ms" .optional asMilliseconds fun ms clause =>
      { clause with timing := { clause.timing with delayedAction := some ms } },
    .of "hold_alone_timeout_ms" .optional asMilliseconds fun ms clause =>
      { clause with timing := { clause.timing with aloneTimeout := some ms } }]

/-- The shape of a rule. -/
def ruleShape : Shape RuleClause where
  name := "RuleEntry"
  fields := [
    .of "description" .optional asText fun text clause => { clause with description := some text },
    .of "device" .optional asReference fun device clause => { clause with device := some device },
    .of "hold" .optional (timingShape.decode {}) fun timing clause =>
      { clause with timing := some timing },
    .of "map" .defaulted (asList (ruleBindingShape.decode {})) fun bindings clause =>
      { clause with bindings }]

/-- The shape of a binding of a base or a layer. -/
def scopedBindingShape : Shape ScopedBindingClause where
  name := "ScopedMapEntry"
  fields := [
    .of "from" .required asText fun source clause => { clause with source },
    .of "to" .defaulted (asList asText) fun destinations clause => { clause with destinations },
    .of "description" .optional asText fun text clause => { clause with description := some text },
    .of "separate" .defaulted asBool fun separate clause => { clause with separate }]

/-- A layer clause with the layers nested in it. -/
abbrev LayerTree := LayerClause × Forest LayerClause

/-- The shape of a layer, where `layers` reads those that are nested in it. -/
def layerShape (layers : Value → Except Misshapen (Forest LayerClause)) : Shape LayerTree where
  name := "LayerEntry"
  fields := [
    own "key" .required asText fun key clause => { clause with key },
    own "description" .optional asText fun text clause => { clause with description := some text },
    own "separate" .defaulted asBool fun separate clause => { clause with separate },
    own "map" .defaulted (asList (scopedBindingShape.decode {})) fun bindings clause =>
      { clause with bindings },
    .of "layer" .defaulted layers fun nested tree => (tree.1, nested)]
where
  own {β : Type} (name : String) (presence : Presence) (decode : Value → Except Misshapen β)
      (put : β → LayerClause → LayerClause) : Field LayerTree :=
    .of name presence decode fun value tree => (put value tree.1, tree.2)

mutual

/-- A layer with those nested in it. -/
def asLayer (value : Value) : Except Misshapen LayerTree :=
  match _h : (layerShape fun _ => .ok ∅).visit value with
  | .error fault => .error fault
  | .ok (values, missing) => do
    let tree ← values.attach.foldlM
      (fun tree item => (layerShape fun _ => asLayers item.1.2).put item.1.1 item.1.2 tree)
      (({}, ∅) : LayerTree)
    Shape.finish missing tree
termination_by sizeOf value
decreasing_by exact Shape.sizeOf_lt_of_visit _h item.2

/-- A sequence of layers. -/
def asLayers (value : Value) : Except Misshapen (Forest LayerClause) :=
  match _h : asSequence value with
  | .error fault => .error fault
  | .ok items => do
    let trees ← items.attach.mapM fun item => asLayer item.1
    return trees.foldr (fun tree forest => .cons tree.1 tree.2 forest) ∅
termination_by sizeOf value
decreasing_by
  have hmem := List.sizeOf_lt_of_mem item.2
  cases value <;> simp_all [asSequence] <;> omega

end

/-- The shape of a base. -/
def baseShape : Shape BaseClause where
  name := "BaseEntry"
  fields := [
    .of "key" .required asText fun key clause => { clause with key },
    .of "description" .optional asText fun text clause => { clause with description := some text },
    .of "device" .optional asReference fun device clause => { clause with device := some device },
    .of "if_alone" .optional asText fun text clause => { clause with ifAlone := some text },
    .of "alone_hold_ms" .optional asMilliseconds fun ms clause =>
      { clause with aloneHold := some ms },
    strict "strict_ms" fun ms timing => { timing with hold := some ms },
    strict "strict_alone_timeout_ms" fun ms timing => { timing with aloneTimeout := some ms },
    strict "strict_held_down_threshold_ms" fun ms timing =>
      { timing with heldDownThreshold := some ms },
    strict "strict_delayed_action_ms" fun ms timing => { timing with delayedAction := some ms },
    .of "combo" .optional asText fun text clause => { clause with combo := some text },
    .of "map" .defaulted (asList (scopedBindingShape.decode {})) fun bindings clause =>
      { clause with bindings },
    .of "layer" .defaulted asLayers fun layers clause => { clause with layers }]
where
  strict (name : String) (put : Nat → StrictClause → StrictClause) : Field BaseClause :=
    .of name .optional asMilliseconds fun ms clause =>
      { clause with strict := put ms clause.strict }

/-- The shape of a script. -/
def shape : Shape Script where
  name := "Script"
  fields := [
    .of "profile" .defaulted asText fun profile script => { script with profile },
    .of "show_in_menu_bar" .defaulted asBool fun showInMenuBar script =>
      { script with showInMenuBar },
    .of "device" .defaulted (asList (deviceShape.decode {})) fun devices script =>
      { script with devices },
    .of "simple" .defaulted (asList (substitutionShape.decode {})) fun substitutions script =>
      { script with substitutions },
    .of "rule" .defaulted (asList (ruleShape.decode {})) fun rules script => { script with rules },
    .of "base" .defaulted (asList (baseShape.decode {})) fun bases script => { script with bases }]

/-- The script that a TOML table writes. -/
def ofEntries (entries : Toml.Entries) : Except Misshapen Script :=
  shape.decode {} (.table .header entries)

/-- Why a text is no script: it is no TOML document, or one that does not have the shape of a
script. -/
inductive ParseError where
  | malformed
  | misshapen (reason : Misshapen)
  deriving DecidableEq, Repr

/-- The wording of a refusal. -/
def ParseError.message : ParseError → String
  | .malformed => "not a TOML document"
  | .misshapen reason => reason.message

/-- Reads a script. -/
def parse (text : String) : Except ParseError Script :=
  match Toml.parse? text with
  | none => .error .malformed
  | some entries => (ofEntries entries).mapError .misshapen

end KeyRemap.Script
