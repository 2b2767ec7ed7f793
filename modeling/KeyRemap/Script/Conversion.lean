import KeyRemap.Combo.Parser
import KeyRemap.Script
import KeyRemap.Text.Quoted

/-!
# From scripts to configurations

A script is converted by reading its combinations and resolving its references to devices. Nothing
else can go wrong: a text that is no combination is still a destination. The clauses are converted
in the order in which the script lists them, and the first text or reference that makes no sense is
reported.
-/

namespace KeyRemap.Script

/-- Why a script makes no configuration. -/
inductive Fault where
  | invalidCombo (value context : String) (reason : Combo.ParseError)
  | unknownDevice (reference : Reference)
  deriving DecidableEq, Repr

/-- The wording of a fault. -/
def Fault.message : Fault → String
  | .invalidCombo value context reason =>
    "Invalid combo string " ++ Text.quoted value ++ " in " ++ context ++ ": " ++ reason.message
  | .unknownDevice reference => "Unknown device: " ++ reference.text

/-- Reads a combination; `context` says what it is for. -/
def readCombo (context text : String) : Except Fault Combo :=
  (Combo.parse text).mapError fun reason => .invalidCombo text context reason

/-- The number of the device that a reference means. Of several devices of one name it is the
first. -/
def Reference.resolve? (devices : List DeviceClause) : Reference → Option Device.Index
  | .index number => if number < devices.length then some ⟨number⟩ else none
  | .name called => (devices.findIdx? fun clause => clause.name == some called).map Device.Index.mk

/-- The device that a clause is for, if it refers to one. -/
def resolveDevice (devices : List DeviceClause) :
    Option Reference → Except Fault (Option Device.Index)
  | none => .ok none
  | some reference =>
    match reference.resolve? devices with
    | some id => .ok (some id)
    | none => .error (.unknownDevice reference)

/-- The substitution that a clause declares. -/
def SubstitutionClause.convert (devices : List DeviceClause) (clause : SubstitutionClause) :
    Except Fault Substitution := do
  let source ← readCombo "simple" clause.source
  let device ← resolveDevice devices clause.device
  return { source, device, destination := clause.destination.map Destination.ofText }

/-- The edits by which a timing is set, as far as it is given. -/
def timingEdits (timing : Hold.Timing) : List HoldBinding.Edit :=
  (timing.threshold.map .threshold).toList ++
    (timing.delayedAction.map .delayedAction).toList ++
    (timing.aloneTimeout.map .aloneTimeout).toList

/-- The binding that a clause of a rule declares. A shell command to be run on hold replaces a key
to be held. -/
def RuleBindingClause.convert (clause : RuleBindingClause) : Except Fault HoldBinding := do
  let source ← readCombo "rule map" clause.source
  let hold ← clause.hold.mapM (readCombo "hold")
  return .ofEdits source
    (clause.destinations.map (fun text => .to (.ofText text)) ++
      (hold.map fun combo => .onHold (.key combo.key combo.modifiers)).toList ++
      (clause.holdShell.map fun command => .onHold (.shell command)).toList ++
      timingEdits clause.timing ++
      (clause.description.map .describe).toList)

/-- The rule that a clause declares. -/
def RuleClause.convert (devices : List DeviceClause) (clause : RuleClause) : Except Fault Rule := do
  let device ← resolveDevice devices clause.device
  let bindings ← clause.bindings.mapM RuleBindingClause.convert
  return { Rule.named (clause.description.getD "") device with
    timing := clause.timing.getD {}, bindings }

/-- The binding that a clause of a base or a layer declares. -/
def ScopedBindingClause.convert (context : String) (clause : ScopedBindingClause) :
    Except Fault ScopedBinding := do
  let source ← readCombo context clause.source
  return {
    source
    destinations := clause.destinations.map Destination.ofText
    description := clause.description
    separate := clause.separate }

/-- The layer that a clause declares. Its key is what counts; modifiers with it are read and
dropped. -/
def LayerClause.convert (clause : LayerClause) : Except Fault Layer := do
  let trigger ← readCombo "layer" clause.key
  let bindings ← clause.bindings.mapM (ScopedBindingClause.convert "layer map")
  return {
    key := trigger.key
    description := clause.description
    separate := clause.separate
    bindings }

/-- The strict timing that is given, if any part of it is. -/
def StrictClause.timing? (clause : StrictClause) : Option Base.Strict :=
  if clause = {} then none
  else some {
    hold := clause.hold.getD ({} : Base.Strict).hold
    aloneTimeout := clause.aloneTimeout
    heldDownThreshold := clause.heldDownThreshold
    delayedAction := clause.delayedAction }

/-- The alone key of a base, of which a script gives the key and perhaps how long it is held
down. -/
def BaseClause.alone (clause : BaseClause) : Except Fault Base.Alone :=
  match clause.ifAlone with
  | none => .ok {}
  | some text => do
    let combo ← readCombo "if_alone" text
    return match clause.aloneHold with
      | some ms => ⟨combo.key, some ms⟩
      | none => .ofKey combo.key

/-- The base that a clause declares. -/
def BaseClause.convert (devices : List DeviceClause) (clause : BaseClause) : Except Fault Base := do
  let trigger ← readCombo "base" clause.key
  let device ← resolveDevice devices clause.device
  let alone ← clause.alone
  let combo ← clause.combo.mapM (readCombo "combo")
  let bindings ← clause.bindings.mapM (ScopedBindingClause.convert "base map")
  let layers ← clause.layers.mapM LayerClause.convert
  return {
    trigger, device, description := clause.description, alone, strict := clause.strict.timing?
    combo, bindings, layers }

end KeyRemap.Script

namespace KeyRemap

/-- The configuration that a script declares. -/
def Script.config (script : Script) : Except Script.Fault Config := do
  let substitutions ← script.substitutions.mapM (·.convert script.devices)
  let rules ← script.rules.mapM (·.convert script.devices)
  let bases ← script.bases.mapM (·.convert script.devices)
  return {
    profile := script.profile
    showInMenuBar := script.showInMenuBar
    devices := script.devices.map (·.device)
    substitutions, rules, bases }

end KeyRemap
