import KeyRemap.Proofs.Traversals
import KeyRemap.Script.Conversion

/-!
# What a script demands

All that has to make sense in a script is that certain texts are combinations and that devices are
referred to by a number or a name that they have. `Script.demands` lists these texts and references
in the order in which they count. Every conversion fails as the first of its demands that is not met,
clause by clause, hence the script does (`Script.fault?_config`). Nothing else is a demand: not what a
binding sends, not the command that is run on hold, and no time.
-/

namespace KeyRemap.Script

/-! ## Demands -/

/-- What has to make sense: a text, to be read as a combination in the context that messages name, or
a reference to a device. -/
inductive Demand where
  | combo (context text : String)
  | device (reference : Reference)
  deriving DecidableEq, Repr

/-- A reference is declared when it is the number or the name of some device. -/
def Reference.Declared (devices : List DeviceClause) : Reference → Prop
  | .index number => number < devices.length
  | .name called => ∃ clause ∈ devices, clause.name = some called

namespace Demand

/-- The text is a combination, or the reference is declared. -/
def Met (devices : List DeviceClause) : Demand → Prop
  | .combo _ text => ∃ combo, Combo.parse text = .ok combo
  | .device reference => reference.Declared devices

/-- How a demand that is not met is reported. -/
inductive FailsAs (devices : List DeviceClause) : Demand → Fault → Prop
  | combo {context text : String} {reason : Combo.ParseError} (h : Combo.parse text = .error reason) :
      FailsAs devices (.combo context text) (.invalidCombo text context reason)
  | device {reference : Reference} (h : ¬ reference.Declared devices) :
      FailsAs devices (.device reference) (.unknownDevice reference)

end Demand

/-- The demand of a reference to a device, where there is one. -/
def deviceDemands (device : Option Reference) : List Demand :=
  (device.map .device).toList

/-- The demand of a combination, where there is one. -/
def comboDemands (context : String) (text : Option String) : List Demand :=
  (text.map (.combo context)).toList

/-- The demands of a substitution: its source, and then its device. -/
def SubstitutionClause.demands (clause : SubstitutionClause) : List Demand :=
  .combo "simple" clause.source :: deviceDemands clause.device

/-- The demands of a binding of a rule: its source, and then what is pressed on hold. -/
def RuleBindingClause.demands (clause : RuleBindingClause) : List Demand :=
  .combo "rule map" clause.source :: comboDemands "hold" clause.hold

/-- The demands of a rule: its device, and then its bindings. -/
def RuleClause.demands (clause : RuleClause) : List Demand :=
  deviceDemands clause.device ++ clause.bindings.flatMap RuleBindingClause.demands

/-- The demand of a binding of a base or a layer: its source. -/
def ScopedBindingClause.demands (context : String) (clause : ScopedBindingClause) : List Demand :=
  [.combo context clause.source]

/-- The demands of a layer itself; those of the layers in it come after them. -/
def LayerClause.demands (clause : LayerClause) : List Demand :=
  .combo "layer" clause.key :: clause.bindings.flatMap (ScopedBindingClause.demands "layer map")

/-- The demands of a base: its key, its device, what it sends alone and when it is held, its own
bindings, and then its layers in pre-order. -/
def BaseClause.demands (clause : BaseClause) : List Demand :=
  .combo "base" clause.key :: deviceDemands clause.device ++
    comboDemands "if_alone" clause.ifAlone ++ comboDemands "combo" clause.combo ++
    clause.bindings.flatMap (ScopedBindingClause.demands "base map") ++
    clause.layers.preorder.flatMap LayerClause.demands

end KeyRemap.Script

namespace KeyRemap

/-- The demands of a script, in the order in which they count. -/
def Script.demands (script : Script) : List Script.Demand :=
  script.substitutions.flatMap Script.SubstitutionClause.demands ++
    script.rules.flatMap Script.RuleClause.demands ++
    script.bases.flatMap Script.BaseClause.demands

namespace Script

variable {devices : List DeviceClause}

/-! ## References -/

/-- A reference by number means the device of that number, and one by name the first device of that
name. -/
def Reference.Means (devices : List DeviceClause) (id : Device.Index) : Reference → Prop
  | .index number => id.index = number ∧ number < devices.length
  | .name called => (∃ clause, devices[id.index]? = some clause ∧ clause.name = some called) ∧
      ∀ earlier < id.index, ∀ clause, devices[earlier]? = some clause → clause.name ≠ some called

/-- A reference is resolved to the device that it means, and to no other. -/
theorem Reference.resolve?_eq_some_iff {reference : Reference} {id : Device.Index} :
    reference.resolve? devices = some id ↔ reference.Means devices id := by
  obtain ⟨index⟩ := id
  cases reference with
  | index number =>
      rw [resolve?, Means]
      by_cases h : number < devices.length <;> simp [h, eq_comm]
  | name called =>
      rw [resolve?, Means, Option.map_eq_some_iff]
      simp only [Device.Index.mk.injEq, exists_eq_right, List.findIdx?_eq_some_iff_getElem,
        beq_iff_eq]
      constructor
      · rintro ⟨hindex, hname, hearlier⟩
        refine ⟨⟨_, List.getElem?_eq_getElem hindex, hname⟩, fun earlier hlt clause hclause => ?_⟩
        obtain ⟨-, rfl⟩ := List.getElem?_eq_some_iff.mp hclause
        exact hearlier earlier hlt
      · rintro ⟨⟨clause, hclause, hname⟩, hearlier⟩
        obtain ⟨hindex, rfl⟩ := List.getElem?_eq_some_iff.mp hclause
        exact ⟨hindex, hname, fun earlier hlt =>
          hearlier earlier hlt _ (List.getElem?_eq_getElem (Nat.lt_trans hlt hindex))⟩

/-- A reference that is not declared cannot be resolved, and any other can. -/
theorem Reference.resolve?_eq_none_iff {reference : Reference} :
    reference.resolve? devices = none ↔ ¬ reference.Declared devices := by
  cases reference with
  | index number => simp [resolve?, Declared]
  | name called => simp [resolve?, Declared, List.findIdx?_eq_none_iff]

/-! ## Failures -/

namespace Demand

/-- The failure of a demand, if it is not met. -/
def failure? (devices : List DeviceClause) : Demand → Option Fault
  | .combo context text => fault? (readCombo context text)
  | .device reference => fault? (resolveDevice devices (some reference))

/-- The demand of a combination fails as its text does, with the context in which it stands. -/
theorem failure?_combo (context text : String) :
    failure? devices (.combo context text) =
      (fault? (Combo.parse text)).map (.invalidCombo text context) :=
  fault?_mapError _ _

/-- The demand of a device fails where its reference cannot be resolved. -/
theorem failure?_device (reference : Reference) :
    failure? devices (.device reference) =
      if (reference.resolve? devices).isSome then none else some (.unknownDevice reference) := by
  rw [failure?, resolveDevice]
  cases reference.resolve? devices <;> rfl

/-- A demand has no failure exactly when it is met. -/
theorem failure?_eq_none_iff {demand : Demand} :
    demand.failure? devices = none ↔ demand.Met devices := by
  cases demand with
  | combo context text =>
      rw [failure?_combo, Option.map_eq_none_iff, fault?_eq_none_iff, Met]
  | device reference =>
      rw [failure?_device, Met, ← not_iff_not, ← Reference.resolve?_eq_none_iff]
      cases reference.resolve? devices <;> simp

instance (demand : Demand) : Decidable (demand.Met devices) :=
  decidable_of_iff (demand.failure? devices = none) failure?_eq_none_iff

/-- The failure of a demand is the one with which it is reported. -/
theorem failure?_eq_some_iff {demand : Demand} {fault : Fault} :
    demand.failure? devices = some fault ↔ demand.FailsAs devices fault := by
  cases demand with
  | combo context text =>
      rw [failure?_combo, Option.map_eq_some_iff]
      constructor
      · rintro ⟨reason, hreason, rfl⟩
        exact .combo (fault?_eq_some_iff.mp hreason)
      · rintro ⟨hreason⟩
        exact ⟨_, fault?_eq_some_iff.mpr hreason, rfl⟩
  | device reference =>
      rw [failure?_device]
      constructor
      · intro h
        split at h
        · cases h
        · next hnone =>
            cases h
            exact .device (Reference.resolve?_eq_none_iff.mp (by simpa using hnone))
      · intro h
        cases h with
        | device hundeclared =>
            rw [Reference.resolve?_eq_none_iff.mpr hundeclared]
            rfl

end Demand

/-! ## Conversions -/

/-- The failure of the first demand that is not met. -/
def firstFailure? (devices : List DeviceClause) (demands : List Demand) : Option Fault :=
  demands.findSome? (Demand.failure? devices)

/-- The failure of the first demand counts before those of the rest. -/
theorem firstFailure?_cons (demand : Demand) (demands : List Demand) :
    firstFailure? devices (demand :: demands) =
      (demand.failure? devices).or (firstFailure? devices demands) :=
  findSome?_cons_eq_or _ _ _

/-- The failures of the first demands count before those of later ones. -/
theorem firstFailure?_append (first later : List Demand) :
    firstFailure? devices (first ++ later) =
      (firstFailure? devices first).or (firstFailure? devices later) :=
  List.findSome?_append

/-- Resolving a reference fails as its demand does. -/
theorem fault?_resolveDevice (device : Option Reference) :
    fault? (resolveDevice devices device) = firstFailure? devices (deviceDemands device) := by
  cases device with
  | none => rfl
  | some reference =>
      show _ = firstFailure? devices [.device reference]
      rw [firstFailure?_cons]
      exact (Option.or_none).symm

/-- Reading a combination, where there is one, fails as its demand does. -/
theorem fault?_readCombos (context : String) (text : Option String) :
    fault? (text.mapM (readCombo context)) = firstFailure? devices (comboDemands context text) := by
  cases text with
  | none => rfl
  | some text =>
      rw [fault?_option_mapM]
      show _ = firstFailure? devices [.combo context text]
      rw [firstFailure?_cons]
      exact (Option.or_none).symm

/-- A list of clauses fails as the first of their demands, clause after clause. -/
theorem fault?_mapM_convert {α β : Type} {convert : α → Except Fault β} {demands : α → List Demand}
    (h : ∀ clause, fault? (convert clause) = firstFailure? devices (demands clause))
    (clauses : List α) :
    fault? (clauses.mapM convert) = firstFailure? devices (clauses.flatMap demands) := by
  rw [fault?_mapM, firstFailure?, findSome?_flatMap]
  exact congrArg (clauses.findSome? ·) (funext h)

/-- Converting a substitution fails as the first of its demands that is not met. -/
theorem SubstitutionClause.fault?_convert (clause : SubstitutionClause) :
    fault? (clause.convert devices) = firstFailure? devices clause.demands := by
  rw [demands, firstFailure?_cons, ← fault?_resolveDevice]
  exact fault?_bind fun source => fault?_bind_pure _ _

/-- Converting a binding of a rule fails as the first of its demands that is not met. -/
theorem RuleBindingClause.fault?_convert (clause : RuleBindingClause) :
    fault? clause.convert = firstFailure? devices clause.demands := by
  rw [demands, firstFailure?_cons, ← fault?_readCombos]
  exact fault?_bind fun source => fault?_bind_pure _ _

/-- Converting a rule fails as the first of its demands that is not met. -/
theorem RuleClause.fault?_convert (clause : RuleClause) :
    fault? (clause.convert devices) = firstFailure? devices clause.demands := by
  rw [demands, firstFailure?_append, ← fault?_resolveDevice,
    ← fault?_mapM_convert RuleBindingClause.fault?_convert]
  exact fault?_bind fun device => fault?_bind_pure _ _

/-- Converting a binding of a base or a layer fails as its only demand. -/
theorem ScopedBindingClause.fault?_convert (context : String) (clause : ScopedBindingClause) :
    fault? (clause.convert context) = firstFailure? devices (clause.demands context) := by
  rw [demands, firstFailure?_cons]
  exact (fault?_bind_pure _ _).trans Option.or_none.symm

/-- Converting a layer fails as the first of its demands that is not met. -/
theorem LayerClause.fault?_convert (clause : LayerClause) :
    fault? clause.convert = firstFailure? devices clause.demands := by
  rw [demands, firstFailure?_cons,
    ← fault?_mapM_convert (ScopedBindingClause.fault?_convert "layer map")]
  exact fault?_bind fun trigger => fault?_bind_pure _ _

/-- What a base sends when it is tapped alone is read as the demand of its combination says. -/
theorem BaseClause.fault?_alone (clause : BaseClause) :
    fault? clause.alone = firstFailure? devices (comboDemands "if_alone" clause.ifAlone) := by
  rw [← fault?_readCombos, alone]
  cases clause.ifAlone with
  | none => rfl
  | some text => exact (fault?_bind_pure _ _).trans (fault?_option_mapM _ (some text)).symm

/-- Converting a base fails as the first of its demands that is not met. -/
theorem BaseClause.fault?_convert (clause : BaseClause) :
    fault? (clause.convert devices) = firstFailure? devices clause.demands := by
  rw [demands]
  simp only [List.cons_append, firstFailure?_cons, firstFailure?_append, Option.or_assoc]
  rw [← fault?_resolveDevice, ← fault?_alone, ← fault?_readCombos,
    ← fault?_mapM_convert (ScopedBindingClause.fault?_convert "base map"),
    ← fault?_mapM_convert LayerClause.fault?_convert, ← fault?_forest_mapM]
  exact fault?_bind fun trigger => fault?_bind fun device => fault?_bind fun alone =>
    fault?_bind fun combo => fault?_bind fun bindings => fault?_bind_pure _ _

/-- A script fails as the first of its demands that is not met. -/
theorem fault?_config (script : Script) :
    fault? script.config = firstFailure? script.devices script.demands := by
  rw [demands, firstFailure?_append, firstFailure?_append, Option.or_assoc,
    ← fault?_mapM_convert SubstitutionClause.fault?_convert,
    ← fault?_mapM_convert RuleClause.fault?_convert,
    ← fault?_mapM_convert BaseClause.fault?_convert]
  exact fault?_bind fun substitutions => fault?_bind fun rules => fault?_bind_pure _ _

/-! ## What is no demand -/

/-- The clause without what it sends. -/
def SubstitutionClause.bare (clause : SubstitutionClause) : SubstitutionClause :=
  { clause with destination := none }

/-- The clause without what it sends, the command that it runs and its times. -/
def RuleBindingClause.bare (clause : RuleBindingClause) : RuleBindingClause :=
  { clause with destinations := [], holdShell := none, timing := {} }

/-- The clause without its times and what its bindings send. -/
def RuleClause.bare (clause : RuleClause) : RuleClause :=
  { clause with timing := none, bindings := clause.bindings.map RuleBindingClause.bare }

/-- The clause without what it sends. -/
def ScopedBindingClause.bare (clause : ScopedBindingClause) : ScopedBindingClause :=
  { clause with destinations := [] }

/-- The clause without what its bindings send. -/
def LayerClause.bare (clause : LayerClause) : LayerClause :=
  { clause with bindings := clause.bindings.map ScopedBindingClause.bare }

/-- The clause without its times and what its bindings and its layers send. -/
def BaseClause.bare (clause : BaseClause) : BaseClause :=
  { clause with
    aloneHold := none
    strict := {}
    bindings := clause.bindings.map ScopedBindingClause.bare
    layers := clause.layers.map LayerClause.bare }

end Script

/-- The script without all that its bindings send, the commands that they run on hold, and its
times. -/
def Script.bare (script : Script) : Script :=
  { script with
    substitutions := script.substitutions.map SubstitutionClause.bare
    rules := script.rules.map RuleClause.bare
    bases := script.bases.map BaseClause.bare }

namespace Script

/-- Destinations, commands and times of a rule make no demands. -/
theorem RuleClause.demands_bare (clause : RuleClause) : clause.bare.demands = clause.demands := by
  rw [demands, demands, bare, List.flatMap_map]
  rfl

/-- Destinations of a layer make no demands. -/
theorem LayerClause.demands_bare (clause : LayerClause) : clause.bare.demands = clause.demands := by
  rw [demands, demands, bare, List.flatMap_map]
  rfl

/-- Destinations and times of a base make no demands. -/
theorem BaseClause.demands_bare (clause : BaseClause) : clause.bare.demands = clause.demands := by
  rw [demands, demands, bare, Forest.preorder_map, List.flatMap_map, List.flatMap_map]
  simp only [LayerClause.demands_bare]
  rfl

/-- What a script demands does not depend on what it sends and when. -/
theorem demands_bare (script : Script) : script.bare.demands = script.demands := by
  rw [demands, demands, bare, List.flatMap_map, List.flatMap_map, List.flatMap_map]
  simp only [RuleClause.demands_bare, BaseClause.demands_bare]
  rfl

/-- A script becomes a configuration exactly if all its demands are met, and the first one that is
not is reported. Scripts that differ in what they send, in the commands that they run on hold and in
times fail alike. -/
theorem converts_exactly (script : Script) :
    ((∃ config, script.config = .ok config) ↔
      ∀ demand ∈ script.demands, demand.Met script.devices) ∧
    (∀ fault, script.config = .error fault ↔
      ∃ before demand after, script.demands = before ++ demand :: after ∧
        demand.FailsAs script.devices fault ∧ ∀ earlier ∈ before, earlier.Met script.devices) ∧
    ∀ other : Script, other.bare = script.bare →
      ∀ fault, (other.config = .error fault ↔ script.config = .error fault) := by
  refine ⟨?_, fun fault => ?_, fun other hbare fault => ?_⟩
  · rw [← fault?_eq_none_iff, fault?_config, firstFailure?, List.findSome?_eq_none_iff]
    simp only [Demand.failure?_eq_none_iff]
  · rw [← fault?_eq_some_iff, fault?_config, firstFailure?, List.findSome?_eq_some_iff]
    simp only [Demand.failure?_eq_none_iff, Demand.failure?_eq_some_iff]
  · have hdemands : other.demands = script.demands := by
      rw [← demands_bare, hbare, demands_bare]
    have hdevices : other.devices = script.devices :=
      show other.bare.devices = script.bare.devices by rw [hbare]
    rw [← fault?_eq_some_iff, ← fault?_eq_some_iff, fault?_config, fault?_config, hdemands, hdevices]

/-- A script with a named device and a layer in a layer, where `inner` is bound. -/
def nested (inner : String) : Script where
  devices := [{ name := some "apple" }]
  substitutions := [{ source := "caps_lock", device := some (.name "apple") }]
  bases := [{
    key := "f16"
    layers := .cons { key := "w", bindings := [{ source := "h" }] }
      (.cons { key := "r", bindings := [{ source := inner }] } .nil .nil) .nil }]

/-- The text that counts last is reported only since all before it makes sense, and what the first
clause is to send does not matter. -/
theorem converts_exactly_nested :
    (∃ config, (nested "lcmd+a").config = .ok config) ∧
      (nested "lcmd+").config = .error (.invalidCombo "lcmd+" "layer map" .trailingSeparator) ∧
      ({ nested "lcmd+" with
          substitutions := [{ (nested "").substitutions[0] with destination := some " " }] }).config =
        .error (.invalidCombo "lcmd+" "layer map" .trailingSeparator) := by
  have hlast : (nested "lcmd+").config =
      .error (.invalidCombo "lcmd+" "layer map" .trailingSeparator) :=
    ((converts_exactly _).2.1 _).mpr ⟨(nested "lcmd+").demands.dropLast, .combo "layer map" "lcmd+",
      [], by decide, .combo (by decide), by decide⟩
  exact ⟨(converts_exactly _).1.mpr (by decide), hlast,
    ((converts_exactly _).2.2 _ (by decide) _).mpr hlast⟩

end Script

end KeyRemap
