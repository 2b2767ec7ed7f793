import KeyRemap.Proofs.Lowering
import KeyRemap.Proofs.Repetitions
import KeyRemap.Proofs.Variables

/-!
# The guards of records

`Origin.GuardedBy` says which guards the record of every origin is to have, with the idle variables
described by what they are and by the order in which they first occur, and the guard of the device by
what is declared under its number. It follows the rules for guards and not the way in which records
are built, so that records have just those guards, and no variable twice among them, is a theorem
(`Compiler.guards_as_specified`).
-/

namespace KeyRemap

/-! ## First occurrences -/

/-- The different names of a list that are to be kept, in the order of their first occurrence. -/
structure FirstOccurrences (names : List String) (keep : String → Prop) (found : List String) :
    Prop where
  mem_iff : ∀ name, name ∈ found ↔ name ∈ names ∧ keep name
  ordered : found.Pairwise fun a b => names.idxOf a < names.idxOf b

/-- Without its repetitions a list holds all its first occurrences. -/
theorem firstOccurrences_eraseDups (names : List String) :
    FirstOccurrences names (fun _ => True) names.eraseDups :=
  ⟨by simp, pairwise_idxOf_eraseDups names⟩

/-- No name has two first occurrences. -/
theorem FirstOccurrences.nodup {names found : List String} {keep : String → Prop}
    (h : FirstOccurrences names keep found) : found.Nodup :=
  h.ordered.imp fun hlt heq => by rw [heq] at hlt; exact Nat.lt_irrefl _ hlt

/-! ## What guards are to be -/

/-- The variable that a guard is about. -/
def Guard.name? : Guard → Option String
  | .var name _ => some name
  | .device .. => none

/-- The variables of the layers of a base, in order. -/
def Base.layerNames (base : Base) : List String :=
  base.layerScopes.map Scope.variableName

/-- The variables of all layers of a configuration, base by base. -/
def Config.layerNames (config : Config) : List String :=
  config.bases.flatMap Base.layerNames

/-- The guards that are to scope a record to the device of a number: where a device is declared under
it, the one with its polarity and its identifiers, and else none. -/
inductive Config.ScopedBy (config : Config) : Option Device.Index → List Guard → Prop where
  | everywhere : ScopedBy config none []
  | undeclared {id : Device.Index} (absent : config.devices.length ≤ id.index) :
      ScopedBy config (some id) []
  | declared {id : Device.Index} {device : Device}
      (present : config.devices[id.index]? = some device) :
      ScopedBy config (some id) [.device device.polarity device.identifiers]

/-- The guards that the record of an origin is to have: those of the variables that must be set, those
of the variables that must not be, and that of the device. -/
def Origin.GuardedBy (config : Config) (guards : List Guard) : Origin → Prop
  | .trigger base => ∃ idle scoping,
      FirstOccurrences base.layerNames (fun _ => True) idle ∧
      config.ScopedBy base.device scoping ∧
      guards = idle.map (.var · false) ++ scoping
  | .toggle parent _ _ => ∃ scoping,
      config.ScopedBy parent.base.device scoping ∧
      guards = parent.variableNames.map (.var · true) ++ scoping
  | .content scope _ => ∃ idle scoping,
      FirstOccurrences config.layerNames (fun name => name ∉ scope.variableNames) idle ∧
      config.ScopedBy scope.base.device scoping ∧
      guards = scope.variableNames.map (.var · true) ++ idle.map (.var · false) ++ scoping
  | .ofRule rule _ => config.ScopedBy rule.device guards
  | .ofSubstitution _ id _ => config.ScopedBy (some id) guards

/-! ## What guards are -/

/-- The layer variables of a configuration are the names of its layers, each once. -/
theorem Config.layerVariables_eq (config : Config) :
    config.layerVariables = config.layerNames.eraseDups := by
  rw [layerVariables, layerNames, List.map_flatMap]
  rfl

/-- The idle variables of a scope are the layer variables off its way. -/
theorem Scope.firstOccurrences_idle (config : Config) (scope : Scope) :
    FirstOccurrences config.layerNames (fun name => name ∉ scope.variableNames)
      (config.layerVariables.filter fun name => !scope.variableNames.contains name) := by
  rw [config.layerVariables_eq]
  refine ⟨?_, (pairwise_idxOf_eraseDups _).filter _⟩
  intro name
  simp

/-- The builders scope a record to its device as it is to be scoped. -/
theorem Config.scopedBy_deviceGuards (config : Config) (id : Option Device.Index) :
    config.ScopedBy id (config.deviceGuards id) := by
  rw [deviceGuards, device?]
  cases id with
  | none => exact .everywhere
  | some id =>
      rw [Option.bind_some]
      cases hdevice : config.devices[id.index]? with
      | none => exact .undeclared (List.getElem?_eq_none_iff.mp hdevice)
      | some device => exact .declared hdevice

/-- The record of every origin has the guards that it is to have. -/
theorem Origin.guardedBy_record (config : Config) (origin : Origin) :
    origin.GuardedBy config (origin.record config).guards := by
  rw [guards_record]
  have hscoping := config.scopedBy_deviceGuards
  cases origin with
  | trigger base =>
      exact ⟨base.layerVariables, _, firstOccurrences_eraseDups _, hscoping base.device, rfl⟩
  | toggle parent layer nested => exact ⟨_, hscoping parent.base.device, rfl⟩
  | content scope binding =>
      exact ⟨_, _, scope.firstOccurrences_idle config, hscoping scope.base.device, rfl⟩
  | ofRule rule binding => exact hscoping rule.device
  | ofSubstitution substitution id destination => exact hscoping (some id)

/-! ## No variable twice -/

/-- The guard of a device is about no variable. -/
theorem Config.ScopedBy.variables_eq_nil {config : Config} {id : Option Device.Index}
    {guards : List Guard} (h : config.ScopedBy id guards) :
    guards.filterMap Guard.name? = [] := by
  cases h <;> rfl

/-- Guards that demand one value of each of some variables are about those variables. -/
theorem Guard.variables_map (names : List String) (value : Bool) :
    (names.map (.var · value)).filterMap name? = names := by
  rw [List.filterMap_map]
  exact List.filterMap_some

namespace Origin

/-- The variables that the record of an origin demands to be set. -/
def armedNames : Origin → List String
  | .toggle parent _ _ => parent.variableNames
  | .content scope _ => scope.variableNames
  | .trigger _ | .ofRule .. | .ofSubstitution .. => []

/-- The variables among which are those that the record of an origin demands to be unset. -/
def layerNames (config : Config) : Origin → List String
  | .trigger base => base.layerNames
  | .content .. => config.layerNames
  | .toggle .. | .ofRule .. | .ofSubstitution .. => []

/-- No variable occurs twice on the way to a scope. -/
theorem nodup_armedNames (origin : Origin) : origin.armedNames.Nodup := by
  cases origin with
  | toggle parent layer nested => exact parent.variableNames_nodup
  | content scope binding => exact scope.variableNames_nodup
  | _ => exact List.nodup_nil

/-- Guards as they are to be demand the armed variables, and then each layer variable off them
once. -/
theorem GuardedBy.exists_idle {config : Config} {origin : Origin} {guards : List Guard}
    (h : origin.GuardedBy config guards) :
    ∃ idle,
      FirstOccurrences (origin.layerNames config) (fun name => name ∉ origin.armedNames) idle ∧
      guards.filterMap Guard.name? = origin.armedNames ++ idle := by
  have hnone : ∀ keep, FirstOccurrences [] keep [] := fun _ => ⟨by simp, List.Pairwise.nil⟩
  -- the guard of the device is about no variable, so in every case it drops out
  cases origin with
  | trigger base =>
      obtain ⟨idle, scoping, hidle, hscoping, rfl⟩ := h
      refine ⟨idle, ⟨fun name => ?_, hidle.ordered⟩, ?_⟩
      · simpa [armedNames, layerNames] using hidle.mem_iff name
      · rw [List.filterMap_append, hscoping.variables_eq_nil, List.append_nil, Guard.variables_map]
        rfl
  | toggle parent layer nested =>
      obtain ⟨scoping, hscoping, rfl⟩ := h
      refine ⟨[], hnone _, ?_⟩
      rw [List.filterMap_append, hscoping.variables_eq_nil, Guard.variables_map]
      rfl
  | content scope binding =>
      obtain ⟨idle, scoping, hidle, hscoping, rfl⟩ := h
      refine ⟨idle, hidle, ?_⟩
      rw [List.filterMap_append, List.filterMap_append, hscoping.variables_eq_nil, List.append_nil,
        Guard.variables_map, Guard.variables_map]
      rfl
  | ofRule rule binding => exact ⟨[], hnone _, Config.ScopedBy.variables_eq_nil h⟩
  | ofSubstitution substitution id destination =>
      exact ⟨[], hnone _, Config.ScopedBy.variables_eq_nil h⟩

/-- Guards as they are to be demand no variable twice. -/
theorem GuardedBy.nodup {config : Config} {origin : Origin} {guards : List Guard}
    (h : origin.GuardedBy config guards) : (guards.filterMap Guard.name?).Nodup := by
  obtain ⟨idle, hidle, heq⟩ := h.exists_idle
  rw [heq, List.nodup_append]
  refine ⟨origin.nodup_armedNames, hidle.nodup, ?_⟩
  rintro name hname other hother rfl
  exact ((hidle.mem_iff name).mp hother).2 hname

end Origin

/-- Guards that demand no variable twice do not contradict each other. -/
theorem Guard.not_contradictory {guards : List Guard}
    (h : (guards.filterMap Guard.name?).Nodup) (name : String) :
    ¬ (.var name true ∈ guards ∧ .var name false ∈ guards) := by
  rintro ⟨hon, hoff⟩
  -- taking out the one demand leaves the other, so the name is still there
  obtain ⟨before, after, rfl⟩ := List.append_of_mem hon
  have hrest : name ∈ (before ++ after).filterMap name? :=
    List.mem_filterMap.mpr ⟨.var name false, by simpa using hoff, rfl⟩
  rw [(List.perm_middle.filterMap name?).nodup_iff, List.filterMap_cons] at h
  exact (List.nodup_cons.mp h).1 hrest

/-- Every record has the guards that are specified for its origin: the armed variables, then the idle
ones, then the device. No record demands a variable twice, so none contradicts itself. -/
theorem Compiler.guards_as_specified {compiler : Compiler} {config : Config} {document : Document}
    (h : (compiler.compile config).2 = .ok document) :
    config.Traced document config.origins ∧
      (∀ origin ∈ config.origins, origin.GuardedBy config (origin.record config).guards) ∧
      ∀ record ∈ document.records, (record.guards.filterMap Guard.name?).Nodup ∧
        ∀ name, ¬ (.var name true ∈ record.guards ∧ .var name false ∈ record.guards) := by
  obtain ⟨-, rfl⟩ := compile_eq_ok_iff.mp h
  refine ⟨config.traced_output, fun origin _ => origin.guardedBy_record config, ?_⟩
  intro record hrecord
  rw [config.records_output] at hrecord
  obtain ⟨origin, -, rfl⟩ := List.mem_map.mp hrecord
  have hnodup := (origin.guardedBy_record config).nodup
  exact ⟨hnodup, Guard.not_contradictory hnodup⟩

/-- The guards of a base with nested layers. -/
theorem Compiler.guards_as_specified_arrows :
    (({} : Compiler).compile .arrows).2 = .ok Config.arrows.output ∧
      Config.arrows.Traced Config.arrows.output Config.arrows.origins ∧
      (∀ origin ∈ Config.arrows.origins,
        origin.GuardedBy .arrows (origin.record .arrows).guards) ∧
      ∀ record ∈ Config.arrows.output.records, (record.guards.filterMap Guard.name?).Nodup ∧
        ∀ name, ¬ (.var name true ∈ record.guards ∧ .var name false ∈ record.guards) :=
  ⟨compile_arrows, guards_as_specified compile_arrows⟩

end KeyRemap
