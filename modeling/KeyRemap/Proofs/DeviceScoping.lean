import KeyRemap.Proofs.Claims

/-!
# Scoping to devices

A declaration is meant for one device or for all. Its records and its claims agree about that: both
name the device that is declared under its number, and where there is none both name no device
(`Declaration.scopedTo`). Validation and the document therefore see the same devices
(`Compiler.devices_scoped`). Devices are only ever added after those that are there, so a number
keeps its device while a configuration is built (`Config.device?_build`).
-/

namespace KeyRemap

/-! ## Declarations -/

/-- A declaration of a configuration that may be meant for one device. -/
inductive Declaration where
  | ofSubstitution (substitution : Substitution)
  | ofBase (base : Base)
  | ofRule (rule : Rule)

namespace Declaration

/-- The number of the device for which a declaration is meant. -/
def device : Declaration → Option Device.Index
  | .ofSubstitution substitution => substitution.device
  | .ofBase base => base.device
  | .ofRule rule => rule.device

/-- The checks of a declaration. -/
def checks (config : Config) : Declaration → List Check
  | .ofSubstitution substitution => substitution.checks config
  | .ofBase base => base.checks config
  | .ofRule rule => rule.bindings.flatMap (HoldBinding.checks config rule)

/-- The origins of the records of a declaration: of a base, those at any depth. -/
def origins : Declaration → List Origin
  | .ofSubstitution substitution => (substitution.origin?.map Prod.snd).toList
  | .ofBase base => base.declared
  | .ofRule rule => rule.origins

/-- What a declaration claims, on whatever device: combinations, each with the path on which it is
claimed. -/
def sources : Declaration → List (Combo × List Combo)
  | .ofSubstitution substitution => [(substitution.source, [])]
  | .ofBase base =>
    (base.trigger, []) :: base.scopes.flatMap fun scope =>
      scope.bindings.map fun binding => (binding.source, scope.path)
  | .ofRule rule => rule.bindings.map fun binding => (binding.source, [])

/-- The claims that validation makes for a declaration. -/
def claims (config : Config) (declaration : Declaration) : List Claim :=
  (declaration.checks config).filterMap Check.claim?

/-- The records that a declaration gives. -/
def records (config : Config) (declaration : Declaration) : List Record :=
  declaration.origins.map (Origin.record config)

/-- A declaration is scoped to a device, or to none: no record has another guard of a device, and
that guard comes last; and every claim is made for the same device. -/
structure ScopedTo (config : Config) (declaration : Declaration) (device : Option Device) :
    Prop where
  guards : ∀ record ∈ declaration.records config, ∃ demands : List (String × Bool),
    record.guards =
      demands.map (fun demand => .var demand.1 demand.2) ++
        (device.map fun device => .device device.polarity device.identifiers).toList
  claims : declaration.claims config =
    declaration.sources.map fun source => ⟨source.1, source.2, device⟩

end Declaration

/-- The declarations of a configuration, in the order in which they are checked. -/
def Config.declarations (config : Config) : List Declaration :=
  config.substitutions.map .ofSubstitution ++ config.bases.map .ofBase ++ config.rules.map .ofRule

/-! ## The guard of a device -/

namespace Origin

/-- Guards are about variables, but for that of the device, which comes last. -/
theorem exists_guards_eq (config : Config) (origin : Origin) :
    ∃ demands : List (String × Bool), origin.guards config =
      demands.map (fun demand => .var demand.1 demand.2) ++
        config.deviceGuards origin.deviceId := by
  have hvalue : ∀ (names : List String) (value : Bool), names.map (Guard.var · value) =
      (names.map fun name => (name, value)).map fun demand => .var demand.1 demand.2 :=
    fun names value => by rw [List.map_map]; rfl
  cases origin with
  | trigger base =>
      exact ⟨_, congrArg (· ++ config.deviceGuards base.device) (hvalue base.layerVariables false)⟩
  | toggle parent layer nested =>
      exact ⟨_, congrArg (· ++ config.deviceGuards parent.base.device)
        (hvalue parent.variableNames true)⟩
  | content scope binding =>
      refine ⟨scope.variableNames.map (·, true) ++
        (config.layerVariables.filter fun name => !scope.variableNames.contains name).map
          (·, false), ?_⟩
      rw [List.map_append, ← hvalue, ← hvalue]
      rfl
  | ofRule rule binding => exact ⟨[], rfl⟩
  | ofSubstitution substitution id destination => exact ⟨[], rfl⟩

end Origin

/-- All records of the layers of a scope are meant for the device of its base. -/
theorem Scope.deviceId_of_mem_layerOrigins (scope : Scope) {forest : Forest Layer} {origin : Origin}
    (h : origin ∈ scope.layerOrigins forest) : origin.deviceId = scope.base.device := by
  induction forest generalizing scope with
  | nil => cases h
  | cons layer nested next ihn ihs =>
      rw [layerOrigins, List.mem_cons, List.mem_append, List.mem_append] at h
      rcases h with rfl | (h | h) | h
      · rfl
      · obtain ⟨binding, -, rfl⟩ := List.mem_map.mp h
        rfl
      · exact ihn (scope.enter layer nested) h
      · exact ihs scope h

namespace Declaration

/-- All records of a declaration are meant for its device. -/
theorem deviceId_of_mem_origins {declaration : Declaration} {origin : Origin}
    (h : origin ∈ declaration.origins) : origin.deviceId = declaration.device := by
  cases declaration with
  | ofSubstitution substitution =>
      obtain ⟨entry, hentry, rfl⟩ := Option.map_eq_some_iff.mp (Option.mem_toList.mp h)
      rw [Substitution.origin?] at hentry
      split at hentry
      · next id destination hdevice _ =>
          cases hentry
          exact hdevice.symm
      · cases hentry
  | ofBase base =>
      rcases List.mem_cons.mp h with rfl | h
      · rfl
      · rcases List.mem_append.mp h with h | h
        · obtain ⟨binding, -, rfl⟩ := List.mem_map.mp h
          rfl
        · exact Scope.deviceId_of_mem_layerOrigins _ h
  | ofRule rule =>
      obtain ⟨binding, -, rfl⟩ := List.mem_map.mp h
      rfl

/-- All claims of a declaration are made for its device. -/
theorem claims_eq (config : Config) (declaration : Declaration) :
    declaration.claims config =
      declaration.sources.map fun source =>
        ⟨source.1, source.2, config.device? declaration.device⟩ := by
  rw [claims]
  cases declaration with
  | ofSubstitution substitution => exact substitution.claims_checks config
  | ofBase base =>
      have hscopes : ∀ scope ∈ base.scopes, scope.claims config =
          (scope.bindings.map fun binding => (binding.source, scope.path)).map fun source =>
            ⟨source.1, source.2, config.device? base.device⟩ := by
        intro scope hscope
        rw [List.map_map, ← Base.base_of_mem_scopes hscope]
        rfl
      rw [checks, base.claims_checks, Base.claims, List.flatMap_congr hscopes, sources,
        List.map_cons, List.map_flatMap]
      rfl
  | ofRule rule =>
      rw [checks, List.filterMap_flatMap, sources, List.map_map, List.map_eq_flatMap]
      simp only [HoldBinding.claims_checks]
      rfl

/-- Every declaration is scoped to the device that is declared under its number. -/
theorem scopedTo (config : Config) (declaration : Declaration) :
    declaration.ScopedTo config (config.device? declaration.device) where
  guards := by
    intro record hrecord
    obtain ⟨origin, horigin, rfl⟩ := List.mem_map.mp hrecord
    obtain ⟨demands, hdemands⟩ := origin.exists_guards_eq config
    refine ⟨demands, ?_⟩
    rw [Origin.guards_record, hdemands, deviceId_of_mem_origins horigin]
    rfl
  claims := declaration.claims_eq config

end Declaration

/-! ## All declarations -/

namespace Config

/-- A configuration is checked declaration by declaration. -/
theorem checks_eq_flatMap (config : Config) :
    config.checks = config.declarations.flatMap (Declaration.checks config) := by
  rw [declarations, List.flatMap_append, List.flatMap_append, List.flatMap_map, List.flatMap_map,
    List.flatMap_map]
  rfl

/-- The claims of a configuration are those of its declarations. -/
theorem filterMap_claim?_checks (config : Config) :
    config.checks.filterMap Check.claim? =
      config.declarations.flatMap (Declaration.claims config) := by
  rw [checks_eq_flatMap, List.filterMap_flatMap]
  rfl

/-- The origins of a configuration are those of its declarations. -/
theorem declared_perm_declarations (config : Config) :
    config.declared.Perm (config.declarations.flatMap Declaration.origins) := by
  have hsubstitutions : config.substitutions.flatMap
      (fun substitution => (substitution.origin?.map Prod.snd).toList) =
        config.deviceOrigins.map Prod.snd := by
    rw [deviceOrigins, List.map_filterMap, ← List.filterMap_eq_flatMap_toList]
  have hflat : config.declarations.flatMap Declaration.origins =
      config.deviceOrigins.map Prod.snd ++ config.bases.flatMap Base.declared ++
        config.rules.flatMap Rule.origins := by
    rw [← hsubstitutions, declarations, List.flatMap_append, List.flatMap_append, List.flatMap_map,
      List.flatMap_map, List.flatMap_map]
    rfl
  rw [hflat, declared, List.append_assoc _ (config.bases.flatMap _)]
  exact List.perm_append_comm

/-- The records of a document are those of the declarations. -/
theorem records_perm_declarations (config : Config) :
    config.output.records.Perm (config.declarations.flatMap (Declaration.records config)) := by
  have hrecords : config.declarations.flatMap (Declaration.records config) =
      (config.declarations.flatMap Declaration.origins).map (Origin.record config) := by
    rw [List.map_flatMap]
    rfl
  rw [config.records_output, hrecords]
  exact (config.origins_perm_declared.trans config.declared_perm_declarations).map _

end Config

/-! ## Building a configuration -/

namespace Config

/-- One step in building a configuration. -/
inductive Step where
  | showInMenuBar (shown : Bool)
  | device (device : Device)
  | declaration (declaration : Declaration)

/-- The configuration after one step. -/
def step (config : Config) : Step → Config
  | .showInMenuBar shown => { config with showInMenuBar := shown }
  | .device device => (config.addDevice device).1
  | .declaration (.ofSubstitution substitution) => config.addSubstitution substitution
  | .declaration (.ofBase base) => config.addBase base
  | .declaration (.ofRule rule) => config.addRule rule

/-- The configuration after steps, one after another. -/
def build (config : Config) (steps : List Step) : Config :=
  steps.foldl step config

/-- A step keeps the devices that are there, under their numbers. -/
theorem devices_step (config : Config) (step : Step) :
    config.devices <+: (config.step step).devices := by
  cases step with
  | showInMenuBar shown => exact List.prefix_refl _
  | device device => exact List.prefix_append _ _
  | declaration declaration => cases declaration <;> exact List.prefix_refl _

/-- Devices are only ever added after those that are there. -/
theorem devices_build (config : Config) (steps : List Step) :
    config.devices <+: (config.build steps).devices := by
  induction steps generalizing config with
  | nil => exact List.prefix_refl _
  | cons first rest ih => exact (config.devices_step first).trans (ih (config.step first))

/-- A number keeps its device, whatever is declared afterwards. -/
theorem device?_build {config : Config} {id : Device.Index} {device : Device}
    (h : config.device? (some id) = some device) (steps : List Step) :
    (config.build steps).device? (some id) = some device := by
  obtain ⟨later, hlater⟩ := config.devices_build steps
  have hdevice : config.devices[id.index]? = some device := h
  show (config.build steps).devices[id.index]? = some device
  rw [← hlater, List.getElem?_append_left (List.getElem?_eq_some_iff.mp hdevice).1, hdevice]

/-- The number that is given for a device names that device. -/
theorem device?_addDevice (config : Config) (device : Device) :
    (config.addDevice device).1.device? (some (config.addDevice device).2) = some device := by
  show (config.devices ++ [device])[config.devices.length]? = some device
  simp

end Config

/-! ## The devices of a document -/

/-- A device is listed by a profile as it is declared; only what it leaves open about being a
keyboard or pointing is taken to be so. -/
structure Device.ListedAs (device : Device) (listed : ProfileDevice) : Prop where
  ignored : listed.ignored = device.ignored
  vendorId : listed.identifiers.vendorId = device.identifiers.vendorId
  productId : listed.identifiers.productId = device.identifiers.productId
  isBuiltInKeyboard : listed.identifiers.isBuiltInKeyboard = device.identifiers.isBuiltInKeyboard
  isKeyboard : listed.identifiers.isKeyboard = device.identifiers.isKeyboard.or (some true)
  isPointingDevice :
    listed.identifiers.isPointingDevice = device.identifiers.isPointingDevice.or (some true)

/-- A profile lists a device as it is to be listed. -/
theorem Device.listedAs (device : Device) :
    device.ListedAs ⟨device.identifiers.forProfile, device.ignored⟩ where
  ignored := rfl
  vendorId := rfl
  productId := rfl
  isBuiltInKeyboard := rfl
  isKeyboard := by cases h : device.identifiers.isKeyboard <;> simp [Identifiers.forProfile, h]
  isPointingDevice := by
    cases h : device.identifiers.isPointingDevice <;> simp [Identifiers.forProfile, h]

/-- The claims that validation has kept and the records of the document name the same devices. -/
structure Config.DevicesScoped (config : Config) (registry : Registry) (document : Document) :
    Prop where
  records : document.records.Perm (config.declarations.flatMap (Declaration.records config))
  claims : registry.claims.Perm (config.declarations.flatMap (Declaration.claims config))
  /-- A declaration for a declared device is scoped to that device. -/
  declared : ∀ declaration ∈ config.declarations, ∀ id device, declaration.device = some id →
    config.devices[id.index]? = some device → declaration.ScopedTo config (some device)
  /-- A declaration for no device, or for one that is not declared, is scoped to none. -/
  global : ∀ declaration ∈ config.declarations,
    (∀ id, declaration.device = some id → config.devices.length ≤ id.index) →
      declaration.ScopedTo config none
  profile : List.Forall₂ Device.ListedAs config.devices document.devices

/-- Records and claims of a configuration that compiles name the devices of its declarations, and no
others; and a number goes on to name the same device whatever is declared after it was given. -/
theorem Compiler.devices_scoped (compiler : Compiler) (config : Config) :
    (∀ document, (compiler.compile config).2 = .ok document →
      config.DevicesScoped (compiler.compile config).1.registry document) ∧
    (∀ id device steps, config.device? (some id) = some device →
      (config.build steps).device? (some id) = some device) ∧
    ∀ device steps, ((config.addDevice device).1.build steps).device?
      (some (config.addDevice device).2) = some device := by
  refine ⟨fun document h => ?_, fun id device steps h => Config.device?_build h steps,
    fun device steps => Config.device?_build (config.device?_addDevice device) steps⟩
  obtain ⟨hvalid, rfl⟩ := compile_eq_ok_iff.mp h
  refine ⟨config.records_perm_declarations, ?_, ?_, ?_, ?_⟩
  · rw [← config.filterMap_claim?_checks]
    have hvalidate : config.validate.2 = none := config.validate_passes_iff.mpr hvalid
    rw [compile]
    rcases hrun : config.validate with ⟨state, _ | violation⟩
    · simpa using Validation.claims_run hrun
    · rw [hrun] at hvalidate
      cases hvalidate
  · intro declaration _ id device hid hdevice
    have hscoped := declaration.scopedTo config
    rwa [hid, Config.device?, Option.bind_some, hdevice] at hscoped
  · intro declaration _ hundeclared
    have hnone : config.device? declaration.device = none := by
      cases hid : declaration.device with
      | none => rfl
      | some id => exact List.getElem?_eq_none (hundeclared id hid)
    exact hnone ▸ declaration.scopedTo config
  · show List.Forall₂ _ _ (config.devices.map _)
    rw [List.forall₂_map_right_iff, List.forall₂_same]
    exact fun device _ => device.listedAs

/-- A base on one device with a layer in it, a substitution on another device, and a rule for a
device that is not declared. -/
def Config.mixed : Config where
  devices := [
    ⟨.product 7504 24926, .onDevice, false⟩,
    ⟨{ Identifiers.builtIn with isPointingDevice := some false }, .whenAbsent, true⟩]
  substitutions := [
    { source := ⟨.capsLock, ∅⟩, device := some ⟨1⟩, destination := some ⟨.key .f16, ∅⟩ }]
  rules := [{
    device := some ⟨2⟩
    bindings := [{ source := ⟨.a, ∅⟩, destinations := [⟨.key .b, ∅⟩] }] }]
  bases := [{
    trigger := ⟨.f16, ∅⟩
    device := some ⟨0⟩
    layers := .cons
      { key := .w, bindings := [{ source := ⟨.h, ∅⟩, destinations := [⟨.key .leftArrow, ∅⟩] }] }
      .nil .nil }]

/-- The substitution is scoped to the second device and the rule to none, and a third device leaves
the second where it is. -/
theorem Compiler.devices_scoped_mixed :
    (({} : Compiler).compile .mixed).2 = .ok Config.mixed.output ∧
      Config.mixed.DevicesScoped (({} : Compiler).compile .mixed).1.registry Config.mixed.output ∧
      (Declaration.ofSubstitution Config.mixed.substitutions[0]).ScopedTo .mixed
        (some Config.mixed.devices[1]) ∧
      (Declaration.ofRule Config.mixed.rules[0]).ScopedTo .mixed none ∧
      (Config.mixed.build [.device ⟨.vendor 7504, .onDevice, false⟩]).device? (some ⟨1⟩) =
        some Config.mixed.devices[1] := by
  have hcompile : (({} : Compiler).compile .mixed).2 = .ok Config.mixed.output :=
    compile_eq_ok_iff.mpr ⟨Config.mixed.validate_passes_iff.mp (by decide +kernel), rfl⟩
  obtain ⟨hdocument, hbuild, -⟩ := devices_scoped {} .mixed
  have hscoped := hdocument _ hcompile
  refine ⟨hcompile, hscoped, ?_, ?_, hbuild ⟨1⟩ _ _ rfl⟩
  · refine hscoped.declared _ ?_ ⟨1⟩ _ rfl rfl
    exact List.mem_append_left _ (List.mem_append_left _ (List.mem_map_of_mem List.mem_cons_self))
  · refine hscoped.global _ ?_ ?_
    · exact List.mem_append_right _ (List.mem_map_of_mem List.mem_cons_self)
    · intro id hid
      cases hid
      exact Nat.le_refl 2

end KeyRemap
