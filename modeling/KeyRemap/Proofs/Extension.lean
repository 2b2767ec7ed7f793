import KeyRemap.Proofs.Guards
import KeyRemap.Proofs.Separation
import KeyRemap.Proofs.Surroundings

/-!
# Extending a configuration

A declaration that is added leaves the records of those that are there as they are, with one
exception: the bindings of scopes forbid every layer of the configuration off their way, so they
also forbid the layers of a base that is added. `Record.Gains` says how such a record grows, and
`Config.ExtendedBy` that nothing else happens; a rule or a substitution that is added changes no
record of any base (`Compiler.extension_keeps_records`).
-/

namespace KeyRemap

/-! ## What a base adds -/

/-- The variable of a layer is not that of a base. -/
theorem Scope.variableName_ne_variableName {scope : Scope} (h : scope.layers ≠ []) (base : Base) :
    scope.variableName ≠ base.variableName := by
  obtain ⟨layer, rest, hlayers⟩ := List.exists_cons_of_ne_nil h
  intro heq
  have hfirst := congrArg (fun name => name.toList.head?) heq
  simp [variableName, variableNameOf, hlayers, Base.variableName] at hfirst

namespace Config

variable (config : Config) (base : Base)

/-- The layer variables of a base that a configuration does not have yet, each once. -/
def newVariables : List String :=
  (base.layerNames.removeAll config.layerNames).eraseDups

/-- The layer variables of the configuration stay in front, and the new ones follow them. -/
theorem layerVariables_addBase :
    (config.addBase base).layerVariables = config.layerVariables ++ config.newVariables base := by
  have hnames : (config.addBase base).layerNames = config.layerNames ++ base.layerNames := by
    rw [layerNames, addBase, List.flatMap_append, List.flatMap_singleton, layerNames]
  rw [layerVariables_eq, hnames, List.eraseDups_append, layerVariables_eq, newVariables]

/-- The new variables are the layer variables of the base that are not there yet, as they first
occur. -/
theorem firstOccurrences_newVariables :
    FirstOccurrences base.layerNames (fun name => name ∉ config.layerNames)
      (config.newVariables base) := by
  have hkept : ∀ name ∈ config.newVariables base, (!config.layerNames.elem name) = true :=
    fun name hname => (List.mem_filter.mp (List.mem_eraseDups.mp hname)).2
  constructor
  · intro name
    simp [newVariables, List.removeAll]
  · refine (pairwise_idxOf_eraseDups _).imp_of_mem fun hfirst hlater hlt => ?_
    exact idxOf_lt_of_filter (p := fun name => !config.layerNames.elem name) (hkept _ hfirst)
      (hkept _ hlater) hlt

variable {config base}

/-- A variable that is new is on the way to no scope that was there. -/
theorem not_mem_variableNames_of_new {scope : Scope} (hscope : scope ∈ config.scopes) {name : String}
    (hnew : name ∈ config.newVariables base) : name ∉ scope.variableNames := by
  intro hname
  obtain ⟨hlayer, hfresh⟩ := ((config.firstOccurrences_newVariables base).mem_iff name).mp hnew
  obtain ⟨inner, hinner, rfl⟩ := List.mem_map.mp hlayer
  obtain ⟨hbase, hmem⟩ := mem_base_scopes hscope
  obtain ⟨owner, howner, heq, -⟩ := Base.exists_owner hmem hname
  -- what is on the way is a base, whose variable no layer has, or a layer, which is not new
  by_cases hroot : owner.layers = []
  · refine Scope.variableName_ne_variableName (Scope.layers_ne_nil_of_mem_within hinner) owner.base ?_
    rw [← heq, Scope.variableName, hroot, Scope.variableNameOf]
  · have hold := variableName_mem_layerVariables (mem_scopes.mpr ⟨scope.base, hbase, howner⟩) hroot
    rw [layerVariables_eq, List.mem_eraseDups, heq] at hold
    exact hfresh hold

end Config

/-! ## What a record gains -/

/-- A record gains the demand that variables not be set: it stands between the demands on variables
that the record had and the guard of its device, and all else is as it was. -/
def Record.Gains (old new : Record) (names : List String) : Prop :=
  ∃ demands devices, old.guards = demands ++ devices ∧
    (∀ guard ∈ demands, guard.name?.isSome) ∧ (∀ guard ∈ devices, guard.name? = none) ∧
    new = { old with guards := demands ++ names.map Guard.idle ++ devices }

/-- The record of an origin grows from `old` to `new`: that of the binding of a scope gains demands,
and any other stays the same. -/
def Origin.Grows (names : List String) (old new : Record) : Origin → Prop
  | .content .. => old.Gains new names
  | .trigger _ | .toggle .. | .ofRule .. | .ofSubstitution .. => new = old

/-- The bindings of a scope also forbid the new layers. -/
theorem Scope.bindingGuards_addBase {config : Config} {scope : Scope} (h : scope ∈ config.scopes)
    (base : Base) :
    scope.bindingGuards (config.addBase base) (config.addBase base).layerVariables =
      scope.variableNames.map Guard.armed ++
        (config.layerVariables.filter fun name => !scope.variableNames.contains name).map
          Guard.idle ++
        (config.newVariables base).map Guard.idle ++ config.deviceGuards scope.base.device := by
  have hnew : (config.newVariables base).filter (fun name => !scope.variableNames.contains name) =
      config.newVariables base := by
    rw [List.filter_eq_self]
    intro name hname
    simpa using Config.not_mem_variableNames_of_new h hname
  rw [bindingGuards, config.layerVariables_addBase, List.filter_append, hnew, List.map_append,
    ← List.append_assoc]
  rfl

/-- Every record grows by the new layers of the base. -/
theorem Origin.grows_addBase {config : Config} {origin : Origin} (h : origin.DeclaredIn config)
    (base : Base) :
    origin.Grows (config.newVariables base) (origin.record config)
      (origin.record (config.addBase base)) := by
  have hdevices : (config.addBase base).devices = config.devices := rfl
  have hsame : origin.content? = none →
      origin.record (config.addBase base) = origin.record config :=
    fun hcontent => record_eq_of_guards_eq (guards_congr hdevices hcontent)
  cases origin with
  | content scope binding =>
      refine ⟨scope.variableNames.map Guard.armed ++
        (config.layerVariables.filter fun name => !scope.variableNames.contains name).map Guard.idle,
        config.deviceGuards scope.base.device, rfl, ?_, ?_, ?_⟩
      · intro guard hguard
        rcases List.mem_append.mp hguard with hguard | hguard <;>
          obtain ⟨name, -, rfl⟩ := List.mem_map.mp hguard <;> rfl
      · exact List.filterMap_eq_nil_iff.mp
          (config.scopedBy_deviceGuards scope.base.device).variables_eq_nil
      · rw [← Scope.bindingGuards_addBase h.1]
        exact record_congr config (config.addBase base) (.content scope binding)
  | _ => exact hsame rfl

/-! ## Extensions -/

namespace Config

/-- The document `e` of a configuration with a base added holds the records of the document `d`
without it, in their order, grown by what is new; and the modifications are the same. -/
structure ExtendedBy (config : Config) (base : Base) (d e : Document) : Prop where
  traced : config.Traced d config.origins
  kept : (config.origins.map (Origin.record (config.addBase base))).Sublist e.records
  grown : ∃ new, FirstOccurrences base.layerNames (fun name => name ∉ config.layerNames) new ∧
    ∀ origin ∈ config.origins,
      origin.Grows new (origin.record config) (origin.record (config.addBase base))
  simpleModifications : e.simpleModifications = d.simpleModifications

/-- The documents `d` of `a` and `e` of `b` have the groups of the same bases, each before those of
its own rules and devices. -/
structure SameBases (a b : Config) (d e : Document) : Prop where
  groups : d.groups = a.baseGroups ++ a.ruleGroups ++ a.deviceGroups
  other_groups : e.groups = a.baseGroups ++ b.ruleGroups ++ b.deviceGroups

/-- The origins of a base that is added come between those of the bases and all others. -/
theorem origins_sublist_addBase (config : Config) (base : Base) :
    config.origins.Sublist (config.addBase base).origins := by
  have hbases : (config.bases.flatMap Base.outline).Sublist
      ((config.addBase base).bases.flatMap Base.outline) := by
    rw [addBase, List.flatMap_append]
    exact List.sublist_append_left _ _
  exact ((hbases.append_right _).append_right _).flatMap Prod.snd

/-- Adding a base extends the document. -/
theorem extendedBy_output (config : Config) (base : Base) :
    config.ExtendedBy base config.output (config.addBase base).output where
  traced := config.traced_output
  kept := by
    rw [records_output]
    exact (config.origins_sublist_addBase base).map _
  grown := ⟨config.newVariables base, config.firstOccurrences_newVariables base,
    fun _ horigin => Origin.grows_addBase (config.declaredIn_of_mem_origins horigin) base⟩
  simpleModifications := rfl

/-- Configurations with the same bases and devices have the same groups of bases. -/
theorem sameBases_output {a b : Config} (hbases : a.bases = b.bases)
    (hdevices : a.devices = b.devices) : a.SameBases b a.output b.output := by
  have hrecord : ∀ origin : Origin, origin.record a = origin.record b := by
    refine fun origin => Origin.record_eq_of_guards_eq ?_
    cases origin with
    | content scope binding =>
        rw [Origin.guards, Origin.guards, Scope.bindingGuards, Scope.bindingGuards, layerVariables,
          layerVariables, hbases, deviceGuards_congr hdevices]
    | _ => exact Origin.guards_congr hdevices rfl
  have hgroups : a.baseGroups = b.baseGroups := by
    rw [baseGroups, baseGroups, hbases]
    refine List.map_congr_left fun group _ => ?_
    rw [Origin.group, Origin.group, funext hrecord]
  refine ⟨a.groups_output, ?_⟩
  rw [hgroups]
  exact b.groups_output

end Config

/-- What is added to a configuration leaves its records in their order. A base makes the bindings of
scopes forbid its new layers and changes nothing else; a rule or a substitution changes no record of
any base. -/
theorem Compiler.extension_keeps_records (compiler : Compiler) (config : Config) :
    (∀ base d e, (compiler.compile config).2 = .ok d →
      (compiler.compile (config.addBase base)).2 = .ok e → config.ExtendedBy base d e) ∧
    (∀ rule d e, (compiler.compile config).2 = .ok d →
      (compiler.compile (config.addRule rule)).2 = .ok e →
        config.SameBases (config.addRule rule) d e) ∧
    ∀ substitution d e, (compiler.compile config).2 = .ok d →
      (compiler.compile (config.addSubstitution substitution)).2 = .ok e →
        config.SameBases (config.addSubstitution substitution) d e := by
  refine ⟨fun base d e hd he => ?_, fun rule d e hd he => ?_, fun substitution d e hd he => ?_⟩ <;>
    obtain ⟨-, rfl⟩ := compile_eq_ok_iff.mp hd <;> obtain ⟨-, rfl⟩ := compile_eq_ok_iff.mp he
  · exact config.extendedBy_output base
  · exact Config.sameBases_output rfl rfl
  · exact Config.sameBases_output rfl rfl

/-- A base on the first of two devices, with a layer in it, and a substitution on the second. -/
def Config.hands : Config where
  devices := [⟨.product 7504 24926, .onDevice, false⟩, ⟨.builtIn, .onDevice, false⟩]
  substitutions := [
    { source := ⟨.capsLock, ∅⟩, device := some ⟨1⟩, destination := some ⟨.key .f16, ∅⟩ }]
  bases := [{
    trigger := ⟨.f16, ∅⟩
    device := some ⟨0⟩
    layers := .cons
      { key := .w, bindings := [{ source := ⟨.h, ∅⟩, destinations := [⟨.key .leftArrow, ∅⟩] }] }
      .nil .nil }]

/-- The same base on the other device, with one layer nested in that layer and another beside it. -/
def Base.otherHand : Base where
  trigger := ⟨.f16, ∅⟩
  device := some ⟨1⟩
  layers := .cons { key := .w } (.cons { key := .r } .nil .nil) (.cons { key := .t } .nil .nil)

/-- A rule that binds one key on all devices. -/
def Rule.onBothHands : Rule where
  bindings := [{ source := ⟨.a, ∅⟩, destinations := [⟨.key .b, ∅⟩] }]

/-- A substitution of one key on all devices. -/
def Substitution.onBothHands : Substitution where
  source := ⟨.b, ∅⟩
  destination := some ⟨.key .a, ∅⟩

/-- The binding of the first hand comes to forbid the two layers that only the other hand has. -/
theorem Compiler.extension_keeps_records_hands :
    (({} : Compiler).compile .hands).2 = .ok Config.hands.output ∧
      Config.hands.ExtendedBy .otherHand Config.hands.output (Config.hands.addBase .otherHand).output ∧
      Config.hands.SameBases (Config.hands.addRule .onBothHands) Config.hands.output
        (Config.hands.addRule .onBothHands).output ∧
      Config.hands.SameBases (Config.hands.addSubstitution .onBothHands) Config.hands.output
        (Config.hands.addSubstitution .onBothHands).output ∧
      (Config.hands.output.records[2]?).map Record.guards =
        some [.var "var_f16" true, .var "lay_var_f16_w" true,
          .ofDevice ⟨.product 7504 24926, .onDevice, false⟩] ∧
      ((Config.hands.addBase .otherHand).output.records[2]?).map Record.guards =
        some [.var "var_f16" true, .var "lay_var_f16_w" true, .var "lay_var_f16_w_r" false,
          .var "lay_var_f16_t" false, .ofDevice ⟨.product 7504 24926, .onDevice, false⟩] := by
  have hhands : (({} : Compiler).compile .hands).2 = .ok Config.hands.output :=
    compile_of_passes (by decide +kernel)
  obtain ⟨hbase, hrule, hsubstitution⟩ := extension_keeps_records {} .hands
  refine ⟨hhands, hbase _ _ _ hhands (compile_of_passes (by decide +kernel)),
    hrule _ _ _ hhands (compile_of_passes (by decide +kernel)),
    hsubstitution _ _ _ hhands (compile_of_passes (by decide +kernel)), ?_, ?_⟩
  · decide +kernel
  · decide +kernel

end KeyRemap
