import KeyRemap.Proofs.Inventory
import KeyRemap.Proofs.Replacement

/-!
# Setting apart

A binding, a layer or a part of a base may be set apart in a group of its own. `Config.united` is
the configuration in which nothing is. It makes the same checks and has the same records, so
whatever is set apart, a configuration compiles or fails alike and its records are only grouped in
another way (`Compiler.separation_regroups`).
-/

namespace KeyRemap

/-! ## Nothing set apart -/

/-- The binding within the group around it. -/
def ScopedBinding.united (binding : ScopedBinding) : ScopedBinding :=
  { binding with separate := false }

/-- The layer within the group around it, and all its bindings with it. -/
def Layer.united (layer : Layer) : Layer :=
  { layer with separate := false, bindings := layer.bindings.map ScopedBinding.united }

/-- The base with all that it arms in one group. -/
def Base.united (base : Base) : Base :=
  { base with
    bindings := base.bindings.map ScopedBinding.united
    layers := base.layers.map Layer.united }

/-- The configuration with nothing set apart in any base. -/
def Config.united (config : Config) : Config :=
  { config with bases := config.bases.map Base.united }

/-- Two configurations differ at most in what is set apart. -/
def Config.SameButSeparation (a b : Config) : Prop :=
  a.united = b.united

instance (a b : Config) : Decidable (a.SameButSeparation b) :=
  inferInstanceAs (Decidable (a.united = b.united))

/-- What is set apart changes neither what anything is reached by nor what it sends. -/
def Replacement.unite : Replacement where
  binding := ScopedBinding.united
  layer := Layer.united
  base := Base.united
  source_binding _ := rfl
  destinations_binding _ := rfl
  key_layer _ := rfl
  bindings_layer _ := rfl
  trigger_base _ := rfl
  device_base _ := rfl
  bindings_base _ := rfl
  layers_base _ := rfl

/-- The scope with nothing set apart in it. -/
def Scope.united (scope : Scope) : Scope :=
  Replacement.unite.scope scope

/-- The origin with nothing set apart in what it tells of. -/
def Origin.united (origin : Origin) : Origin :=
  Replacement.unite.origin origin

/-! ## The same records -/

/-- Descriptions tell the way to a scope and not what is set apart. -/
theorem Scope.description_united (scope : Scope) :
    scope.united.description = scope.description := by
  show (scope.layers.map Layer.united).foldl _ scope.base.fullDescription = _
  rw [List.foldl_map]
  rfl

/-- The record of an origin is the same with nothing set apart. -/
theorem Origin.record_united (config : Config) (origin : Origin) :
    origin.united.record config.united = origin.record config := by
  have hguards := Replacement.unite.guards_origin config origin
  cases origin with
  | trigger base =>
      have htrigger : base.united.triggerGuards config.united = base.triggerGuards config := hguards
      show base.united.triggerRecord config.united = base.triggerRecord config
      rw [Base.triggerRecord, htrigger]
      rfl
  | toggle parent layer nested =>
      have htoggle : parent.united.toggleGuards config.united = parent.toggleGuards config :=
        hguards
      let own := parent.united.enter layer.united (nested.map Layer.united)
      have hname : own.variableName = (parent.enter layer nested).variableName := by
        rw [← Replacement.unite.variableName_scope (parent.enter layer nested),
          ← Replacement.unite.scope_enter]
        rfl
      show parent.united.toggle config.united own layer.united =
        parent.toggle config (parent.enter layer nested) layer
      rw [Scope.toggle, htoggle, hname]
      rfl
  | content scope binding =>
      show scope.united.bindingRecord _ binding.toBinding binding.sent = _
      rw [Scope.bindingRecord, Scope.place, scope.description_united]
      exact congrArg (fun guards => Record.mk _ _ _ _ _ _ _ guards _) hguards
  | ofRule rule binding => rfl
  | ofSubstitution substitution id destination => rfl

/-- A configuration with nothing set apart declares the same records. -/
theorem Config.declared_records_united (config : Config) :
    config.united.declared.map (Origin.record config.united) =
      config.declared.map (Origin.record config) := by
  have hdeclared : config.united.declared = config.declared.map Origin.united :=
    Replacement.unite.declared_config config
  rw [hdeclared, List.map_map]
  exact List.map_congr_left fun origin _ => origin.record_united config

/-! ## The same checks -/

namespace Scope

variable (config : Config) (scope : Scope)

/-- The bindings of a scope are united one by one. -/
theorem bindings_united : scope.united.bindings = scope.bindings.map ScopedBinding.united :=
  Replacement.unite.bindings_scope scope

/-- The path of a scope does not depend on what is set apart. -/
theorem path_united : scope.united.path = scope.path :=
  Replacement.unite.path_scope scope

/-- Bindings are checked alike whatever is set apart. -/
theorem bindingChecks_united :
    scope.united.bindingChecks config.united = scope.bindingChecks config := by
  rw [bindingChecks, bindings_united, List.flatMap_map, description_united, path_united,
    bindingChecks]
  rfl

/-- It does not depend on what is set apart which of some keys a scope binds first. -/
theorem bound?_united (keys : List Key) : scope.united.bound? keys = scope.bound? keys :=
  Replacement.unite.bound?_scope scope keys

/-- Keys that have a role are checked alike whatever is set apart. -/
theorem roleChecks_united (keys : List Key) :
    scope.united.roleChecks keys = scope.roleChecks keys := by
  rw [roleChecks, bound?_united, description_united, roleChecks]

/-- The keys of a scope are checked alike whatever is set apart. -/
theorem keyChecks_united : scope.united.keyChecks = scope.keyChecks := by
  have hown : scope.united.layers.getLast?.map Layer.key = scope.layers.getLast?.map Layer.key :=
    Replacement.unite.key_getLast? scope
  have hnested : scope.united.nested.roots.map Layer.key = scope.nested.roots.map Layer.key :=
    Replacement.unite.map_key_roots scope.nested
  rw [keyChecks, selfChecks, hown, hnested, bound?_united, description_united, roleChecks_united,
    keyChecks, selfChecks]

/-- The variable of a scope is checked alike whatever is set apart. -/
theorem ownCheck_united : scope.united.ownCheck = scope.ownCheck := by
  have hname : scope.united.variableName = scope.variableName :=
    Replacement.unite.variableName_scope scope
  rw [ownCheck, hname, path_united, description_united, ownCheck]

end Scope

/-- A base is checked alike whatever is set apart. -/
theorem Base.checks_united (config : Config) (base : Base) :
    base.united.checks config.united = base.checks config := by
  have hroot : Scope.ofBase base.united = (Scope.ofBase base).united := rfl
  have hkeys : base.united.layers.preorder.map Layer.key = base.layers.preorder.map Layer.key :=
    Replacement.unite.map_key_preorder base
  have hlayers : base.united.layerScopes = base.layerScopes.map Scope.united :=
    Replacement.unite.layerScopes_base base
  have hscopes : base.united.scopes = base.scopes.map Scope.united :=
    Replacement.unite.scopes_base base
  have howns : base.united.scopes.map Scope.ownCheck = base.scopes.map Scope.ownCheck := by
    rw [hscopes, List.map_map]
    exact List.map_congr_left fun scope _ => scope.ownCheck_united
  simp only [checks, hroot, hkeys, Scope.roleChecks_united, howns]
  simp only [hlayers, hscopes, List.flatMap_map, Scope.keyChecks_united, Scope.bindingChecks_united]
  rfl

/-- A configuration is checked alike whatever is set apart. -/
theorem Config.checks_united (config : Config) : config.united.checks = config.checks := by
  have hbases : config.united.bases.flatMap (Base.checks config.united) =
      config.bases.flatMap (Base.checks config) := by
    rw [united, List.flatMap_map]
    exact List.flatMap_congr fun base _ => base.checks_united config
  rw [checks, hbases, checks]
  rfl

/-! ## Regrouping -/

namespace Config

/-- The groups of the bases in the document. -/
def baseGroups (config : Config) : List Group :=
  (config.bases.flatMap Base.outline).map (Origin.group config)

/-- The groups of the rules in the document. -/
def ruleGroups (config : Config) : List Group :=
  config.rules.map fun rule => Origin.group config (rule.fullDescription, rule.origins)

/-- The groups of the substitutions on single devices in the document. -/
def deviceGroups (config : Config) : List Group :=
  Substitution.deviceGroups
    (config.deviceOrigins.map fun origin => (origin.1, origin.2.record config))

/-- The document has the groups of the bases, then those of the rules and then those of devices. -/
theorem groups_output (config : Config) :
    config.output.groups = config.baseGroups ++ config.ruleGroups ++ config.deviceGroups := by
  rw [deviceGroups, deviceGroups_eq, output, outline, List.map_append, List.map_append,
    List.map_map]
  rfl

/-- The groups of the rules do not depend on what is set apart. -/
theorem ruleGroups_united (config : Config) : config.united.ruleGroups = config.ruleGroups := by
  refine List.map_congr_left fun rule _ => ?_
  rw [Origin.group, Origin.group, Rule.origins, List.map_map, List.map_map]
  rfl

/-- The groups of the devices do not depend on what is set apart. -/
theorem deviceGroups_united (config : Config) :
    config.united.deviceGroups = config.deviceGroups := by
  rw [deviceGroups, deviceGroups, deviceOrigins, deviceOrigins,
    ← Substitution.deviceRecords_sentOutcome, ← Substitution.deviceRecords_sentOutcome]
  rfl

/-- The documents `d` of `a` and `e` of `b` differ at most in how the records of the bases are
grouped. -/
structure Regrouped (a b : Config) (d e : Document) : Prop where
  records : d.records.Perm e.records
  devices : d.devices = e.devices
  simpleModifications : d.simpleModifications = e.simpleModifications
  settings : d.profile = e.profile ∧ d.showInMenuBar = e.showInMenuBar
  groups : d.groups = a.baseGroups ++ a.ruleGroups ++ a.deviceGroups
  other_groups : e.groups = b.baseGroups ++ a.ruleGroups ++ a.deviceGroups

variable {a b : Config}

/-- Configurations that differ at most in what is set apart are equal with nothing set apart. -/
theorem SameButSeparation.united_eq (h : a.SameButSeparation b) : a.united = b.united := h

/-- Configurations that differ at most in what is set apart make the same checks. -/
theorem SameButSeparation.checks_eq (h : a.SameButSeparation b) : a.checks = b.checks := by
  rw [← a.checks_united, h.united_eq, b.checks_united]

/-- Configurations that differ at most in what is set apart have the same records, in some order. -/
theorem SameButSeparation.records_perm (h : a.SameButSeparation b) :
    a.output.records.Perm b.output.records := by
  have hdeclared : a.declared.map (Origin.record a) = b.declared.map (Origin.record b) := by
    rw [← a.declared_records_united, h.united_eq, b.declared_records_united]
  rw [a.records_output, b.records_output]
  refine (a.origins_perm_declared.map _).trans ?_
  rw [hdeclared]
  exact (b.origins_perm_declared.map _).symm

/-- What is not made from the bases is the same whatever is set apart in them. -/
theorem SameButSeparation.regrouped (h : a.SameButSeparation b) :
    a.Regrouped b a.output b.output where
  records := h.records_perm
  devices := congrArg (fun config => config.output.devices) h.united_eq
  simpleModifications := congrArg (fun config => config.output.simpleModifications) h.united_eq
  settings := ⟨(congrArg profile h.united_eq :), (congrArg showInMenuBar h.united_eq :)⟩
  groups := a.groups_output
  other_groups := by
    rw [b.groups_output, ← a.ruleGroups_united, ← a.deviceGroups_united, h.united_eq,
      b.ruleGroups_united, b.deviceGroups_united]

end Config

/-- Whatever is set apart, both configurations fail with the same violation, or both compile and the
records of their bases are only grouped in another way. -/
theorem Compiler.separation_regroups (compiler : Compiler) {a b : Config}
    (h : a.SameButSeparation b) :
    (∃ violation, (compiler.compile a).2 = .error violation ∧
      (compiler.compile b).2 = .error violation) ∨
    ∃ d e, (compiler.compile a).2 = .ok d ∧ (compiler.compile b).2 = .ok e ∧ a.Regrouped b d e := by
  have hvalidate : a.validate = b.validate := by
    rw [Config.validate, h.checks_eq, Config.validate]
  cases hviolation : b.validate.2 with
  | some violation =>
      exact Or.inl ⟨violation, compile_eq_error_iff.mpr (hvalidate ▸ hviolation),
        compile_eq_error_iff.mpr hviolation⟩
  | none =>
      have ha : a.Valid := a.validate_passes_iff.mp (hvalidate ▸ hviolation)
      have hb : b.Valid := b.validate_passes_iff.mp hviolation
      exact Or.inr ⟨a.output, b.output, compile_eq_ok_iff.mpr ⟨ha, rfl⟩,
        compile_eq_ok_iff.mpr ⟨hb, rfl⟩, h.regrouped⟩

/-- The layers and the binding that are set apart on the desk may as well not be. -/
theorem Compiler.separation_regroups_desk :
    Config.desk.SameButSeparation Config.desk.united ∧ Config.desk ≠ Config.desk.united ∧
      ∃ d e, (({} : Compiler).compile .desk).2 = .ok d ∧
        (({} : Compiler).compile Config.desk.united).2 = .ok e ∧
        Config.desk.Regrouped Config.desk.united d e ∧
        d.groups.length = 6 ∧ e.groups.length = 3 := by
  have hsame : Config.desk.SameButSeparation Config.desk.united := by decide +kernel
  refine ⟨hsame, by decide +kernel, ?_⟩
  rcases separation_regroups {} hsame with ⟨violation, herror, -⟩ | ⟨d, e, hd, he, hregrouped⟩
  · rw [compile_desk] at herror
    cases herror
  · refine ⟨d, e, hd, he, hregrouped, ?_, ?_⟩
    · rw [(compile_eq_ok_iff.mp hd).2]
      rfl
    · rw [(compile_eq_ok_iff.mp he).2]
      rfl

end KeyRemap
