import KeyRemap.Config.Checks
import KeyRemap.Proofs.Origin
import KeyRemap.Proofs.Variables

/-!
# Replacing bindings, layers and bases

A replacement puts other bindings, layers and bases in the place of those that are declared. It
keeps what they are reached by and what they send: triggers, keys, sources, destinations and the
nesting of layers. So every scope stays where it is, under the same path and the same variable, and
every record keeps its guards (`Replacement.guards_origin`).
-/

namespace KeyRemap

/-- Other bindings, layers and bases for those that are declared, reached by the same keys and
sending the same. -/
structure Replacement where
  binding : ScopedBinding → ScopedBinding
  layer : Layer → Layer
  base : Base → Base
  source_binding : ∀ b, (binding b).source = b.source
  destinations_binding : ∀ b, (binding b).destinations = b.destinations
  key_layer : ∀ l, (layer l).key = l.key
  bindings_layer : ∀ l, (layer l).bindings = l.bindings.map binding
  trigger_base : ∀ b, (base b).trigger = b.trigger
  device_base : ∀ b, (base b).device = b.device
  bindings_base : ∀ b, (base b).bindings = b.bindings.map binding
  layers_base : ∀ b, (base b).layers = b.layers.map layer

namespace Replacement

variable (r : Replacement)

/-- The configuration with its bases replaced. -/
def config (config : Config) : Config :=
  { config with bases := config.bases.map r.base }

/-- The scope with its base and all layers on the way and in it replaced. -/
def scope (scope : Scope) : Scope :=
  ⟨r.base scope.base, scope.layers.map r.layer, scope.nested.map r.layer⟩

/-- The origin with what it tells of replaced. -/
def origin : Origin → Origin
  | .trigger base => .trigger (r.base base)
  | .toggle parent layer nested => .toggle (r.scope parent) (r.layer layer) (nested.map r.layer)
  | .content scope binding => .content (r.scope scope) (r.binding binding)
  | .ofRule rule binding => .ofRule rule binding
  | .ofSubstitution substitution id destination => .ofSubstitution substitution id destination

/-! ## Scopes -/

/-- The scope of a base is replaced with the base. -/
theorem scope_ofBase (base : Base) : Scope.ofBase (r.base base) = r.scope (.ofBase base) := by
  rw [Scope.ofBase, r.layers_base]
  rfl

/-- Entering a layer is the same step after the replacement. -/
theorem scope_enter (scope : Scope) (layer : Layer) (nested : Forest Layer) :
    (r.scope scope).enter (r.layer layer) (nested.map r.layer) =
      r.scope (scope.enter layer nested) := by
  simp [Scope.enter, Replacement.scope]

/-- The scopes of the layers of a base are replaced one by one. -/
theorem layerScopes_base (base : Base) :
    (r.base base).layerScopes = base.layerScopes.map r.scope :=
  Base.layerScopes_map r.layers_base base

/-- The scopes of a base are replaced one by one. -/
theorem scopes_base (base : Base) : (r.base base).scopes = base.scopes.map r.scope :=
  Base.scopes_map r.layers_base base

/-- The bindings of a scope are replaced one by one. -/
theorem bindings_scope (scope : Scope) :
    (r.scope scope).bindings = scope.bindings.map r.binding :=
  Scope.bindings_map r.bindings_base r.bindings_layer scope

/-- The bindings of a scope that send something are replaced one by one. -/
theorem emitting_scope (scope : Scope) :
    (r.scope scope).emitting = scope.emitting.map r.binding := by
  rw [Scope.emitting, r.bindings_scope, List.filter_map, Scope.emitting]
  congr 1
  refine List.filter_congr fun binding _ => ?_
  rw [Function.comp_apply, r.destinations_binding]

/-! ## Paths and variables -/

/-- A replacement keeps the keys of layers. -/
theorem map_key_layers (layers : List Layer) :
    (layers.map r.layer).map Layer.key = layers.map Layer.key := by
  rw [List.map_map]
  exact List.map_congr_left fun layer _ => r.key_layer layer

/-- A replacement keeps the combination that toggles a layer. -/
theorem trigger_layer (layer : Layer) : (r.layer layer).trigger = layer.trigger := by
  rw [Layer.trigger, r.key_layer, Layer.trigger]

/-- A replacement keeps the path of a scope. -/
theorem path_scope (scope : Scope) : (r.scope scope).path = scope.path := by
  have hlayers : (scope.layers.map r.layer).map Layer.trigger = scope.layers.map Layer.trigger := by
    rw [List.map_map]
    exact List.map_congr_left fun layer _ => r.trigger_layer layer
  rw [Scope.path, Replacement.scope, r.trigger_base, hlayers, Scope.path]

/-- A replacement keeps the variable of a scope. -/
theorem variableName_scope (scope : Scope) : (r.scope scope).variableName = scope.variableName :=
  Scope.variableNameOf_congr (r.trigger_base scope.base) (r.map_key_layers scope.layers)

/-- A replacement keeps the variables on the way to a scope. -/
theorem variableNames_scope (scope : Scope) :
    (r.scope scope).variableNames = scope.variableNames := by
  rw [Scope.variableNames, Scope.variableNames, Replacement.scope, List.length_map]
  refine List.map_congr_left fun depth _ => ?_
  rw [← List.map_take]
  exact Scope.variableNameOf_congr (r.trigger_base scope.base) (r.map_key_layers _)

/-- A replacement keeps the variables of a list of scopes. -/
theorem map_variableName_scopes (scopes : List Scope) :
    (scopes.map r.scope).map Scope.variableName = scopes.map Scope.variableName := by
  rw [List.map_map]
  exact List.map_congr_left fun scope _ => r.variableName_scope scope

/-- A replacement keeps the layer variables of a base. -/
theorem layerVariables_base (base : Base) :
    (r.base base).layerVariables = base.layerVariables := by
  rw [Base.layerVariables, r.layerScopes_base, r.map_variableName_scopes, Base.layerVariables]

/-- A replacement keeps the layer variables of a configuration. -/
theorem layerVariables_config (config : Config) :
    (r.config config).layerVariables = config.layerVariables := by
  rw [Config.layerVariables, Config.layerVariables, Replacement.config, List.flatMap_map]
  simp only [r.layerScopes_base, ← List.map_flatMap, r.map_variableName_scopes]

/-! ## Keys -/

/-- A replacement keeps which of some keys a scope binds first. -/
theorem bound?_scope (scope : Scope) (keys : List Key) :
    (r.scope scope).bound? keys = scope.bound? keys := by
  have hkeys : ((fun binding => keys.contains binding.source.key) ∘ r.binding) =
      fun binding => keys.contains binding.source.key := by
    funext binding
    rw [Function.comp_apply, r.source_binding]
  have hsource : ((fun binding : ScopedBinding => binding.source.key) ∘ r.binding) =
      fun binding => binding.source.key := by
    funext binding
    rw [Function.comp_apply, r.source_binding]
  rw [Scope.bound?, r.bindings_scope, List.find?_map, Option.map_map, hkeys, hsource, Scope.bound?]

/-- A layer keeps the key by which it is armed. -/
theorem key_getLast? (scope : Scope) :
    (r.scope scope).layers.getLast?.map Layer.key = scope.layers.getLast?.map Layer.key := by
  rw [← List.getLast?_map, Replacement.scope, r.map_key_layers, List.getLast?_map]

/-- A replacement keeps the keys of the roots of a forest of layers. -/
theorem map_key_roots (forest : Forest Layer) :
    (forest.map r.layer).roots.map Layer.key = forest.roots.map Layer.key := by
  rw [Forest.roots_map, r.map_key_layers]

/-- A replacement keeps the keys of all layers of a base. -/
theorem map_key_preorder (base : Base) :
    (r.base base).layers.preorder.map Layer.key = base.layers.preorder.map Layer.key := by
  rw [r.layers_base, Forest.preorder_map, r.map_key_layers]

/-! ## Origins -/

/-- The origins of the bindings of a scope are replaced one by one. -/
theorem bindingOrigins_scope (scope : Scope) :
    (r.scope scope).bindingOrigins = scope.bindingOrigins.map r.origin := by
  rw [Scope.bindingOrigins, r.emitting_scope, Scope.bindingOrigins, List.map_map, List.map_map]
  rfl

/-- The origins of the layers of a scope are replaced one by one. -/
theorem layerOrigins_scope (scope : Scope) (forest : Forest Layer) :
    (r.scope scope).layerOrigins (forest.map r.layer) =
      (scope.layerOrigins forest).map r.origin := by
  induction forest generalizing scope with
  | nil => rfl
  | cons layer nested next ihn ihs =>
      rw [Forest.map, Scope.layerOrigins, r.scope_enter, r.bindingOrigins_scope, ihn, ihs,
        Scope.layerOrigins, List.map_cons, List.map_append, List.map_append]
      rfl

/-- The origins of a base are replaced one by one. -/
theorem declared_base (base : Base) : (r.base base).declared = base.declared.map r.origin := by
  rw [Base.declared, r.scope_ofBase, r.bindingOrigins_scope, r.layers_base, r.layerOrigins_scope,
    Base.declared, List.map_cons, List.map_append]
  rfl

/-- The origins of a configuration are replaced one by one. -/
theorem declared_config (config : Config) :
    (r.config config).declared = config.declared.map r.origin := by
  have hrules : (config.rules.flatMap Rule.origins).map r.origin =
      config.rules.flatMap Rule.origins := by
    rw [List.map_flatMap]
    refine List.flatMap_congr fun rule _ => ?_
    rw [Rule.origins, List.map_map]
    rfl
  have hdevices : (config.deviceOrigins.map Prod.snd).map r.origin =
      config.deviceOrigins.map Prod.snd := by
    rw [List.map_map]
    refine List.map_congr_left fun entry hentry => ?_
    obtain ⟨substitution, -, horigin⟩ := List.mem_filterMap.mp hentry
    rw [Substitution.origin?] at horigin
    split at horigin
    · cases horigin
      rfl
    · cases horigin
  have hbases : (r.config config).bases.flatMap Base.declared =
      (config.bases.flatMap Base.declared).map r.origin := by
    rw [Replacement.config, List.flatMap_map, List.map_flatMap]
    simp only [r.declared_base]
  rw [Config.declared, hbases, Config.declared, List.map_append, List.map_append, hrules, hdevices]
  rfl

/-- A replacement changes no guard of any record. -/
theorem guards_origin (config : Config) (origin : Origin) :
    (r.origin origin).guards (r.config config) = origin.guards config := by
  cases origin with
  | trigger base =>
      show (r.base base).triggerGuards _ = base.triggerGuards config
      rw [Base.triggerGuards, r.layerVariables_base, r.device_base]
      rfl
  | toggle parent layer nested =>
      show (r.scope parent).toggleGuards _ = parent.toggleGuards config
      rw [Scope.toggleGuards, r.variableNames_scope, Replacement.scope, r.device_base]
      rfl
  | content scope binding =>
      show (r.scope scope).bindingGuards _ _ = scope.bindingGuards config _
      rw [Scope.bindingGuards, r.variableNames_scope, r.layerVariables_config, Replacement.scope,
        r.device_base]
      rfl
  | ofRule rule binding => rfl
  | ofSubstitution substitution id destination => rfl

end Replacement

end KeyRemap
