import KeyRemap.Config

/-!
# Scopes

A scope is a place where bindings live: a base, or one of the layers nested in it. A scope is
reached by arming its base and then each layer on the way, from the outermost to its own. That way
gives the scope its variable, its description and its activation path.
-/

namespace KeyRemap

/-- A base, the layers on the way to the scope (the last one is its own), and the layers declared
directly in it. -/
structure Scope where
  base : Base
  layers : List Layer
  nested : Forest Layer
  deriving DecidableEq, Repr

namespace Scope

/-- The scope of a base itself. -/
def ofBase (base : Base) : Scope := ⟨base, [], base.layers⟩

/-- The scope of a layer that is declared directly in a scope. -/
def enter (scope : Scope) (layer : Layer) (nested : Forest Layer) : Scope :=
  ⟨scope.base, scope.layers ++ [layer], nested⟩

/-- The scopes of the layers of a forest that is declared directly in a scope, each before the
scopes nested in it. -/
def within (scope : Scope) : Forest Layer → List Scope
  | .nil => []
  | .cons layer nested next =>
    let own := scope.enter layer nested
    own :: (own.within nested ++ scope.within next)

/-- The bindings declared directly in a scope. -/
def bindings (scope : Scope) : List ScopedBinding :=
  match scope.layers.getLast? with
  | some layer => layer.bindings
  | none => scope.base.bindings

/-- The combinations to be held, from that of the base on, for a scope to be in force. -/
def path (scope : Scope) : List Combo :=
  scope.base.trigger :: scope.layers.map Layer.trigger

/-- The description of a scope. -/
def description (scope : Scope) : String :=
  scope.layers.foldl (fun parent layer => layer.fullDescription parent) scope.base.fullDescription

/-- The variable of the scope that is reached from a base through layers. -/
def variableNameOf (base : Base) : List Layer → String
  | [] => base.variableName
  | layers =>
    "lay_" ++ base.variableName ++ String.join (layers.map fun layer => "_" ++ layer.key.name)

/-- The variable that is set while a scope is armed. -/
def variableName (scope : Scope) : String :=
  variableNameOf scope.base scope.layers

/-- The variables of the scopes on the way, from that of the base to that of the scope itself. -/
def variableNames (scope : Scope) : List String :=
  (List.range (scope.layers.length + 1)).map fun depth =>
    variableNameOf scope.base (scope.layers.take depth)

/-- On the way to a base there is only the variable of the base. -/
@[simp] theorem variableNames_ofBase (base : Base) :
    (ofBase base).variableNames = [base.variableName] := rfl

/-- Entering a layer adds its variable at the end. -/
theorem variableNames_enter (scope : Scope) (layer : Layer) (nested : Forest Layer) :
    (scope.enter layer nested).variableNames =
      scope.variableNames ++ [(scope.enter layer nested).variableName] := by
  have hlen : (scope.layers ++ [layer]).length = scope.layers.length + 1 := by simp
  simp only [variableNames, enter, variableName, hlen]
  rw [List.range_succ (n := scope.layers.length + 1), List.map_append]
  congr 1
  · apply List.map_congr_left
    intro depth hdepth
    rw [List.mem_range] at hdepth
    rw [List.take_append_of_le_length (by omega)]
  · simp only [List.map_cons, List.map_nil]
    rw [List.take_of_length_le (by simp)]

end Scope

namespace Base

/-- The scope of every layer of a base, each before those nested in it. -/
def layerScopes (base : Base) : List Scope :=
  (Scope.ofBase base).within base.layers

/-- Every scope of a base: the base itself, then those of its layers. -/
def scopes (base : Base) : List Scope :=
  Scope.ofBase base :: base.layerScopes

/-- The variables of the layers of a base, each once, at its first occurrence. -/
def layerVariables (base : Base) : List String :=
  (base.layerScopes.map Scope.variableName).eraseDups

end Base

namespace Config

/-- Every scope of a configuration. -/
def scopes (config : Config) : List Scope :=
  config.bases.flatMap Base.scopes

/-- The variables of all layers of a configuration, each once, at its first occurrence. -/
def layerVariables (config : Config) : List String :=
  ((config.bases.flatMap Base.layerScopes).map Scope.variableName).eraseDups

end Config

end KeyRemap
