import KeyRemap.Proofs.ScopeTree

/-!
# The variables on the way to a scope

The variable of a layer prolongs that of the scope around it, so the variables on the way to a scope
grow in length and are all different. Every one of them is the variable of a scope on the way
(`Base.exists_owner`).
-/

namespace KeyRemap

namespace Scope

/-- The variable of a layer is that of the scope around it, marked once as one of a layer, with the
name of the key at the end. -/
theorem variableNameOf_concat (base : Base) (layers : List Layer) (layer : Layer) :
    variableNameOf base (layers ++ [layer]) =
      (if layers = [] then "lay_" ++ base.variableName else variableNameOf base layers) ++
        ("_" ++ layer.key.name) := by
  have hconcat : variableNameOf base (layers ++ [layer]) =
      "lay_" ++ base.variableName ++
        String.join ((layers ++ [layer]).map fun layer => "_" ++ layer.key.name) := by
    cases layers <;> rfl
  rw [hconcat, List.map_append, String.join_append, ← String.append_assoc]
  cases layers with
  | nil => simp
  | cons first rest => simp [variableNameOf]

/-- The variable of a scope depends on nothing but the trigger of its base and the keys on the way to
it. -/
theorem variableNameOf_congr {base other : Base} (hbase : base.trigger = other.trigger)
    {a b : List Layer} (h : a.map Layer.key = b.map Layer.key) :
    variableNameOf base a = variableNameOf other b := by
  have hnames : ∀ layers : List Layer, layers.map (fun layer => "_" ++ layer.key.name) =
      (layers.map Layer.key).map fun key => "_" ++ key.name := fun layers => by
    rw [List.map_map]
    rfl
  have hroot : base.variableName = other.variableName := by
    rw [Base.variableName, Base.variableName, hbase]
  cases a with
  | nil => cases b with
    | nil => exact hroot
    | cons _ _ => cases h
  | cons _ _ => cases b with
    | nil => cases h
    | cons _ _ =>
        rw [variableNameOf, variableNameOf, hroot, hnames, h, hnames] <;> simp

/-- The variable of a layer is longer than that of the scope around it. -/
theorem length_variableNameOf_lt (base : Base) (layers : List Layer) (layer : Layer) :
    (variableNameOf base layers).length < (variableNameOf base (layers ++ [layer])).length := by
  rw [variableNameOf_concat]
  split
  · next h =>
      subst h
      simp only [variableNameOf, String.length_append]
      have hunderscore : "_".length = 1 := rfl
      omega
  · simp only [String.length_append]
    have hunderscore : "_".length = 1 := rfl
    omega

/-- Deeper on the way to a scope, the variables are longer. -/
theorem length_variableNameOf_take_lt (base : Base) (layers : List Layer) {m n : Nat} (hmn : m < n)
    (hn : n ≤ layers.length) :
    (variableNameOf base (layers.take m)).length < (variableNameOf base (layers.take n)).length := by
  induction n with
  | zero => omega
  | succ n ih =>
      -- one layer more adds to the variable of the layers before it
      have hlast : n < layers.length := hn
      have hstep := length_variableNameOf_lt base (layers.take n) layers[n]
      rw [← List.take_succ_eq_append_getElem hlast] at hstep
      rcases Nat.lt_succ_iff_lt_or_eq.mp hmn with hlt | rfl
      · exact Nat.lt_trans (ih hlt (by omega)) hstep
      · exact hstep

/-- A variable is on the way to a scope exactly when some first layers of it give that variable. -/
theorem mem_variableNames {scope : Scope} {name : String} :
    name ∈ scope.variableNames ↔
      ∃ depth ≤ scope.layers.length, variableNameOf scope.base (scope.layers.take depth) = name := by
  simp only [variableNames, List.mem_map, List.mem_range, Nat.lt_succ_iff]

/-- The variables on the way to a scope are all different. -/
theorem variableNames_nodup (scope : Scope) : scope.variableNames.Nodup := by
  rw [variableNames, List.Nodup, List.pairwise_map]
  refine List.pairwise_lt_range.imp_of_mem ?_
  intro m n _ hn hmn heq
  have hlt := length_variableNameOf_take_lt scope.base scope.layers hmn
    (Nat.lt_succ_iff.mp (List.mem_range.mp hn))
  rw [heq] at hlt
  exact Nat.lt_irrefl _ hlt

/-- On the way to a scope are the variable of its base and one for each layer. -/
theorem length_variableNames (scope : Scope) :
    scope.variableNames.length = scope.layers.length + 1 := by
  simp [variableNames]

/-- The last variable on the way to a scope is its own. -/
theorem variableName_mem_variableNames (scope : Scope) :
    scope.variableName ∈ scope.variableNames :=
  mem_variableNames.mpr ⟨scope.layers.length, Nat.le_refl _, by rw [List.take_length, variableName]⟩

/-- A base has no variable on its way but its own. -/
theorem variableNames_of_layers_nil {scope : Scope} (h : scope.layers = []) :
    scope.variableNames = [scope.variableName] := by
  simp [variableNames, variableName, h]

end Scope

namespace Base

/-- A variable on the way to a scope is the variable of a scope on that way. -/
theorem exists_owner {base : Base} {scope : Scope} (h : scope ∈ base.scopes) {name : String}
    (hname : name ∈ scope.variableNames) :
    ∃ owner ∈ base.scopes, owner.variableName = name ∧ ∃ n, owner.path = scope.path.take n := by
  obtain ⟨depth, hdepth, rfl⟩ := Scope.mem_variableNames.mp hname
  obtain ⟨owner, howner, hlayers⟩ := base.exists_ancestor h hdepth
  have hbase : owner.base = scope.base :=
    (base_of_mem_scopes howner).trans (base_of_mem_scopes h).symm
  refine ⟨owner, howner, by rw [Scope.variableName, hbase, hlayers], depth + 1, ?_⟩
  rw [Scope.path, Scope.path, hbase, hlayers, List.take_succ_cons, List.map_take]

end Base

namespace Config

/-- A layer variable of a configuration is the variable of one of its layers. -/
theorem mem_layerVariables {config : Config} {name : String} :
    name ∈ config.layerVariables ↔
      ∃ base ∈ config.bases, ∃ scope ∈ base.layerScopes, scope.variableName = name := by
  simp only [layerVariables, List.mem_eraseDups, List.mem_map, List.mem_flatMap]
  constructor
  · rintro ⟨scope, ⟨base, hbase, hscope⟩, hname⟩
    exact ⟨base, hbase, scope, hscope, hname⟩
  · rintro ⟨base, hbase, scope, hscope, hname⟩
    exact ⟨scope, ⟨base, hbase, hscope⟩, hname⟩

/-- The scopes of a configuration are those of its bases. -/
theorem mem_scopes {config : Config} {scope : Scope} :
    scope ∈ config.scopes ↔ ∃ base ∈ config.bases, scope ∈ base.scopes := by
  simp [scopes]

/-- The variable of a layer is a layer variable. -/
theorem variableName_mem_layerVariables {config : Config} {scope : Scope}
    (h : scope ∈ config.scopes) (hlayers : scope.layers ≠ []) :
    scope.variableName ∈ config.layerVariables := by
  obtain ⟨base, hbase, hscope⟩ := mem_scopes.mp h
  exact mem_layerVariables.mpr
    ⟨base, hbase, scope, Base.mem_layerScopes_iff.mpr ⟨hscope, hlayers⟩, rfl⟩

/-- The base of a scope of a configuration is declared in it, and the scope is one of that base. -/
theorem mem_base_scopes {config : Config} {scope : Scope} (h : scope ∈ config.scopes) :
    scope.base ∈ config.bases ∧ scope ∈ scope.base.scopes := by
  obtain ⟨base, hbase, hscope⟩ := mem_scopes.mp h
  have heq := Base.base_of_mem_scopes hscope
  subst heq
  exact ⟨hbase, hscope⟩

end Config

end KeyRemap
