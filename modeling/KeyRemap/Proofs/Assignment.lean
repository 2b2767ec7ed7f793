import KeyRemap.Proofs.Validity
import KeyRemap.Proofs.Variables
import KeyRemap.Scope.Guards

/-!
# Assignments of variables

Which records are in force depends on which variables are set. An assignment meets the guards of the
bindings of a scope when it sets every variable on the way to the scope and no other variable of a
layer. In a valid configuration this leaves little choice: one assignment meets the guards of two
scopes only if both have the same path or both are bases (`Config.Valid.samePath_of_meets`).
-/

namespace KeyRemap

/-- Says of every variable whether it is set. -/
def Assignment := String → Bool

namespace Assignment

/-- All demands that guards make on variables are met. -/
def Meets (assignment : Assignment) (guards : List Guard) : Prop :=
  ∀ name value, .var name value ∈ guards → assignment name = value

variable {assignment : Assignment} {config : Config}

/-! ## The demands of a record, part by part -/

/-- An assignment meets two lists of guards together when it meets each of them. -/
@[simp] theorem meets_append {a b : List Guard} :
    assignment.Meets (a ++ b) ↔ assignment.Meets a ∧ assignment.Meets b := by
  simp only [Meets, List.mem_append, or_imp, forall_and]

/-- The same value is demanded of several variables. -/
theorem meets_map {names : List String} {value : Bool} :
    assignment.Meets (names.map fun name => .var name value) ↔
      ∀ name ∈ names, assignment name = value := by
  constructor
  · intro h name hname
    exact h name value (List.mem_map.mpr ⟨name, hname, rfl⟩)
  · intro h name demanded hguard
    obtain ⟨other, hother, heq⟩ := List.mem_map.mp hguard
    obtain ⟨rfl, rfl⟩ := Guard.var.inj heq
    exact h other hother

/-- An assignment meets the demand that variables be armed when it sets all of them. -/
@[simp] theorem meets_armed {names : List String} :
    assignment.Meets (names.map Guard.armed) ↔ ∀ name ∈ names, assignment name = true :=
  meets_map

/-- An assignment meets the demand that variables be idle when it sets none of them. -/
@[simp] theorem meets_idle {names : List String} :
    assignment.Meets (names.map Guard.idle) ↔ ∀ name ∈ names, assignment name = false :=
  meets_map

/-- The guard of a device demands no variable. -/
@[simp] theorem meets_deviceGuards {id : Option Device.Index} :
    assignment.Meets (config.deviceGuards id) := by
  intro name value hguard
  rw [Config.deviceGuards] at hguard
  cases hdevice : config.device? id with
  | none => simp [hdevice] at hguard
  | some device => simp [hdevice, Guard.ofDevice] at hguard

/-- The guards of the bindings of a scope demand just the layers on its way. -/
theorem meets_bindingGuards {scope : Scope} :
    assignment.Meets (scope.bindingGuards config config.layerVariables) ↔
      (∀ name ∈ scope.variableNames, assignment name = true) ∧
        ∀ name ∈ config.layerVariables, name ∉ scope.variableNames → assignment name = false := by
  simp [Scope.bindingGuards]

/-- The toggles in a scope are in force where everything on the way to the scope is armed. -/
theorem meets_toggleGuards {scope : Scope} :
    assignment.Meets (scope.toggleGuards config) ↔
      ∀ name ∈ scope.variableNames, assignment name = true := by
  simp [Scope.toggleGuards]

/-- The trigger of a base is in force where none of the layers of the base is armed. -/
theorem meets_triggerGuards {base : Base} :
    assignment.Meets (base.triggerGuards config) ↔
      ∀ name ∈ base.layerVariables, assignment name = false := by
  simp [Base.triggerGuards]

end Assignment

/-! ## Two scopes under one assignment -/

namespace Config.Valid

variable {config : Config}

/-- A scope whose variable is on the way to another has the path of a scope on that way. -/
theorem exists_samePath_take (h : config.Valid) {s t : Scope} (hs : s ∈ config.scopes)
    (ht : t ∈ config.scopes) (hname : s.variableName ∈ t.variableNames) :
    ∃ n, SamePath s.path (t.path.take n) := by
  obtain ⟨hbase, hscope⟩ := mem_base_scopes ht
  obtain ⟨owner, howner, heq, n, hpath⟩ := Base.exists_owner hscope hname
  have hmem : owner ∈ config.scopes := mem_scopes.mpr ⟨t.base, hbase, howner⟩
  exact ⟨n, hpath ▸ h.shared_variable s hs owner hmem heq.symm⟩

/-- A scope whose guards are met together with those of a layer is itself a layer, and the other one
has the path of a scope on the way to it. -/
theorem exists_samePath_take_of_meets (h : config.Valid) {s t : Scope} (hs : s ∈ config.scopes)
    (ht : t ∈ config.scopes) (hlayers : s.layers ≠ []) {assignment : Assignment}
    (hsmet : assignment.Meets (s.bindingGuards config config.layerVariables))
    (htmet : assignment.Meets (t.bindingGuards config config.layerVariables)) :
    t.layers ≠ [] ∧ ∃ n, SamePath s.path (t.path.take n) := by
  rw [Assignment.meets_bindingGuards] at hsmet htmet
  have hset := hsmet.1 _ s.variableName_mem_variableNames
  have hname : s.variableName ∈ t.variableNames := by
    by_contra hname
    have hunset := htmet.2 _ (variableName_mem_layerVariables hs hlayers) hname
    rw [hset] at hunset
    exact absurd hunset (by decide)
  obtain ⟨n, hn⟩ := h.exists_samePath_take hs ht hname
  refine ⟨?_, n, hn⟩
  -- the path of a layer is too long to be part of that of a base
  intro hbase
  have hpos := List.length_pos_iff.mpr hlayers
  have hlen := hn.length_eq
  rw [List.length_take, Scope.length_path, Scope.length_path, hbase, List.length_nil] at hlen
  omega

/-- One assignment meets the guards of two scopes only if both have the same path or are bases. -/
theorem samePath_of_meets (h : config.Valid) {s t : Scope} (hs : s ∈ config.scopes)
    (ht : t ∈ config.scopes) {assignment : Assignment}
    (hsmet : assignment.Meets (s.bindingGuards config config.layerVariables))
    (htmet : assignment.Meets (t.bindingGuards config config.layerVariables)) :
    SamePath s.path t.path ∨ s.layers = [] ∧ t.layers = [] := by
  by_cases hsl : s.layers = []
  · refine Or.inr ⟨hsl, ?_⟩
    by_contra htl
    exact (h.exists_samePath_take_of_meets ht hs htl htmet hsmet).1 hsl
  · obtain ⟨htl, n, hn⟩ := h.exists_samePath_take_of_meets hs ht hsl hsmet htmet
    obtain ⟨-, m, hm⟩ := h.exists_samePath_take_of_meets ht hs htl htmet hsmet
    exact Or.inl (hn.of_take hm)

end Config.Valid

end KeyRemap
