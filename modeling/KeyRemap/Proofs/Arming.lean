import KeyRemap.Proofs.Assignment
import KeyRemap.Proofs.Lowering

/-!
# Arming a scope

A scope is armed by the trigger of its base and then by the toggle of every layer on the way to it.
Started with no variable set, each of these records has its guards met at its turn, and in the end
the variables on the way are set and no others (`Trail.armedBy`). That assignment meets the guards
of the bindings of the scope, and those of no scope with another path.
-/

namespace KeyRemap

/-! ## What records do to variables -/

namespace Assignment

/-- No variable is set. -/
def clear : Assignment := fun _ => false

/-- The assignment with one variable set or unset. -/
def set (assignment : Assignment) (name : String) (value : Bool) : Assignment :=
  fun other => if other = name then value else assignment other

/-- The assignment after an event. -/
def apply (assignment : Assignment) : Event → Assignment
  | .setVariable name value => assignment.set name value
  | _ => assignment

/-- The assignment after a record has sent what it sends while its key is held. -/
def arm (assignment : Assignment) (record : Record) : Assignment :=
  (record.pressed ++ record.heldDown).foldl apply assignment

end Assignment

/-- Started with no variable set, the records arm one after another, each with its guards met at its
turn, and lead to an assignment. -/
inductive ArmedBy : List Record → Assignment → Prop where
  | nil : ArmedBy [] .clear
  | concat {records : List Record} {record : Record} {assignment : Assignment}
      (before : ArmedBy records assignment) (met : assignment.Meets record.guards) :
      ArmedBy (records ++ [record]) (assignment.arm record)

/-- The origins of the records that arm a scope: the trigger of its base, then the toggle of every
layer on the way to it. -/
inductive Trail : Scope → List Origin → Prop where
  | root (base : Base) : Trail (.ofBase base) [.trigger base]
  | enter {scope : Scope} {trail : List Origin} {layer : Layer} {nested : Forest Layer}
      (outer : Trail scope trail) (declared : (layer, nested) ∈ scope.nested.trees) :
      Trail (scope.enter layer nested) (trail ++ [.toggle scope layer nested])

/-- The assignment that sets just the variables on the way to a scope. -/
def Scope.assignment (scope : Scope) : Assignment :=
  fun name => scope.variableNames.contains name

/-- The assignment of a scope sets just the variables on the way to it. -/
theorem Scope.assignment_eq_true_iff {scope : Scope} {name : String} :
    scope.assignment name = true ↔ name ∈ scope.variableNames := by
  simp [assignment]

/-- Setting the variable of a base, where none is set, sets those on the way to the base. -/
theorem Base.set_variableName (base : Base) :
    Assignment.clear.set base.variableName true = (Scope.ofBase base).assignment := by
  funext name
  simp only [Assignment.set, Assignment.clear, Scope.assignment, Scope.variableNames_ofBase]
  by_cases hname : name = base.variableName <;> simp [hname]

/-- Setting the variable of a layer, where those around it are set, sets those on the way to it. -/
theorem Scope.set_variableName (scope : Scope) (layer : Layer) (nested : Forest Layer) :
    scope.assignment.set (scope.enter layer nested).variableName true =
      (scope.enter layer nested).assignment := by
  funext name
  simp only [Assignment.set, assignment, variableNames_enter]
  by_cases hname : name = (scope.enter layer nested).variableName <;> simp [hname]

/-- The trigger of a base, strict or not, sets the variable of the base and no other. -/
theorem Base.arm_trigger (config : Config) (base : Base) (assignment : Assignment) :
    assignment.arm (base.triggerRecord config) = assignment.set base.variableName true := by
  have harm : base.armEvents.foldl Assignment.apply assignment =
      assignment.set base.variableName true := by
    rw [armEvents]
    cases base.combo <;> rfl
  rw [Assignment.arm, triggerRecord, ← harm]
  cases base.strict with
  | none => exact congrArg _ (List.append_nil _)
  | some timing => rfl

/-- The toggle of a layer sets the variable of the layer and no other. -/
theorem Scope.arm_toggle (config : Config) (parent own : Scope) (layer : Layer)
    (assignment : Assignment) :
    assignment.arm (parent.toggle config own layer) = assignment.set own.variableName true := rfl

/-! ## Trails -/

namespace Trail

variable {config : Config} {scope : Scope} {trail : List Origin}

/-- Along a trail every record has its guards met, and in the end just the variables on the way to
the scope are set. -/
theorem armedBy (h : Trail scope trail) :
    ArmedBy (trail.map (Origin.record config)) scope.assignment := by
  induction h with
  | root base =>
      rw [← base.set_variableName, ← base.arm_trigger config]
      refine ArmedBy.concat .nil ?_
      rw [Origin.guards_record]
      show Assignment.clear.Meets (base.triggerGuards config)
      -- the trigger forbids only layers, and nothing is set yet
      rw [Assignment.meets_triggerGuards]
      exact fun _ _ => rfl
  | @enter scope trail layer nested _ _ ih =>
      rw [List.map_append, ← scope.set_variableName, ← scope.arm_toggle config _ layer]
      refine ArmedBy.concat ih ?_
      show scope.assignment.Meets (scope.toggleGuards config)
      rw [Assignment.meets_toggleGuards]
      exact fun name hname => Scope.assignment_eq_true_iff.mpr hname

/-- A trail runs among the scopes and the declarations of one base. -/
theorem subset_declared (h : Trail scope trail) :
    scope ∈ scope.base.scopes ∧ trail ⊆ scope.base.declared := by
  induction h with
  | root base =>
      exact ⟨base.ofBase_mem_scopes, List.cons_subset.mpr
        ⟨base.trigger_mem_declared, List.nil_subset _⟩⟩
  | enter _ hdeclared ih =>
      obtain ⟨hscope, hsubset⟩ := ih
      exact ⟨Base.enter_mem_scopes hscope hdeclared, List.append_subset.mpr ⟨hsubset,
        List.cons_subset.mpr ⟨Base.toggle_mem_declared hscope hdeclared, List.nil_subset _⟩⟩⟩

/-- Every scope of a base has a trail. -/
theorem exists_of_mem_scopes {base : Base} (h : scope ∈ base.scopes) : ∃ trail, Trail scope trail := by
  induction h using Base.scopes_induction with
  | root => exact ⟨_, .root base⟩
  | enter outer layer nested _ htree ih =>
      obtain ⟨trail, htrail⟩ := ih
      exact ⟨_, htrail.enter htree⟩

end Trail

/-! ## What is in force in an armed scope -/

/-- The assignment sets just the variables on the way to the scope. It meets the guards of all
records of its bindings, and of none of the bindings of a scope with another path. -/
structure Scope.SelectedBy (config : Config) (scope : Scope) (assignment : Assignment) : Prop where
  set_iff : ∀ name, assignment name = true ↔ name ∈ scope.variableNames
  own : ∀ binding, .content scope binding ∈ config.origins →
    assignment.Meets ((Origin.content scope binding).record config).guards
  others : ∀ other binding, .content other binding ∈ config.origins →
    ¬ SamePath other.path scope.path →
      ¬ assignment.Meets ((Origin.content other binding).record config).guards

/-- The variables on the way to a scope select it. -/
theorem Config.Valid.selectedBy {config : Config} (h : config.Valid) {scope : Scope}
    (hscope : scope ∈ config.scopes) : scope.SelectedBy config scope.assignment := by
  have hown : scope.assignment.Meets (scope.bindingGuards config config.layerVariables) := by
    rw [Assignment.meets_bindingGuards]
    refine ⟨fun name hname => Scope.assignment_eq_true_iff.mpr hname, fun name _ hname => ?_⟩
    exact Bool.eq_false_iff.mpr fun hset => hname (Scope.assignment_eq_true_iff.mp hset)
  refine ⟨fun _ => Scope.assignment_eq_true_iff, fun _ _ => hown, ?_⟩
  intro other binding hother hpath hmet
  have hmem := (content_mem_declared.mp (config.origins_perm_declared.subset hother)).1
  rcases h.samePath_of_meets hmem hscope hmet hown with hsame | ⟨-, hlayers⟩
  · exact hpath hsame
  · -- between bases the variable decides, since the other one is to be set and is the only one
    have hset := (Assignment.meets_bindingGuards.mp hmet).1 _ other.variableName_mem_variableNames
    have hname := Scope.assignment_eq_true_iff.mp hset
    rw [Scope.variableNames_of_layers_nil hlayers, List.mem_singleton] at hname
    exact hpath (h.shared_variable other hmem scope hscope hname)

/-- Every scope is armed by the trigger of its base and the toggles on the way to it, each with its
guards met at its turn; its variables, one for the base and one for each layer, are all different;
and in the assignment to which the trail leads just the scope is selected. -/
theorem Compiler.scopes_armed {compiler : Compiler} {config : Config} {document : Document}
    (h : (compiler.compile config).2 = .ok document) :
    config.Traced document config.origins ∧ ∀ scope ∈ config.scopes,
      scope.variableNames.Nodup ∧ scope.variableNames.length = scope.layers.length + 1 ∧
      (∃ trail, Trail scope trail) ∧ ∀ trail, Trail scope trail →
        trail ⊆ config.origins ∧ ∃ assignment,
          ArmedBy (trail.map (Origin.record config)) assignment ∧
            scope.SelectedBy config assignment := by
  obtain ⟨hvalid, rfl⟩ := compile_eq_ok_iff.mp h
  refine ⟨config.traced_output, fun scope hscope => ?_⟩
  obtain ⟨hbase, hmem⟩ := Config.mem_base_scopes hscope
  refine ⟨scope.variableNames_nodup, scope.length_variableNames, Trail.exists_of_mem_scopes hmem, ?_⟩
  intro trail htrail
  refine ⟨?_, scope.assignment, htrail.armedBy, hvalid.selectedBy hscope⟩
  intro origin horigin
  refine config.origins_perm_declared.symm.subset (List.mem_append_left _
    (List.mem_append_left _ (List.mem_flatMap.mpr ⟨scope.base, hbase, ?_⟩)))
  exact htrail.subset_declared.2 horigin

/-- A layer nested in another one is armed by way of that one. -/
theorem Compiler.scopes_armed_arrows :
    (({} : Compiler).compile .arrows).2 = .ok Config.arrows.output ∧
      ∃ scope ∈ Config.arrows.scopes, scope.layers.length = 2 ∧ ∃ trail, Trail scope trail ∧
        trail ⊆ Config.arrows.origins ∧ ∃ assignment,
          ArmedBy (trail.map (Origin.record .arrows)) assignment ∧
            scope.SelectedBy .arrows assignment := by
  have hscopes := (scopes_armed compile_arrows).2
  have hmem : Config.arrows.scopes[2] ∈ Config.arrows.scopes := List.getElem_mem _
  obtain ⟨-, -, ⟨trail, htrail⟩, hall⟩ := hscopes _ hmem
  exact ⟨compile_arrows, _, hmem, rfl, trail, htrail, hall trail htrail⟩

end KeyRemap
