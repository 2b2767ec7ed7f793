import KeyRemap.Proofs.Lowering
import Mathlib.Data.List.Flatten
import Mathlib.Data.List.Perm.Lattice

/-!
# What a document holds

`Config.inventory` lists the origins of a configuration kind by kind: the triggers of its bases, the
bindings of its scopes that send something, the toggles of its layers, the bindings of its rules
that send or hold something, and the substitutions on single devices. The records of a document are
those of the inventory, each once, and each of them sends just what its declaration says
(`Compiler.document_complete`).
-/

namespace KeyRemap

/-! ## The inventory -/

/-- The toggles of the layers declared directly in a scope. -/
def Scope.toggles (scope : Scope) : List Origin :=
  scope.nested.trees.map fun tree => .toggle scope tree.1 tree.2

/-- The origins of a configuration, kind by kind. -/
def Config.inventory (config : Config) : List Origin :=
  config.bases.map .trigger ++
    (config.scopes.flatMap Scope.bindingOrigins ++ config.scopes.flatMap Scope.toggles) ++
    config.rules.flatMap Rule.origins ++ config.deviceOrigins.map Prod.snd

namespace Scope

/-- The origins of a forest are the toggles of its first layers, and then what is declared in its
scopes. -/
theorem layerOrigins_perm (scope : Scope) (forest : Forest Layer) :
    (scope.layerOrigins forest).Perm
      (forest.trees.map (fun tree => .toggle scope tree.1 tree.2) ++
        (scope.within forest).flatMap fun inner => inner.bindingOrigins ++ inner.toggles) := by
  induction forest generalizing scope with
  | nil => exact List.Perm.nil
  | cons layer nested next ihn ihs =>
      rw [layerOrigins, within_cons, Forest.trees_cons, List.map_cons, List.cons_append,
        List.flatMap_cons, List.flatMap_append]
      refine List.Perm.cons _ ?_
      have hown : ((scope.enter layer nested).bindingOrigins ++
          (scope.enter layer nested).layerOrigins nested).Perm
            ((scope.enter layer nested).bindingOrigins ++ (scope.enter layer nested).toggles ++
              ((scope.enter layer nested).within nested).flatMap
                fun inner => inner.bindingOrigins ++ inner.toggles) := by
        rw [List.append_assoc]
        exact (ihn _).append_left _
      -- the toggles of the layers that follow move before everything nested in the first
      refine (hown.append (ihs scope)).trans ?_
      refine (List.perm_append_comm_assoc _ _ _).trans ?_
      rw [List.append_assoc]

end Scope

/-- The origins of a base are its trigger and what is declared in its scopes. -/
theorem Base.declared_perm (base : Base) :
    base.declared.Perm (.trigger base ::
      base.scopes.flatMap fun scope => scope.bindingOrigins ++ scope.toggles) := by
  rw [declared, scopes, List.flatMap_cons, List.append_assoc]
  exact (((Scope.ofBase base).layerOrigins_perm base.layers).append_left _).cons _

open scoped List in
/-- The document holds the records of the inventory, each once. -/
theorem Config.origins_perm_inventory (config : Config) : config.origins.Perm config.inventory := by
  refine config.origins_perm_declared.trans ?_
  rw [declared, inventory]
  refine List.Perm.append (List.Perm.append ?_ (List.Perm.refl _)) (List.Perm.refl _)
  calc config.bases.flatMap Base.declared
    _ ~ config.bases.flatMap fun base => .trigger base ::
          base.scopes.flatMap fun scope => scope.bindingOrigins ++ scope.toggles :=
        List.Perm.flatMap_left _ fun base _ => base.declared_perm
    _ ~ config.bases.map .trigger ++ config.bases.flatMap fun base =>
          base.scopes.flatMap fun scope => scope.bindingOrigins ++ scope.toggles :=
        (List.map_append_flatMap_perm _ _ _).symm
    _ = config.bases.map .trigger ++
          config.scopes.flatMap fun scope => scope.bindingOrigins ++ scope.toggles := by
        rw [scopes, List.flatMap_assoc]
    _ ~ config.bases.map .trigger ++
          (config.scopes.flatMap Scope.bindingOrigins ++ config.scopes.flatMap Scope.toggles) :=
        (List.flatMap_append_perm _ _ _).symm.append_left _

/-- What an origin tells of is declared in a configuration. -/
def Origin.DeclaredIn (config : Config) : Origin → Prop
  | .trigger base => base ∈ config.bases
  | .toggle parent layer nested =>
      parent ∈ config.scopes ∧ (layer, nested) ∈ parent.nested.trees
  | .content scope binding => scope ∈ config.scopes ∧ binding ∈ scope.emitting
  | .ofRule rule binding => rule ∈ config.rules ∧ binding ∈ rule.bindings
  | .ofSubstitution substitution id destination =>
      substitution ∈ config.substitutions ∧ substitution.device = some id ∧
        substitution.destination = some destination

/-- Every record of a document comes from something declared. -/
theorem Config.declaredIn_of_mem_origins {config : Config} {origin : Origin}
    (h : origin ∈ config.origins) : origin.DeclaredIn config := by
  have hmem := config.origins_perm_inventory.subset h
  simp only [inventory, List.mem_append, List.mem_map, List.mem_flatMap] at hmem
  rcases hmem with ((⟨base, hbase, rfl⟩ | ⟨scope, hscope, horigin⟩ | ⟨scope, hscope, horigin⟩) |
    ⟨rule, hrule, horigin⟩) | ⟨⟨id, origin⟩, horigin, rfl⟩
  · exact hbase
  · obtain ⟨binding, hbinding, rfl⟩ := List.mem_map.mp horigin
    exact ⟨hscope, hbinding⟩
  · obtain ⟨tree, htree, rfl⟩ := List.mem_map.mp horigin
    exact ⟨hscope, htree⟩
  · obtain ⟨binding, hbinding, rfl⟩ := List.mem_map.mp horigin
    exact ⟨hrule, (List.mem_filter.mp hbinding).1⟩
  · obtain ⟨substitution, hsubstitution, horigin⟩ := List.mem_filterMap.mp horigin
    rw [Substitution.origin?] at horigin
    split at horigin
    · next id destination hdevice hdestination =>
        cases horigin
        exact ⟨hsubstitution, hdevice, hdestination⟩
    · cases horigin

/-! ## How many records there are -/

namespace Scope

/-- A layer binds what it declares. -/
theorem bindings_enter (scope : Scope) (layer : Layer) (nested : Forest Layer) :
    (scope.enter layer nested).bindings = layer.bindings := by
  rw [bindings, layers_enter, List.getLast?_concat]

/-- The bindings of a scope that send something give one record each. -/
theorem length_bindingOrigins (scope : Scope) :
    scope.bindingOrigins.length =
      scope.bindings.countP fun binding => !binding.destinations.isEmpty := by
  rw [bindingOrigins, List.length_map, emitting, List.countP_eq_length_filter]

/-- A forest gives one record for each layer and one for each binding that sends something. -/
theorem length_layerOrigins (scope : Scope) (forest : Forest Layer) :
    (scope.layerOrigins forest).length = forest.size +
      (forest.preorder.flatMap Layer.bindings).countP
        fun binding => !binding.destinations.isEmpty := by
  induction forest generalizing scope with
  | nil => rfl
  | cons layer nested next ihn ihs =>
      simp only [layerOrigins, List.length_cons, List.length_append, length_bindingOrigins,
        bindings_enter, ihn, ihs, Forest.size, Forest.preorder_cons, List.flatMap_cons,
        List.flatMap_append, List.countP_append]
      omega

end Scope

/-- The bindings of a base, its own and those of its layers. -/
def Base.allBindings (base : Base) : List ScopedBinding :=
  base.bindings ++ base.layers.preorder.flatMap Layer.bindings

/-- A base gives one record for itself, one for each of its layers, and one for each binding that
sends something. -/
theorem Base.length_declared (base : Base) :
    base.declared.length = 1 + base.layers.size +
      base.allBindings.countP fun binding => !binding.destinations.isEmpty := by
  have hroot : (Scope.ofBase base).bindings = base.bindings := rfl
  rw [declared, List.length_cons, List.length_append, Scope.length_bindingOrigins, hroot,
    Scope.length_layerOrigins, allBindings, List.countP_append]
  omega

/-- A rule gives one record for each of its bindings that holds or sends something. -/
theorem Rule.length_origins (rule : Rule) :
    rule.origins.length =
      rule.bindings.countP fun binding => binding.hold.isSome || !binding.destinations.isEmpty := by
  rw [origins, List.length_map, List.countP_eq_length_filter]

/-- A configuration gives one record for each substitution that stands for something on one
device. -/
theorem Config.length_deviceOrigins (config : Config) :
    config.deviceOrigins.length = config.substitutions.countP
      fun substitution => substitution.device.isSome && substitution.destination.isSome := by
  rw [deviceOrigins, List.length_filterMap_eq_countP]
  refine List.countP_congr fun substitution _ => ?_
  rw [Substitution.origin?]
  cases substitution.device <;> cases substitution.destination <;> rfl

/-- The records of a configuration, counted declaration by declaration. -/
theorem Config.length_origins (config : Config) :
    config.origins.length =
      config.bases.length + (config.bases.flatMap fun base => base.layers.preorder).length +
        ((config.bases.flatMap Base.allBindings).countP
          fun binding => !binding.destinations.isEmpty) +
        ((config.rules.flatMap Rule.bindings).countP
          fun binding => binding.hold.isSome || !binding.destinations.isEmpty) +
        config.substitutions.countP
          fun substitution => substitution.device.isSome && substitution.destination.isSome := by
  have hbases : (config.bases.flatMap Base.declared).length =
      config.bases.length + (config.bases.flatMap fun base => base.layers.preorder).length +
        (config.bases.flatMap Base.allBindings).countP
          fun binding => !binding.destinations.isEmpty := by
    induction config.bases with
    | nil => rfl
    | cons base rest ih =>
        simp only [List.flatMap_cons, List.length_append, List.length_cons, List.countP_append,
          base.length_declared, Forest.length_preorder, ih]
        omega
  have hrules : (config.rules.flatMap Rule.origins).length =
      (config.rules.flatMap Rule.bindings).countP
        fun binding => binding.hold.isSome || !binding.destinations.isEmpty := by
    rw [List.length_flatMap, List.countP_flatMap]
    exact congrArg List.sum (List.map_congr_left fun rule _ => rule.length_origins)
  -- the order in which records are emitted does not matter to their number
  rw [config.origins_perm_declared.length_eq, declared, List.length_append, List.length_append,
    List.length_map, hbases, hrules, length_deviceOrigins]

/-! ## What records send -/

/-- The event that sends an action: a key with its modifiers, which is not held down for a time and
halts nothing, or a button, or a command. -/
inductive Event.Sends : Event → Action → Prop where
  | key (pressed : Key) (modifiers : Modifiers) :
      Sends (.key pressed modifiers none false) (.key pressed modifiers)
  | button (pressed : Button) : Sends (.button pressed) (.button pressed)
  | shell (command : String) : Sends (.shell command) (.shell command)

/-- The event that is built for an action sends it. -/
theorem Event.sends_ofAction (action : Action) : (ofAction action).Sends action := by
  cases action <;> constructor

/-- An event sends what a destination resolves to. -/
def Destination.SentAs (destination : Destination) (event : Event) : Prop :=
  ∃ action, destination.resolve = .ok action ∧ event.Sends action

/-- The events that a record is to send when its combination is pressed: one for each destination of
its declaration, in order. Nothing is said of triggers, of toggles and of bindings with a hold. -/
def Origin.SentAs (events : List Event) : Origin → Prop
  | .content _ binding => List.Forall₂ Destination.SentAs binding.destinations events
  | .ofRule _ binding =>
      binding.hold = none → List.Forall₂ Destination.SentAs binding.destinations events
  | .ofSubstitution _ _ destination => List.Forall₂ Destination.SentAs [destination] events
  | .trigger _ | .toggle .. => True

/-- A substitution is meant for all devices and stands for something. -/
def Substitution.modifies (substitution : Substitution) : Bool :=
  substitution.device.isNone && substitution.destination.isSome

/-- The modification that puts a key in the place of the source of a substitution. -/
structure Substitution.ModifiedAs (substitution : Substitution) (modification : SimpleModification) :
    Prop where
  source : modification.source = .ofCombo substitution.source
  event : ∃ destination ∈ substitution.destination, destination.SentAs modification.event

/-- A binding that can be sent gives one event for each of its destinations. -/
theorem Binding.sentAs {binding : Binding} (h : binding.Sendable) :
    List.Forall₂ Destination.SentAs binding.destinations (binding.sent.map Event.ofAction) := by
  obtain ⟨source, destinations, description⟩ := binding
  rw [Sendable] at h
  rw [sent]
  induction destinations with
  | nil => exact .nil
  | cons destination rest ih =>
      obtain ⟨⟨action, haction⟩, hrest⟩ := List.forall_mem_cons.mp h
      rw [List.filterMap_cons, haction]
      exact .cons ⟨action, haction, Event.sends_ofAction action⟩ (ih hrest)

/-- What can be sent is sent as a single event. -/
theorem Destination.sentAs_events {destination : Destination} (h : destination.Sendable) :
    ∃ event, destination.events = [event] ∧ destination.SentAs event := by
  obtain ⟨action, haction⟩ := h
  refine ⟨.ofAction action, ?_, action, haction, Event.sends_ofAction action⟩
  rw [events, haction]
  rfl

/-- What a substitution that can be sent stands for can be sent. -/
theorem Substitution.Sendable.destination {substitution : Substitution}
    (h : substitution.Sendable) {destination : Destination}
    (hdestination : destination ∈ substitution.destination) : destination.Sendable := by
  obtain ⟨pressed, modifiers, hresolve⟩ := h destination hdestination
  exact ⟨.key pressed modifiers, hresolve⟩

/-- In a valid configuration the records send what their declarations say. -/
theorem Config.Valid.sentAs {config : Config} (h : config.Valid) {origin : Origin}
    (horigin : origin ∈ config.origins) : origin.SentAs (origin.record config).pressed := by
  have hdeclared := config.declaredIn_of_mem_origins horigin
  cases origin with
  | trigger base => trivial
  | toggle parent layer nested => trivial
  | content scope binding =>
      obtain ⟨hscope, hbinding⟩ := hdeclared
      exact Binding.sentAs (h.bindings scope hscope binding (List.mem_filter.mp hbinding).1)
  | ofRule rule binding =>
      obtain ⟨hrule, hbinding⟩ := hdeclared
      intro hhold
      show List.Forall₂ _ _ (binding.record config rule).pressed
      rw [HoldBinding.record, hhold]
      exact Binding.sentAs (h.rules rule hrule binding hbinding).1
  | ofSubstitution substitution id destination =>
      obtain ⟨hsubstitution, -, hdestination⟩ := hdeclared
      obtain ⟨event, hevents, hsent⟩ := Destination.sentAs_events
        ((h.substitutions substitution hsubstitution).destination hdestination)
      show List.Forall₂ _ _ destination.events
      rw [hevents]
      exact .cons hsent .nil

/-- The modifications are those of the substitutions that are meant for all devices, in order. -/
theorem Substitution.modifiedAs {substitutions : List Substitution}
    (h : ∀ substitution ∈ substitutions, substitution.Sendable) :
    List.Forall₂ ModifiedAs (substitutions.filter modifies)
      (substitutions.filterMap modification?) := by
  induction substitutions with
  | nil => exact .nil
  | cons substitution rest ih =>
      obtain ⟨hfirst, hrest⟩ := List.forall_mem_cons.mp h
      rw [List.filter_cons, List.filterMap_cons, modifies, modification?]
      cases hdevice : substitution.device with
      | some id => exact ih hrest
      | none => cases hdestination : substitution.destination with
        | none => exact ih hrest
        | some destination =>
            obtain ⟨event, hevents, hsent⟩ :=
              Destination.sentAs_events (hfirst.destination hdestination)
            simp only [hevents]
            exact .cons ⟨rfl, destination, hdestination, hsent⟩ (ih hrest)

/-! ## Completeness -/

/-- No declaration is lost and none is repeated: the records are those of the inventory, each once,
and as many as there are declarations that give one; each sends just what its declaration says; and
the modifications of the profile are those of the substitutions meant for all devices, in order. -/
theorem Compiler.document_complete {compiler : Compiler} {config : Config} {document : Document}
    (h : (compiler.compile config).2 = .ok document) :
    document.records = config.origins.map (Origin.record config) ∧
      config.origins.Perm config.inventory ∧
      (∀ origin ∈ config.origins, origin.SentAs (origin.record config).pressed) ∧
      List.Forall₂ Substitution.ModifiedAs (config.substitutions.filter Substitution.modifies)
        document.simpleModifications ∧
      document.records.length =
        config.bases.length + (config.bases.flatMap fun base => base.layers.preorder).length +
          ((config.bases.flatMap Base.allBindings).countP
            fun binding => !binding.destinations.isEmpty) +
          ((config.rules.flatMap Rule.bindings).countP
            fun binding => binding.hold.isSome || !binding.destinations.isEmpty) +
          config.substitutions.countP
            fun substitution => substitution.device.isSome && substitution.destination.isSome := by
  obtain ⟨hvalid, rfl⟩ := compile_eq_ok_iff.mp h
  refine ⟨config.records_output, config.origins_perm_inventory, fun _ => hvalid.sentAs,
    Substitution.modifiedAs hvalid.substitutions, ?_⟩
  rw [config.records_output, List.length_map, config.length_origins]

/-- Two substitutions, a rule with a hold, and a base that is armed once it has been held. One of its
bindings and one of its layers send nothing, and what stands apart is nested in what stands apart. -/
def Config.desk : Config where
  devices := [⟨.product 7504 24926, .onDevice, false⟩]
  substitutions := [
    { source := ⟨.capsLock, ∅⟩, destination := some ⟨.key .f16, ∅⟩ },
    { source := ⟨.leftCommand, ∅⟩, device := some ⟨0⟩, destination := some ⟨.key .leftOption, ∅⟩ }]
  rules := [{ bindings := [{ source := ⟨.a, ∅⟩, hold := some ⟨.key .leftShift ∅, {}⟩ }] }]
  bases := [{
    trigger := ⟨.f16, ∅⟩
    strict := some {}
    bindings := [
      { source := ⟨.f, ∅⟩, destinations := [⟨.text "open -a 'Finder'", ∅⟩, ⟨.key .a, ∅⟩] },
      { source := ⟨.g, ∅⟩ }]
    layers := .cons
      { key := .w, separate := true,
        bindings := [{ source := ⟨.h, ∅⟩, destinations := [⟨.key .leftArrow, ∅⟩], separate := true }] }
      (.cons { key := .r, separate := true } .nil .nil) .nil }]

/-- The desk can be compiled. -/
theorem Compiler.compile_desk :
    (({} : Compiler).compile .desk).2 = .ok Config.desk.output :=
  compile_of_passes (by decide +kernel)

/-- One trigger, two toggles, two bindings of scopes, one of a rule and one substitution. -/
theorem Compiler.document_complete_desk :
    (({} : Compiler).compile .desk).2 = .ok Config.desk.output ∧
      Config.desk.origins.Perm Config.desk.inventory ∧
      List.Forall₂ Substitution.ModifiedAs [Config.desk.substitutions[0]]
        Config.desk.output.simpleModifications ∧
      Config.desk.output.records.length = 7 := by
  obtain ⟨-, hinventory, -, hmodifications, hlength⟩ := document_complete compile_desk
  exact ⟨compile_desk, hinventory, hmodifications, hlength⟩

end KeyRemap
