import KeyRemap.Compiler
import KeyRemap.Proofs.Origin
import KeyRemap.Proofs.Traversals
import KeyRemap.Proofs.Validity

/-!
# The document of a valid configuration

Where all destinations can be sent to, nothing fails while the document is made, and the document is
the outline with every origin replaced by its record (`Config.document_eq`). So a configuration
compiles exactly when it is valid, and to `Config.output` (`Compiler.compile_eq_ok_iff`).
-/

namespace KeyRemap

/-! ## Outlines as parts -/

/-- The group of a document that an outlined group stands for. -/
def Origin.group (config : Config) (group : String × List Origin) : Group :=
  ⟨group.1, group.2.map (Origin.record config)⟩

namespace Outline

variable (config : Config)

/-- The part of a document that an outline stands for. -/
def part (outline : Outline) : Part :=
  ⟨outline.own.map (Origin.record config), outline.groups.map (Origin.group config)⟩

/-- What an outline gives comes before what the outline after it gives. -/
theorem part_append (a b : Outline) : (a ++ b).part config = a.part config ++ b.part config := by
  show Part.mk ((a.own ++ b.own).map _) ((a.groups ++ b.groups).map _) = Part.mk (_ ++ _) (_ ++ _)
  rw [List.map_append, List.map_append]
  rfl

/-- An outline in a group of its own gives its part in a group of its own. -/
theorem part_setApart (outline : Outline) (description : String) :
    (outline.setApart description).part config = (outline.part config).setApart description := rfl

/-- The part of a first record, of bindings and of layers. -/
theorem part_tree (first : Origin) (bindings layers : Outline) :
    ({ own := [first] } ++ bindings ++ layers : Outline).part config =
      { records := [first.record config] } ++ bindings.part config ++ layers.part config := by
  rw [part_append, part_append]
  rfl

/-- Joined outlines give their parts one after another. -/
theorem part_join (outlines : List Outline) :
    (join outlines).part config = Part.join (outlines.map (part config)) := by
  induction outlines with
  | nil => rfl
  | cons outline rest ih =>
      rw [List.map_cons, Part.join_cons, ← ih, ← part_append]
      rfl

end Outline

/-! ## Bases -/

namespace Binding

/-- A binding that can be sent gives its actions. -/
theorem actions_eq {binding : Binding} (h : binding.Sendable) (context : String) :
    binding.actions context = .ok binding.sent := by
  have hall : ∀ destinations : List Destination, (∀ destination ∈ destinations, destination.Sendable) →
      destinations.mapM (·.action context) =
        .ok (destinations.filterMap fun destination => destination.resolve.toOption) := by
    intro destinations hsendable
    induction destinations with
    | nil => rfl
    | cons destination rest ih =>
        obtain ⟨action, haction⟩ := hsendable destination List.mem_cons_self
        have hhead : destination.action context = .ok action := by
          rw [Destination.action, haction]
          rfl
        rw [List.mapM_cons, hhead, ih fun d hd => hsendable d (List.mem_cons_of_mem _ hd),
          List.filterMap_cons, haction]
        rfl
  exact hall binding.destinations h

/-- A binding that can be sent has an action exactly if it has a destination. -/
theorem isEmpty_sent {binding : Binding} (h : binding.Sendable) :
    binding.sent.isEmpty = binding.destinations.isEmpty := by
  rw [sent]
  cases hdestinations : binding.destinations with
  | nil => rfl
  | cons destination rest =>
      obtain ⟨action, haction⟩ := h destination (by rw [hdestinations]; exact List.mem_cons_self)
      rw [List.filterMap_cons, haction]
      rfl

end Binding

namespace Scope

variable {config : Config} {scope : Scope}

/-- A binding that can be sent gives what its outline says. -/
theorem bindingPart_eq {binding : ScopedBinding} (h : binding.toBinding.Sendable) :
    scope.bindingPart (scope.bindingGuards config config.layerVariables) binding =
      .ok ((scope.bindingOutline binding).part config) := by
  rw [bindingPart, Binding.actions_eq h, bindingOutline, ← Binding.isEmpty_sent h]
  show (if _ then _ else _) = _
  split
  · rfl
  · cases binding.separate <;> rfl

/-- Bindings that can be sent give what their outline says. -/
theorem bindingsPart_eq (h : ∀ binding ∈ scope.bindings, binding.toBinding.Sendable) :
    scope.bindingsPart config config.layerVariables = .ok (scope.bindingsOutline.part config) := by
  have hparts : scope.bindings.mapM
      (scope.bindingPart (scope.bindingGuards config config.layerVariables)) =
        .ok (scope.bindings.map fun binding => (scope.bindingOutline binding).part config) :=
    mapM_eq_ok fun binding hbinding => bindingPart_eq (h binding hbinding)
  rw [bindingsPart, hparts, bindingsOutline, Outline.part_join, List.map_map]
  rfl

/-- Layers whose bindings can be sent give what their outline says. -/
theorem layersPart_eq {forest : Forest Layer}
    (h : ∀ inner ∈ scope.within forest, ∀ binding ∈ inner.bindings, binding.toBinding.Sendable) :
    scope.layersPart config config.layerVariables forest =
      .ok ((scope.layersOutline forest).part config) := by
  induction forest generalizing scope with
  | nil => rfl
  | cons layer nested next ihn ihs =>
      rw [within_cons, List.forall_mem_cons, List.forall_mem_append] at h
      obtain ⟨hown, hnested, hnext⟩ := h
      rw [layersPart, bindingsPart_eq hown, ihn hnested, ihs hnext, layersOutline,
        Outline.part_append]
      cases layer.separate with
      | true => rw [if_pos rfl, Outline.part_setApart, Outline.part_tree]; rfl
      | false => rw [if_neg Bool.false_ne_true, Outline.part_tree]; rfl

end Scope

/-- A base whose bindings can be sent has the groups of its outline. -/
theorem Base.groups_eq {config : Config} {base : Base}
    (h : ∀ scope ∈ base.scopes, ∀ binding ∈ scope.bindings, binding.toBinding.Sendable) :
    base.groups config config.layerVariables = .ok (base.outline.map (Origin.group config)) := by
  obtain ⟨hroot, hlayers⟩ := List.forall_mem_cons.mp h
  have hpart := Outline.part_tree config (.trigger base) (Scope.ofBase base).bindingsOutline
    ((Scope.ofBase base).layersOutline base.layers)
  rw [groups, Scope.bindingsPart_eq hroot, Scope.layersPart_eq hlayers]
  have hgroups := congrArg (fun part => (Part.setApart part base.groupDescription).groups) hpart
  exact congrArg Except.ok hgroups.symm

/-! ## Rules and substitutions -/

/-- A binding of a rule that can be sent gives one record if it holds or sends something, and else
none. -/
theorem HoldBinding.records_eq {config : Config} {rule : Rule} {binding : HoldBinding}
    (h : binding.toBinding.Sendable) :
    binding.records config rule =
      .ok (if binding.hold.isSome || !binding.destinations.isEmpty then [binding.record config rule]
        else []) := by
  rw [records, Binding.actions_eq h, record, ← Binding.isEmpty_sent h]
  cases binding.hold with
  | some hold => rfl
  | none =>
      show (Except.ok (if (binding.sent.map Event.ofAction).isEmpty then _ else _) : Except _ _) = _
      rw [List.isEmpty_map]
      cases binding.sent.isEmpty <;> rfl

/-- A rule whose bindings can be sent gives one group, which holds the records of its origins. -/
theorem Rule.group_eq {config : Config} {rule : Rule}
    (h : ∀ binding ∈ rule.bindings, binding.toBinding.Sendable) :
    rule.group config = .ok (Origin.group config (rule.fullDescription, rule.origins)) := by
  have hrecords : rule.bindings.mapM (HoldBinding.records config rule) =
      .ok (rule.bindings.map fun binding =>
        if binding.hold.isSome || !binding.destinations.isEmpty then [binding.record config rule]
        else []) :=
    mapM_eq_ok fun binding hbinding => HoldBinding.records_eq (h binding hbinding)
  -- bindings without a record give empty lists, which are gone after flattening
  have hflatten : ∀ bindings : List HoldBinding,
      (bindings.map fun binding =>
        if binding.hold.isSome || !binding.destinations.isEmpty then [binding.record config rule]
        else []).flatten =
        ((bindings.filter fun binding => binding.hold.isSome || !binding.destinations.isEmpty).map
          (.ofRule rule)).map (Origin.record config) := by
    intro bindings
    induction bindings with
    | nil => rfl
    | cons binding rest ih =>
        rw [List.map_cons, List.flatten_cons, ih, List.filter_cons]
        split <;> rfl
  rw [group, hrecords]
  show Except.ok (Group.mk _ (List.flatten _)) = _
  rw [hflatten]
  rfl

namespace Substitution

/-- What a substitution becomes when it can be sent. -/
def sentOutcome (config : Config) (substitution : Substitution) : Option Outcome :=
  match substitution.device, substitution.destination with
  | none, some destination =>
    destination.events.head?.map fun event => .everywhere ⟨.ofCombo substitution.source, event⟩
  | some id, some destination => some (.onDevice id (substitution.record config id destination))
  | _, none => none

/-- A substitution that can be sent has its outcome. -/
theorem outcome_eq {config : Config} {substitution : Substitution} (h : substitution.Sendable) :
    substitution.outcome config = .ok (substitution.sentOutcome config) := by
  rw [outcome, sentOutcome]
  cases hdestination : substitution.destination with
  | none => cases substitution.device <;> rfl
  | some destination =>
      obtain ⟨pressed, modifiers, hresolve⟩ := h destination hdestination
      have hpress : destination.keyPress substitution.context = .ok (pressed, modifiers) := by
        rw [Destination.keyPress, hresolve]
      have hevents : destination.events = [Event.press pressed modifiers] := by
        rw [Destination.events, hresolve]
        rfl
      simp only [hpress]
      cases substitution.device with
      | none => simp only [hevents]; rfl
      | some id => simp only [record, hevents]; rfl

/-- The modifications among the outcomes of substitutions. -/
theorem modifications_sentOutcome (config : Config) (substitutions : List Substitution) :
    modifications (substitutions.filterMap (sentOutcome config)) =
      substitutions.filterMap modification? := by
  rw [modifications, List.filterMap_filterMap]
  refine List.filterMap_congr fun substitution _ => ?_
  rw [sentOutcome, modification?]
  cases substitution.device with
  | none => cases substitution.destination with
    | none => rfl
    | some destination =>
        simp only [Option.bind_map]
        cases destination.events.head? <;> rfl
  | some id => cases substitution.destination <;> rfl

/-- The records of single devices among the outcomes of substitutions. -/
theorem deviceRecords_sentOutcome (config : Config) (substitutions : List Substitution) :
    deviceRecords (substitutions.filterMap (sentOutcome config)) =
      (substitutions.filterMap origin?).map fun origin => (origin.1, origin.2.record config) := by
  rw [deviceRecords, List.filterMap_filterMap, List.map_filterMap]
  refine List.filterMap_congr fun substitution _ => ?_
  rw [sentOutcome, origin?]
  cases substitution.device with
  | none => cases substitution.destination with
    | none => rfl
    | some destination =>
        simp only [Option.bind_map]
        cases destination.events.head? <;> rfl
  | some id => cases substitution.destination <;> rfl

end Substitution

/-! ## The document -/

namespace Config

variable {config : Config}

/-- All destinations of a configuration can be sent to. What rules hold is left out. -/
structure Sendable (config : Config) : Prop where
  substitutions : ∀ substitution ∈ config.substitutions, substitution.Sendable
  bindings : ∀ scope ∈ config.scopes, ∀ binding ∈ scope.bindings, binding.toBinding.Sendable
  rules : ∀ rule ∈ config.rules, ∀ binding ∈ rule.bindings, binding.toBinding.Sendable

/-- In a sound configuration every destination can be sent. -/
theorem Sound.sendable (h : config.Sound) : config.Sendable where
  substitutions := h.substitutions
  bindings := h.bindings
  rules := fun rule hrule binding hbinding => (h.rules rule hrule binding hbinding).1

/-- The document of a valid configuration. -/
def output (config : Config) : Document where
  showInMenuBar := config.showInMenuBar
  profile := config.profile
  devices := config.devices.map fun device => ⟨device.identifiers.forProfile, device.ignored⟩
  simpleModifications := config.substitutions.filterMap Substitution.modification?
  groups := config.outline.map (Origin.group config)

/-- The groups of the devices are outlined by the origins of their records. -/
theorem deviceGroups_eq (config : Config) :
    Substitution.deviceGroups
        (config.deviceOrigins.map fun origin => (origin.1, origin.2.record config)) =
      ((config.deviceOrigins.map Prod.fst).eraseDups.map fun id =>
        ("Device " ++ toString id.index ++ " simple maps",
          (config.deviceOrigins.filter (·.1 = id)).map Prod.snd)).map (Origin.group config) := by
  rw [Substitution.deviceGroups, List.map_map, List.map_map]
  refine List.map_congr_left fun id _ => ?_
  rw [Function.comp_apply, Origin.group, List.filter_map, List.map_map, List.map_map]
  rfl

/-- A configuration whose destinations can all be sent to has a document, and it is the outlined
one. -/
theorem document_eq (h : config.Sendable) : config.document = .ok config.output := by
  -- none of the three traversals meets a declaration that cannot be sent
  have hbases : config.bases.mapM (Base.groups config config.layerVariables) =
      .ok (config.bases.map fun base => base.outline.map (Origin.group config)) :=
    mapM_eq_ok fun base hbase => Base.groups_eq fun scope hscope =>
      h.bindings scope (List.mem_flatMap.mpr ⟨base, hbase, hscope⟩)
  have hrules : config.rules.mapM (Rule.group config) =
      .ok (config.rules.map fun rule => Origin.group config (rule.fullDescription, rule.origins)) :=
    mapM_eq_ok fun rule hrule => Rule.group_eq (h.rules rule hrule)
  have hsubstitutions : config.substitutions.mapM (Substitution.outcome config) =
      .ok (config.substitutions.map (Substitution.sentOutcome config)) :=
    mapM_eq_ok fun substitution hsubstitution =>
      Substitution.outcome_eq (h.substitutions substitution hsubstitution)
  -- what is left of the outcomes is sorted into modifications and records of devices
  have hreduce : (config.substitutions.map (Substitution.sentOutcome config)).reduceOption =
      config.substitutions.filterMap (Substitution.sentOutcome config) := by
    show (List.map _ _).filterMap id = _
    rw [List.filterMap_map]
    rfl
  have hgroups : (config.bases.map fun base => base.outline.map (Origin.group config)).flatten =
      (config.bases.flatMap Base.outline).map (Origin.group config) := by
    rw [List.map_flatMap]
    rfl
  rw [document, hbases, hrules, hsubstitutions]
  show Except.ok (Document.mk _ _ _ _ _) = _
  rw [hreduce, Substitution.modifications_sentOutcome, Substitution.deviceRecords_sentOutcome,
    hgroups, output, outline, List.map_append, List.map_append, ← deviceGroups_eq, List.map_map]
  rfl

/-- The records of the document come from the origins of the configuration, in their order. -/
theorem records_output (config : Config) :
    config.output.records = config.origins.map (Origin.record config) := by
  rw [Document.records, output, List.flatMap_map, origins, List.map_flatMap]
  rfl

end Config

/-- A configuration compiles exactly when it is valid, and then to its output, whatever the compiler
has compiled before. -/
theorem Compiler.compile_eq_ok_iff {compiler : Compiler} {config : Config} {document : Document} :
    (compiler.compile config).2 = .ok document ↔ config.Valid ∧ document = config.output := by
  rw [← config.validate_passes_iff, compile]
  rcases hvalidate : config.validate with ⟨state, _ | violation⟩
  · have hvalid := config.validate_passes_iff.mp (congrArg Prod.snd hvalidate)
    simp [Config.document_eq hvalid.sound.sendable, eq_comm]
  · simp

/-- A configuration that passes validation compiles to its output. -/
theorem Compiler.compile_of_passes {compiler : Compiler} {config : Config}
    (h : config.validate.2 = none) : (compiler.compile config).2 = .ok config.output :=
  compile_eq_ok_iff.mpr ⟨config.validate_passes_iff.mp h, rfl⟩

/-- A compilation fails with the violation with which validation does, and with no other. -/
theorem Compiler.compile_eq_error_iff {compiler : Compiler} {config : Config}
    {violation : Violation} :
    (compiler.compile config).2 = .error violation ↔ config.validate.2 = some violation := by
  rw [compile]
  rcases hvalidate : config.validate with ⟨state, _ | found⟩
  · have hvalid := config.validate_passes_iff.mp (congrArg Prod.snd hvalidate)
    simp [Config.document_eq hvalid.sound.sendable]
  · simp

/-- A compilation keeps the claims of its validation. -/
theorem Compiler.registry_compile (compiler : Compiler) (config : Config) :
    (compiler.compile config).1.registry = config.validate.1.registry := by
  rw [compile]
  rcases config.validate with ⟨state, _ | violation⟩ <;> rfl

/-- `origins` says of the records of a document, one by one, where they come from: all of them come
from the declarations of the configuration, and every declaration gives its record once. -/
structure Config.Traced (config : Config) (document : Document) (origins : List Origin) : Prop where
  records : document.records = origins.map (Origin.record config)
  declared : origins.Perm config.declared

/-- The document of a configuration is traced by its origins. -/
theorem Config.traced_output (config : Config) : config.Traced config.output config.origins :=
  ⟨config.records_output, config.origins_perm_declared⟩

/-! ## What compiles -/

/-- A configuration compiles exactly when it is valid. -/
theorem Compiler.compiles_iff_valid (compiler : Compiler) (config : Config) :
    (∃ document, (compiler.compile config).2 = .ok document) ↔ config.Valid := by
  constructor
  · rintro ⟨document, h⟩
    exact (compile_eq_ok_iff.mp h).1
  · intro h
    exact ⟨config.output, compile_eq_ok_iff.mpr ⟨h, rfl⟩⟩

/-- A base on one device with a layer of arrow keys, and with another layer nested in that one which
binds the same key. -/
def Config.arrows : Config where
  devices := [⟨.product 7504 24926, .onDevice, false⟩]
  bases := [{
    trigger := ⟨.f16, ∅⟩
    device := some ⟨0⟩
    bindings := [{ source := ⟨.f, ∅⟩, destinations := [⟨.key .a, ∅⟩] }]
    layers := .cons
      { key := .w, bindings := [{ source := ⟨.h, ∅⟩, destinations := [⟨.key .leftArrow, ∅⟩] }] }
      (.cons
        { key := .r, bindings := [{ source := ⟨.h, ∅⟩, destinations := [⟨.key .rightArrow, ∅⟩] }] }
        .nil .nil) .nil }]

/-- The base with arrows can be compiled. -/
theorem Compiler.compile_arrows :
    (({} : Compiler).compile .arrows).2 = .ok Config.arrows.output :=
  compile_of_passes (by decide +kernel)

end KeyRemap
