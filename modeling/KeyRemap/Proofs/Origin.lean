import KeyRemap.Config.Document
import KeyRemap.Proofs.ScopeTree
import Mathlib.Data.List.Perm.Basic

/-!
# Where records come from

Every record of a document comes from one declaration: it is the trigger of a base, the toggle of a
layer, or the record of a binding or of a substitution. `Config.outline` is the document with every
record replaced by its origin, and `Config.origins` lists the origins in the order of the records;
`Config.declared` lists the same origins in the order of the declarations.
-/

namespace KeyRemap

/-- The declaration from which a record comes. -/
inductive Origin where
  | trigger (base : Base)
  | toggle (parent : Scope) (layer : Layer) (nested : Forest Layer)
  | content (scope : Scope) (binding : ScopedBinding)
  | ofRule (rule : Rule) (binding : HoldBinding)
  | ofSubstitution (substitution : Substitution) (id : Device.Index) (destination : Destination)

/-! ## The record of an origin -/

/-- The actions of a binding, as far as its destinations can be sent to. -/
def Binding.sent (binding : Binding) : List Action :=
  binding.destinations.filterMap fun destination => destination.resolve.toOption

/-- The events that send a destination. -/
def Destination.events (destination : Destination) : List Event :=
  (destination.resolve.toOption.map Event.ofAction).toList

/-- The record of a binding of a rule. -/
def HoldBinding.record (config : Config) (rule : Rule) (binding : HoldBinding) : Record :=
  let events := binding.sent.map Event.ofAction
  let record : Record := {
    description := binding.description.getD binding.source.text
    source := .ofCombo binding.source
    guards := config.deviceGuards rule.device }
  match binding.hold with
  | some hold => binding.holdRecord record hold rule.timing events
  | none => { record with pressed := events }

/-- The record of a substitution on one device. -/
def Substitution.record (config : Config) (substitution : Substitution) (id : Device.Index)
    (destination : Destination) : Record where
  description := substitution.source.text ++ " -> " ++ destination.target.display
  source := .ofCombo substitution.source
  pressed := destination.events
  guards := config.deviceGuards (some id)

/-- The modification of all devices that a substitution makes, if it makes one. -/
def Substitution.modification? (substitution : Substitution) : Option SimpleModification :=
  match substitution.device, substitution.destination with
  | none, some destination =>
    destination.events.head?.map fun event => ⟨.ofCombo substitution.source, event⟩
  | _, _ => none

namespace Origin

/-- The record that comes from an origin. -/
def record (config : Config) : Origin → Record
  | .trigger base => base.triggerRecord config
  | .toggle parent layer nested => parent.toggle config (parent.enter layer nested) layer
  | .content scope binding =>
    scope.bindingRecord (scope.bindingGuards config config.layerVariables) binding.toBinding
      binding.sent
  | .ofRule rule binding => binding.record config rule
  | .ofSubstitution substitution id destination => substitution.record config id destination

/-- The guards of the record that comes from an origin. -/
def guards (config : Config) : Origin → List Guard
  | .trigger base => base.triggerGuards config
  | .toggle parent _ _ => parent.toggleGuards config
  | .content scope _ => scope.bindingGuards config config.layerVariables
  | .ofRule rule _ => config.deviceGuards rule.device
  | .ofSubstitution _ id _ => config.deviceGuards (some id)

/-- Neither a strict trigger nor a hold changes the guards. -/
theorem guards_record (config : Config) (origin : Origin) :
    (origin.record config).guards = origin.guards config := by
  cases origin with
  | trigger base =>
      rw [record, Base.triggerRecord]
      cases base.strict <;> rfl
  | ofRule rule binding =>
      rw [record, HoldBinding.record]
      cases binding.hold <;> rfl
  | _ => rfl

end Origin

/-! ## Outlines -/

/-- What a part of a base contributes, with every record replaced by its origin. -/
structure Outline where
  own : List Origin := []
  groups : List (String × List Origin) := []

namespace Outline

/-- One outline after another. -/
def append (a b : Outline) : Outline :=
  ⟨a.own ++ b.own, a.groups ++ b.groups⟩

instance : Append Outline := ⟨append⟩

/-- Outlines one after another. -/
def join (outlines : List Outline) : Outline :=
  outlines.foldr (· ++ ·) {}

/-- The outline in a group of its own, which comes before those that it holds. -/
def setApart (outline : Outline) (description : String) : Outline :=
  ⟨[], (description, outline.own) :: outline.groups⟩

/-- All origins of an outline. -/
def origins (outline : Outline) : List Origin :=
  outline.own ++ outline.groups.flatMap Prod.snd

end Outline

namespace Scope

/-- The outline of a binding. A binding without destinations gives no record. -/
def bindingOutline (scope : Scope) (binding : ScopedBinding) : Outline :=
  if binding.destinations.isEmpty then {}
  else
    let outline : Outline := { own := [.content scope binding] }
    if binding.separate then outline.setApart (scope.placeWithDescription binding.toBinding)
    else outline

/-- The outline of the bindings of a scope. -/
def bindingsOutline (scope : Scope) : Outline :=
  .join (scope.bindings.map scope.bindingOutline)

/-- The outline of the layers of a forest that is declared directly in a scope. -/
def layersOutline (scope : Scope) : Forest Layer → Outline
  | .nil => {}
  | .cons layer nested next =>
    let own := scope.enter layer nested
    let outline : Outline :=
      { own := [.toggle scope layer nested] } ++ own.bindingsOutline ++ own.layersOutline nested
    (if layer.separate then outline.setApart own.description else outline) ++
      scope.layersOutline next

end Scope

/-- The groups of a base. -/
def Base.outline (base : Base) : List (String × List Origin) :=
  let root := Scope.ofBase base
  let outline : Outline :=
    { own := [.trigger base] } ++ root.bindingsOutline ++ root.layersOutline base.layers
  (outline.setApart base.groupDescription).groups

/-- The origins of a rule: its bindings that send or hold something. -/
def Rule.origins (rule : Rule) : List Origin :=
  (rule.bindings.filter fun binding => binding.hold.isSome || !binding.destinations.isEmpty).map
    (.ofRule rule)

/-- The origin of a substitution on one device, with that device. -/
def Substitution.origin? (substitution : Substitution) : Option (Device.Index × Origin) :=
  match substitution.device, substitution.destination with
  | some id, some destination => some (id, .ofSubstitution substitution id destination)
  | _, _ => none

namespace Config

/-- The origins of the substitutions on single devices, each with its device. -/
def deviceOrigins (config : Config) : List (Device.Index × Origin) :=
  config.substitutions.filterMap Substitution.origin?

/-- The groups of the document, with every record replaced by its origin. -/
def outline (config : Config) : List (String × List Origin) :=
  config.bases.flatMap Base.outline ++
    config.rules.map (fun rule => (rule.fullDescription, rule.origins)) ++
    (config.deviceOrigins.map Prod.fst).eraseDups.map fun id =>
      ("Device " ++ toString id.index ++ " simple maps",
        (config.deviceOrigins.filter (·.1 = id)).map Prod.snd)

/-- The origins of all records, in the order of the document. -/
def origins (config : Config) : List Origin :=
  config.outline.flatMap Prod.snd

end Config

/-! ## The origins in the order of the declarations -/

namespace Scope

/-- The bindings of a scope that send something. -/
def emitting (scope : Scope) : List ScopedBinding :=
  scope.bindings.filter fun binding => !binding.destinations.isEmpty

/-- The origins of the bindings of a scope. -/
def bindingOrigins (scope : Scope) : List Origin :=
  scope.emitting.map (.content scope)

/-- The origins of the layers of a forest that is declared directly in a scope. -/
def layerOrigins (scope : Scope) : Forest Layer → List Origin
  | .nil => []
  | .cons layer nested next =>
    let own := scope.enter layer nested
    .toggle scope layer nested ::
      (own.bindingOrigins ++ own.layerOrigins nested ++ scope.layerOrigins next)

end Scope

/-- The origins of a base, in the order of its declarations. -/
def Base.declared (base : Base) : List Origin :=
  let root := Scope.ofBase base
  .trigger base :: (root.bindingOrigins ++ root.layerOrigins base.layers)

/-- The origins of a configuration, in the order of its declarations. -/
def Config.declared (config : Config) : List Origin :=
  config.bases.flatMap Base.declared ++ config.rules.flatMap Rule.origins ++
    config.deviceOrigins.map Prod.snd

/-! ## Which origins there are -/

/-- The scope and the binding of an origin, if it is that of a binding of a scope. -/
def Origin.content? : Origin → Option (Scope × ScopedBinding)
  | .content scope binding => some (scope, binding)
  | _ => none

namespace Scope

/-- A scope with each of its bindings that send something. -/
def contents (scope : Scope) : List (Scope × ScopedBinding) :=
  scope.emitting.map (scope, ·)

/-- The bindings of a scope that send something are the contents among its own origins. -/
theorem contents_bindingOrigins (scope : Scope) :
    scope.bindingOrigins.filterMap Origin.content? = scope.contents := by
  rw [bindingOrigins, contents, List.filterMap_map]
  exact congrFun (List.filterMap_eq_map (f := fun binding => (scope, binding))) _

/-- The bindings of the scopes within a forest are the contents among the origins of its layers. -/
theorem contents_layerOrigins (scope : Scope) (forest : Forest Layer) :
    (scope.layerOrigins forest).filterMap Origin.content? =
      (scope.within forest).flatMap contents := by
  induction forest generalizing scope with
  | nil => rfl
  | cons layer nested next ihn ihs =>
      rw [layerOrigins, List.filterMap_cons_none rfl, List.filterMap_append, List.filterMap_append,
        contents_bindingOrigins, ihn, ihs, within_cons, List.flatMap_cons, List.flatMap_append,
        List.append_assoc]

/-- The toggle of a layer that is a root is among the origins of the forest. -/
theorem toggle_mem_layerOrigins {scope : Scope} {forest : Forest Layer} {layer : Layer}
    {nested : Forest Layer} (h : (layer, nested) ∈ forest.trees) :
    .toggle scope layer nested ∈ scope.layerOrigins forest := by
  induction forest with
  | nil => simp at h
  | cons root inner next _ ih =>
      rw [Forest.trees_cons, List.mem_cons] at h
      rw [layerOrigins, List.mem_cons, List.mem_append]
      rcases h with h | h
      · obtain ⟨rfl, rfl⟩ := Prod.mk.inj h
        exact Or.inl rfl
      · exact Or.inr (Or.inr (ih h))

/-- A layer declared in a scope of a forest is among the origins of that forest. -/
theorem toggle_mem_layerOrigins_of_mem {outer scope : Scope} {forest : Forest Layer} {layer : Layer}
    {nested : Forest Layer} (hscope : scope ∈ outer.within forest)
    (h : (layer, nested) ∈ scope.nested.trees) :
    .toggle scope layer nested ∈ outer.layerOrigins forest := by
  induction forest generalizing outer with
  | nil => simp at hscope
  | cons root inner next ihn ihs =>
      rw [within_cons, List.mem_cons, List.mem_append] at hscope
      rw [layerOrigins, List.mem_cons, List.mem_append, List.mem_append]
      rcases hscope with rfl | hscope | hscope
      · exact Or.inr (Or.inl (Or.inr (toggle_mem_layerOrigins h)))
      · exact Or.inr (Or.inl (Or.inr (ihn hscope)))
      · exact Or.inr (Or.inr (ihs hscope))

end Scope

namespace Base

/-- The bindings of the scopes of a base are the contents among the origins of the base. -/
theorem contents_declared (base : Base) :
    base.declared.filterMap Origin.content? = base.scopes.flatMap Scope.contents := by
  rw [declared, List.filterMap_cons_none rfl, List.filterMap_append, Scope.contents_bindingOrigins,
    Scope.contents_layerOrigins, scopes, List.flatMap_cons, layerScopes]

/-- A base declares its own trigger. -/
theorem trigger_mem_declared (base : Base) : .trigger base ∈ base.declared :=
  List.mem_cons_self

/-- Every layer declared in a scope of a base has its toggle among the origins of the base. -/
theorem toggle_mem_declared {base : Base} {scope : Scope} {layer : Layer} {nested : Forest Layer}
    (hscope : scope ∈ base.scopes) (h : (layer, nested) ∈ scope.nested.trees) :
    .toggle scope layer nested ∈ base.declared := by
  refine List.mem_cons_of_mem _ (List.mem_append_right _ ?_)
  rcases List.mem_cons.mp hscope with rfl | hscope
  · exact Scope.toggle_mem_layerOrigins h
  · exact Scope.toggle_mem_layerOrigins_of_mem hscope h

end Base

/-- A binding with a hold is among the origins of its rule. -/
theorem Rule.mem_origins {rule : Rule} {binding : HoldBinding} (h : binding ∈ rule.bindings)
    (hhold : binding.hold.isSome) : .ofRule rule binding ∈ rule.origins := by
  refine List.mem_map_of_mem (List.mem_filter.mpr ⟨h, ?_⟩)
  rw [hhold, Bool.true_or]

/-- What is found neither in rules nor in substitutions is found in the bases alone. -/
theorem Config.filterMap_declared {α : Type} {f : Origin → Option α} (config : Config)
    (hrule : ∀ rule binding, f (.ofRule rule binding) = none)
    (hsubstitution : ∀ substitution id destination,
      f (.ofSubstitution substitution id destination) = none) :
    config.declared.filterMap f = config.bases.flatMap fun base => base.declared.filterMap f := by
  have hrules : (config.rules.flatMap Rule.origins).filterMap f = [] := by
    rw [List.filterMap_flatMap, List.flatMap_eq_nil_iff]
    intro rule _
    rw [Rule.origins, List.filterMap_map]
    exact List.filterMap_eq_nil_iff.mpr fun binding _ => hrule rule binding
  have hdevices : (config.deviceOrigins.map Prod.snd).filterMap f = [] := by
    rw [deviceOrigins, List.map_filterMap, List.filterMap_filterMap, List.filterMap_eq_nil_iff]
    intro substitution _
    rw [Substitution.origin?]
    cases substitution.device with
    | none => rfl
    | some id => cases substitution.destination with
      | none => rfl
      | some destination => exact hsubstitution substitution id destination
  rw [declared, List.filterMap_append, List.filterMap_append, hrules, hdevices, List.append_nil,
    List.append_nil, List.filterMap_flatMap]

/-- The origins of bindings are those of the scopes of a configuration, scope by scope. -/
theorem Config.contents_declared (config : Config) :
    config.declared.filterMap Origin.content? = config.scopes.flatMap Scope.contents := by
  rw [config.filterMap_declared (fun _ _ => rfl) (fun _ _ _ => rfl), scopes, List.flatMap_assoc]
  simp only [Base.contents_declared]

/-- The records of bindings are those of the bindings of the scopes that send something. -/
theorem Config.content_mem_declared {config : Config} {scope : Scope} {binding : ScopedBinding} :
    .content scope binding ∈ config.declared ↔
      scope ∈ config.scopes ∧ binding ∈ scope.emitting := by
  have hcontents : .content scope binding ∈ config.declared ↔
      (scope, binding) ∈ config.declared.filterMap Origin.content? := by
    rw [List.mem_filterMap]
    constructor
    · intro h
      exact ⟨_, h, rfl⟩
    · rintro ⟨origin, horigin, heq⟩
      cases origin with
      | content other inner =>
          obtain ⟨rfl, rfl⟩ := Prod.mk.inj (Option.some.inj heq)
          exact horigin
      | _ => cases heq
  rw [hcontents, config.contents_declared]
  simp [Scope.contents]

/-! ## The two orders -/

namespace Outline

/-- Outlines one after another hold the origins of both. -/
theorem origins_append (a b : Outline) : (a ++ b).origins.Perm (a.origins ++ b.origins) := by
  show (a.own ++ b.own ++ (a.groups ++ b.groups).flatMap Prod.snd).Perm
    (a.own ++ a.groups.flatMap Prod.snd ++ (b.own ++ b.groups.flatMap Prod.snd))
  rw [List.flatMap_append, List.append_assoc, List.append_assoc]
  exact (List.perm_append_comm_assoc _ _ _).append_left _

/-- Joined outlines hold the origins of all. -/
theorem origins_join (outlines : List Outline) :
    (join outlines).origins.Perm (outlines.flatMap origins) := by
  induction outlines with
  | nil => exact List.Perm.nil
  | cons outline rest ih =>
      rw [List.flatMap_cons]
      exact (outline.origins_append (join rest)).trans (ih.append_left _)

/-- The origins of a first record, of bindings and of layers. -/
theorem origins_tree (first : Origin) (bindings layers : Outline) :
    ({ own := [first] } ++ bindings ++ layers : Outline).origins.Perm
      (first :: (bindings.origins ++ layers.origins)) := by
  refine (origins_append _ layers).trans ?_
  exact (origins_append { own := [first] } bindings).append_right layers.origins

end Outline

namespace Scope

/-- The outline of the bindings of a scope holds their origins. -/
theorem origins_bindingsOutline (scope : Scope) :
    scope.bindingsOutline.origins.Perm scope.bindingOrigins := by
  have hbinding : ∀ binding, (scope.bindingOutline binding).origins =
      if binding.destinations.isEmpty then [] else [.content scope binding] := by
    intro binding
    rw [bindingOutline]
    split
    · rfl
    · cases binding.separate <;> rfl
  have hflat : ∀ bindings : List ScopedBinding,
      (bindings.map scope.bindingOutline).flatMap Outline.origins =
        (bindings.filter fun binding => !binding.destinations.isEmpty).map (.content scope) := by
    intro bindings
    induction bindings with
    | nil => rfl
    | cons binding rest ih =>
        rw [List.map_cons, List.flatMap_cons, ih, hbinding, List.filter_cons]
        cases binding.destinations.isEmpty <;> rfl
  rw [bindingOrigins, emitting, ← hflat]
  exact Outline.origins_join _

/-- The outline of the layers of a scope holds their origins. -/
theorem origins_layersOutline (scope : Scope) (forest : Forest Layer) :
    (scope.layersOutline forest).origins.Perm (scope.layerOrigins forest) := by
  induction forest generalizing scope with
  | nil => exact List.Perm.nil
  | cons layer nested next ihn ihs =>
      have htree := (Outline.origins_tree (.toggle scope layer nested)
        (scope.enter layer nested).bindingsOutline
        ((scope.enter layer nested).layersOutline nested)).trans
          ((((scope.enter layer nested).origins_bindingsOutline.append (ihn _))).cons _)
      rw [layersOutline, layerOrigins]
      refine (Outline.origins_append _ _).trans ?_
      -- a layer that is set apart keeps its origins
      cases layer.separate with
      | true => exact htree.append (ihs scope)
      | false => exact htree.append (ihs scope)

end Scope

/-- The groups of a base hold the origins of its declarations. -/
theorem Base.outline_perm (base : Base) : (base.outline.flatMap Prod.snd).Perm base.declared := by
  refine (Outline.origins_tree (.trigger base) (Scope.ofBase base).bindingsOutline
    ((Scope.ofBase base).layersOutline base.layers)).trans (List.Perm.cons _ ?_)
  exact (Scope.ofBase base).origins_bindingsOutline.append (Scope.origins_layersOutline _ _)

/-- Putting together what belongs to the same device neither adds nor loses anything. -/
theorem perm_flatMap_eraseDups {α : Type} (list : List (Device.Index × α)) :
    ((list.map Prod.fst).eraseDups.flatMap fun id => list.filter (·.1 = id)).Perm list := by
  induction hlength : list.length using Nat.strongRecOn generalizing list with
  | ind n ih =>
      cases list with
      | nil => exact List.Perm.nil
      | cons first rest =>
          -- what belongs to other devices than the first entry, put together by induction
          have hothers := ih (rest.filter fun entry => !(entry.1 == first.1)).length
            (by rw [← hlength]; exact Nat.lt_succ_of_le (List.length_filter_le _ _)) _ rfl
          have hmap : (rest.map Prod.fst).filter (fun id => !(id == first.1)) =
              (rest.filter fun entry => !(entry.1 == first.1)).map Prod.fst := by
            rw [List.filter_map]
            rfl
          have hfilter : ∀ id ∈ ((rest.filter fun entry => !(entry.1 == first.1)).map
              Prod.fst).eraseDups, (first :: rest).filter (·.1 = id) =
                (rest.filter fun entry => !(entry.1 == first.1)).filter (·.1 = id) := by
            intro id hid
            obtain ⟨entry, hentry, rfl⟩ := List.mem_map.mp (List.mem_eraseDups.mp hid)
            have hne : entry.1 ≠ first.1 := by simpa using (List.mem_filter.mp hentry).2
            rw [List.filter_cons_of_neg (by simpa using hne.symm), List.filter_filter]
            refine List.filter_congr fun other _ => ?_
            by_cases hother : other.1 = entry.1 <;> simp [hother, hne]
          rw [List.map_cons, List.eraseDups_cons, hmap, List.flatMap_cons,
            List.flatMap_congr hfilter]
          refine (hothers.append_left _).trans ?_
          have hrest : rest.filter (fun entry => !(entry.1 == first.1)) =
              (first :: rest).filter fun entry => !decide (entry.1 = first.1) := by
            rw [List.filter_cons_of_neg (by simp)]
            rfl
          rw [hrest]
          exact List.filter_append_perm _ _

/-- The document holds the records of the declarations, each once. -/
theorem Config.origins_perm_declared (config : Config) :
    config.origins.Perm config.declared := by
  rw [origins, outline, declared, List.flatMap_append, List.flatMap_append]
  refine List.Perm.append (List.Perm.append ?_ ?_) ?_
  · rw [List.flatMap_assoc]
    exact List.Perm.flatMap_left _ fun base _ => base.outline_perm
  · rw [List.flatMap_map]
  · rw [List.flatMap_map, ← List.map_flatMap]
    exact (perm_flatMap_eraseDups config.deviceOrigins).map Prod.snd

end KeyRemap
