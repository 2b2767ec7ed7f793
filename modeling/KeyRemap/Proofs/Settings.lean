import KeyRemap.Proofs.Guards
import KeyRemap.Proofs.Inventory

/-!
# What records set

The variables that guards ask for are set and unset by the records themselves. The record of a
trigger or of a toggle sets the variable of its scope once, when its key is pressed or once it has
been held, and unsets it when the key is released; no other record sets any variable
(`Origin.settings_record`). Every scope has one such record (`Config.armed_perm_scopes`), and every
variable in a guard is that of a scope (`Config.exists_scope_of_guard`).
-/

namespace KeyRemap

/-! ## Settings -/

/-- The variable that an event sets and its value, if it sets one. -/
def Event.setting? : Event → Option (String × Bool)
  | .setVariable name value => some (name, value)
  | _ => none

/-- The variables that a record sets and their values, by the moment at which it sets them. -/
structure Record.Settings where
  pressed : List (String × Bool) := []
  alone : List (String × Bool) := []
  heldDown : List (String × Bool) := []
  released : List (String × Bool) := []
  canceled : List (String × Bool) := []

namespace Record

/-- What a record sets. -/
def settings (record : Record) : Settings where
  pressed := record.pressed.filterMap Event.setting?
  alone := record.alone.filterMap Event.setting?
  heldDown := record.heldDown.filterMap Event.setting?
  released := record.released.filterMap Event.setting?
  canceled := (record.canceled.getD []).filterMap Event.setting?

/-- Some event of a record sets a variable. -/
def Sets (record : Record) (name : String) : Prop :=
  ∃ value, Event.setVariable name value ∈ record.pressed ++ record.alone ++ record.heldDown ++
    record.released ++ record.canceled.getD []

end Record

/-- The setting of the variable of a scope while its key is held, from the moment on at which the
key is pressed or has been held. -/
def Scope.settings (scope : Scope) (onceHeld : Bool) : Record.Settings :=
  if onceHeld then
    { heldDown := [(scope.variableName, true)], released := [(scope.variableName, false)] }
  else
    { pressed := [(scope.variableName, true)], released := [(scope.variableName, false)] }

namespace Origin

/-- The scope that is armed by the record of an origin, if it arms one. -/
def armed? : Origin → Option Scope
  | .trigger base => some (.ofBase base)
  | .toggle parent layer nested => some (parent.enter layer nested)
  | _ => none

/-- The record of an origin arms only once its key has been held: that of a strict trigger. -/
def onceHeld : Origin → Bool
  | .trigger base => base.strict.isSome
  | _ => false

/-- What the record of an origin is to set. -/
def settings (origin : Origin) : Record.Settings :=
  match origin.armed? with
  | some scope => scope.settings origin.onceHeld
  | none => {}

end Origin

/-! ## What records set -/

namespace Event

/-- What sends an action sets no variable. -/
@[simp] theorem setting?_ofAction (action : Action) : (ofAction action).setting? = none := by
  cases action <;> rfl

/-- A halt does not change what an event sets. -/
@[simp] theorem setting?_halted (event : Event) : event.halted.setting? = event.setting? := by
  cases event <;> rfl

/-- What sends actions sets no variable. -/
theorem settings_ofAction (actions : List Action) :
    (actions.map ofAction).filterMap setting? = [] := by
  simp [List.filterMap_map]

end Event

namespace Origin

/-- The record of a trigger sets the variable of its base. -/
theorem settings_triggerRecord (config : Config) (base : Base) :
    (base.triggerRecord config).settings = (Origin.trigger base).settings := by
  have harm : base.armEvents.filterMap Event.setting? = [(base.variableName, true)] := by
    rw [Base.armEvents]
    cases base.combo <;> rfl
  -- a strict trigger arms once its key has been held, any other when it is pressed
  cases hstrict : base.strict with
  | none =>
      have hspec : (Origin.trigger base).settings = (Scope.ofBase base).settings false := by
        rw [settings, armed?, onceHeld, hstrict]
        rfl
      rw [hspec, Base.triggerRecord, hstrict]
      show Record.Settings.mk (base.armEvents.filterMap Event.setting?) _ _ _ _ = _
      rw [harm]
      rfl
  | some timing =>
      have hspec : (Origin.trigger base).settings = (Scope.ofBase base).settings true := by
        rw [settings, armed?, onceHeld, hstrict]
        rfl
      rw [hspec, Base.triggerRecord, hstrict]
      show Record.Settings.mk _ _ (base.armEvents.filterMap Event.setting?) _ _ = _
      rw [harm]
      rfl

/-- The record of a binding of a rule sets nothing, with a hold or without one. -/
theorem settings_holdRecord (config : Config) (rule : Rule) (binding : HoldBinding) :
    (binding.record config rule).settings = {} := by
  have hevents := Event.settings_ofAction binding.sent
  rw [HoldBinding.record]
  cases binding.hold with
  | none =>
      show Record.Settings.mk ((binding.sent.map Event.ofAction).filterMap Event.setting?) _ _ _ _ =
        _
      rw [hevents]
      rfl
  | some hold =>
      have htap : (binding.tapEvents (binding.sent.map Event.ofAction)).filterMap Event.setting? =
          [] := by
        rw [HoldBinding.tapEvents]
        split
        · rfl
        · exact hevents
      have halted : ((binding.tapEvents (binding.sent.map Event.ofAction)).map
          Event.halted).filterMap Event.setting? = [] := by
        rw [List.filterMap_map, ← htap]
        exact List.filterMap_congr fun event _ => event.setting?_halted
      have hheld : [hold.action.event].filterMap Event.setting? = [] := by
        cases hold.action <;> rfl
      show Record.Settings.mk [] (List.filterMap _ (List.map _ _))
        ([hold.action.event].filterMap Event.setting?) [] (List.filterMap _ _) = _
      rw [halted, hheld]
      show Record.Settings.mk [] [] [] [] (List.filterMap _ (binding.tapEvents _)) = _
      rw [htap]

/-- The record of an origin sets the variable of the scope that it arms, and no other. -/
theorem settings_record (config : Config) (origin : Origin) :
    (origin.record config).settings = origin.settings := by
  cases origin with
  | trigger base => exact settings_triggerRecord config base
  | toggle parent layer nested => rfl
  | content scope binding =>
      show Record.Settings.mk ((binding.sent.map Event.ofAction).filterMap Event.setting?) _ _ _ _ =
        _
      rw [Event.settings_ofAction]
      rfl
  | ofRule rule binding => exact settings_holdRecord config rule binding
  | ofSubstitution substitution id destination =>
      have hevents : destination.events.filterMap Event.setting? = [] := by
        rw [Destination.events]
        cases destination.resolve.toOption with
        | none => rfl
        | some action => exact Event.settings_ofAction [action]
      show Record.Settings.mk (destination.events.filterMap Event.setting?) _ _ _ _ = _
      rw [hevents]
      rfl

end Origin

/-- A record sets a variable exactly if the variable is among its settings. -/
theorem Record.sets_iff {record : Record} {name : String} :
    record.Sets name ↔ ∃ value, (name, value) ∈ record.settings.pressed ++ record.settings.alone ++
      record.settings.heldDown ++ record.settings.released ++ record.settings.canceled := by
  have hsetting : ∀ event value, event.setting? = some (name, value) ↔
      event = Event.setVariable name value := by
    intro event value
    cases event <;> simp [Event.setting?]
  simp only [Sets, settings, ← List.filterMap_append, List.mem_filterMap, hsetting,
    exists_eq_right]

/-- The record of an origin sets a variable exactly if that is the variable of the scope that it
arms. -/
theorem Origin.sets_record_iff (config : Config) (origin : Origin) (name : String) :
    (origin.record config).Sets name ↔ ∃ scope ∈ origin.armed?, scope.variableName = name := by
  rw [Record.sets_iff, origin.settings_record config, settings]
  cases origin.armed? with
  | none => simp
  | some scope =>
      cases origin.onceHeld <;> simp [Scope.settings, eq_comm]

/-! ## Which scopes are armed -/

/-- The bindings of a scope arm nothing. -/
theorem Scope.armed_bindingOrigins (scope : Scope) :
    scope.bindingOrigins.filterMap Origin.armed? = [] := by
  rw [bindingOrigins, List.filterMap_map]
  exact List.filterMap_eq_nil_iff.mpr fun _ _ => rfl

/-- The layers of a forest arm the scopes within it, each its own. -/
theorem Scope.armed_layerOrigins (scope : Scope) (forest : Forest Layer) :
    (scope.layerOrigins forest).filterMap Origin.armed? = scope.within forest := by
  induction forest generalizing scope with
  | nil => rfl
  | cons layer nested next ihn ihs =>
      have htoggle : (Origin.toggle scope layer nested).armed? =
        some (scope.enter layer nested) := rfl
      rw [layerOrigins, List.filterMap_cons_some htoggle, List.filterMap_append,
        List.filterMap_append, armed_bindingOrigins, List.nil_append, ihn, ihs, within_cons]

/-- A base arms all its scopes, each once and in pre-order. -/
theorem Base.armed_declared (base : Base) :
    base.declared.filterMap Origin.armed? = base.scopes := by
  have htrigger : (Origin.trigger base).armed? = some (Scope.ofBase base) := rfl
  rw [declared, List.filterMap_cons_some htrigger, List.filterMap_append,
    Scope.armed_bindingOrigins, List.nil_append, Scope.armed_layerOrigins, scopes, layerScopes]

/-- Every scope is armed by one record. -/
theorem Config.armed_perm_scopes (config : Config) :
    (config.origins.filterMap Origin.armed?).Perm config.scopes := by
  have hdeclared : config.declared.filterMap Origin.armed? = config.scopes := by
    rw [config.filterMap_declared (fun _ _ => rfl) (fun _ _ _ => rfl), scopes]
    simp only [Base.armed_declared]
  rw [← hdeclared]
  exact config.origins_perm_declared.filterMap Origin.armed?

/-! ## The variables in guards -/

namespace Config

variable {config : Config} {origin : Origin} {name : String}

/-- A variable on the way to a scope is the variable of a scope. -/
theorem exists_scope_of_mem_variableNames {scope : Scope} (hscope : scope ∈ config.scopes)
    (hname : name ∈ scope.variableNames) : ∃ owner ∈ config.scopes, owner.variableName = name := by
  obtain ⟨hbase, hmem⟩ := mem_base_scopes hscope
  obtain ⟨owner, howner, heq, -⟩ := Base.exists_owner hmem hname
  exact ⟨owner, mem_scopes.mpr ⟨scope.base, hbase, howner⟩, heq⟩

/-- A variable of a layer of a base is the variable of a scope. -/
theorem exists_scope_of_mem_layerNames {base : Base} (hbase : base ∈ config.bases)
    (hname : name ∈ base.layerNames) : ∃ owner ∈ config.scopes, owner.variableName = name := by
  obtain ⟨owner, howner, heq⟩ := List.mem_map.mp hname
  exact ⟨owner, mem_scopes.mpr ⟨base, hbase, List.mem_cons_of_mem _ howner⟩, heq⟩

/-- The variables that a declared origin demands to be set are those of scopes. -/
theorem exists_scope_of_mem_armedNames (hdeclared : origin.DeclaredIn config)
    (hname : name ∈ origin.armedNames) : ∃ scope ∈ config.scopes, scope.variableName = name := by
  cases origin with
  | toggle parent layer nested => exact exists_scope_of_mem_variableNames hdeclared.1 hname
  | content scope binding => exact exists_scope_of_mem_variableNames hdeclared.1 hname
  | _ => cases hname

/-- The variables that a declared origin may demand to be unset are those of scopes. -/
theorem exists_scope_of_mem_originLayerNames (hdeclared : origin.DeclaredIn config)
    (hname : name ∈ origin.layerNames config) :
    ∃ scope ∈ config.scopes, scope.variableName = name := by
  cases origin with
  | trigger base => exact exists_scope_of_mem_layerNames hdeclared hname
  | content scope binding =>
      obtain ⟨base, hbase, hlayer⟩ := List.mem_flatMap.mp hname
      exact exists_scope_of_mem_layerNames hbase hlayer
  | _ => cases hname

/-- Every variable in a guard of a record is the variable of a scope. -/
theorem exists_scope_of_guard (horigin : origin ∈ config.origins)
    (hname : name ∈ (origin.record config).guards.filterMap Guard.name?) :
    ∃ scope ∈ config.scopes, scope.variableName = name := by
  have hdeclared := config.declaredIn_of_mem_origins horigin
  obtain ⟨idle, hidle, heq⟩ := (origin.guardedBy_record config).exists_idle
  rw [heq, List.mem_append] at hname
  rcases hname with harmed | hunset
  · exact exists_scope_of_mem_armedNames hdeclared harmed
  · exact exists_scope_of_mem_originLayerNames hdeclared ((hidle.mem_iff name).mp hunset).1

end Config

/-! ## The life of a variable -/

/-- The variables in guards are those of scopes; a variable is set by the records that arm the scopes
whose variable it is, and by no others; these scopes have the same path; and each of those records
sets it once, unsets it once on release, and sets nothing else. -/
theorem Compiler.variables_set_and_unset {compiler : Compiler} {config : Config}
    {document : Document} (h : (compiler.compile config).2 = .ok document) :
    document.records = config.origins.map (Origin.record config) ∧
      (config.origins.filterMap Origin.armed?).Perm config.scopes ∧
      (∀ record ∈ document.records, ∀ name ∈ record.guards.filterMap Guard.name?,
        ∃ scope ∈ config.scopes, scope.variableName = name) ∧
      (∀ origin ∈ config.origins, ∀ name,
        (origin.record config).Sets name ↔ ∃ scope ∈ origin.armed?, scope.variableName = name) ∧
      (∀ s ∈ config.scopes, ∀ t ∈ config.scopes, s.variableName = t.variableName →
        SamePath s.path t.path) ∧
      ∀ origin ∈ config.origins, ∀ scope ∈ origin.armed?,
        (origin.record config).settings = scope.settings origin.onceHeld := by
  obtain ⟨hvalid, rfl⟩ := compile_eq_ok_iff.mp h
  refine ⟨config.records_output, config.armed_perm_scopes, ?_,
    fun origin _ => origin.sets_record_iff config, hvalid.shared_variable, ?_⟩
  · intro record hrecord name hname
    rw [config.records_output] at hrecord
    obtain ⟨origin, horigin, rfl⟩ := List.mem_map.mp hrecord
    exact config.exists_scope_of_guard horigin hname
  · intro origin _ scope hscope
    rw [origin.settings_record config, Origin.settings, hscope]

/-- The variable of a base that is armed once it has been held, and those of its two layers. -/
theorem Compiler.variables_set_and_unset_desk :
    (({} : Compiler).compile .desk).2 = .ok Config.desk.output ∧
      (Config.desk.origins.filterMap Origin.armed?).Perm Config.desk.scopes ∧
      ∃ origin ∈ Config.desk.origins, ∃ scope ∈ origin.armed?,
        scope.variableName = "var_f16" ∧
        (origin.record .desk).settings =
          { heldDown := [("var_f16", true)], released := [("var_f16", false)] } := by
  obtain ⟨-, hscopes, -, -, -, hsettings⟩ := variables_set_and_unset compile_desk
  have hmem : Config.desk.origins[0] ∈ Config.desk.origins := List.getElem_mem _
  exact ⟨compile_desk, hscopes, _, hmem, _, rfl, rfl, hsettings _ hmem _ rfl⟩

end KeyRemap
