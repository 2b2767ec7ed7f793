import KeyRemap.Proofs.Separation
import KeyRemap.Proofs.Wording

/-!
# Descriptions carry no behaviour

Bases, layers, bindings and rules may be described. `Config.undescribed` is the configuration in
which nothing is. It makes the same checks but for the texts in them, and its document has the same
groups of the same records but for their descriptions. So configurations that differ in descriptions
alone fail alike, or compile to documents that differ in descriptions alone
(`Compiler.descriptions_irrelevant`).
-/

namespace KeyRemap

/-! ## Nothing described -/

/-- The binding without its description. -/
def Binding.undescribed (binding : Binding) : Binding :=
  { binding with description := none }

/-- The binding without its description. -/
def ScopedBinding.undescribed (binding : ScopedBinding) : ScopedBinding :=
  { binding with toBinding := binding.toBinding.undescribed }

/-- The binding without its description. -/
def HoldBinding.undescribed (binding : HoldBinding) : HoldBinding :=
  { binding with toBinding := binding.toBinding.undescribed }

/-- The layer without its description and those of its bindings. -/
def Layer.undescribed (layer : Layer) : Layer :=
  { layer with
    description := none
    bindings := layer.bindings.map ScopedBinding.undescribed }

/-- The base without its description and those of all that it arms. -/
def Base.undescribed (base : Base) : Base :=
  { base with
    description := none
    bindings := base.bindings.map ScopedBinding.undescribed
    layers := base.layers.map Layer.undescribed }

/-- The rule without its description and those of its bindings. -/
def Rule.undescribed (rule : Rule) : Rule :=
  { rule with
    description := none
    bindings := rule.bindings.map HoldBinding.undescribed }

/-- The configuration with nothing described. -/
def Config.undescribed (config : Config) : Config :=
  { config with
    rules := config.rules.map Rule.undescribed
    bases := config.bases.map Base.undescribed }

/-- Two configurations differ at most in descriptions. -/
def Config.SameButDescriptions (a b : Config) : Prop :=
  a.undescribed = b.undescribed

instance (a b : Config) : Decidable (a.SameButDescriptions b) :=
  inferInstanceAs (Decidable (a.undescribed = b.undescribed))

/-- The record without its description. -/
def Record.undescribed (record : Record) : Record :=
  { record with description := "" }

/-- The group without its description and those of its records. -/
def Group.undescribed (group : Group) : Group :=
  ⟨"", group.records.map Record.undescribed⟩

/-- The document without the descriptions of its groups and of its records. -/
def Document.undescribed (document : Document) : Document :=
  { document with groups := document.groups.map Group.undescribed }

/-- What is described changes neither what anything is reached by nor what it sends. -/
def Replacement.undescribe : Replacement where
  binding := ScopedBinding.undescribed
  layer := Layer.undescribed
  base := Base.undescribed
  source_binding _ := rfl
  destinations_binding _ := rfl
  key_layer _ := rfl
  bindings_layer _ := rfl
  trigger_base _ := rfl
  device_base _ := rfl
  bindings_base _ := rfl
  layers_base _ := rfl

/-- The origin with nothing described in what it tells of. -/
def Origin.undescribed : Origin → Origin
  | .ofRule rule binding => .ofRule rule.undescribed binding.undescribed
  | origin => Replacement.undescribe.origin origin

/-! ## The same checks but for their texts -/

/-- A binding of a rule is checked alike whatever is described, but for the texts of the checks. -/
theorem HoldBinding.unplaced_checks (config : Config) (rule : Rule) (binding : HoldBinding) :
    (binding.undescribed.checks config.undescribed rule.undescribed).map Check.unplaced =
      (binding.checks config rule).map Check.unplaced := by
  have hbinding := Binding.unplaced_checks (a := binding.toBinding.undescribed)
    (b := binding.toBinding) rfl rfl rule.undescribed.name rule.name [] (config.device? rule.device)
  have hhold : ∀ hold : Hold, ∀ context other,
      (hold.action.checks context).map Check.unplaced =
        (hold.action.checks other).map Check.unplaced := by
    intro hold context other
    cases hold.action with
    | key pressed modifiers => rfl
    | shell command =>
        rw [Hold.Action.checks, Hold.Action.checks]
        split <;> rfl
  rw [checks, checks, List.map_append, List.map_append, List.map_flatMap, List.map_flatMap]
  refine congrArg₂ (· ++ ·) hbinding ?_
  exact List.flatMap_congr fun hold _ => hhold hold _ _

namespace Config

variable (config : Config)

/-- A configuration with nothing described makes the same checks but for their texts. -/
theorem unplaced_checks :
    config.undescribed.checks.map Check.unplaced = config.checks.map Check.unplaced := by
  have hbases : (config.undescribed.bases.flatMap (Base.checks config.undescribed)).map
      Check.unplaced = (config.bases.flatMap (Base.checks config)).map Check.unplaced := by
    rw [undescribed, List.flatMap_map, List.map_flatMap, List.map_flatMap]
    exact List.flatMap_congr fun base _ => Replacement.undescribe.unplaced_checks config base
  have hrules : (config.undescribed.rules.flatMap fun rule =>
      rule.bindings.flatMap (HoldBinding.checks config.undescribed rule)).map Check.unplaced =
        (config.rules.flatMap fun rule =>
          rule.bindings.flatMap (HoldBinding.checks config rule)).map Check.unplaced := by
    simp only [undescribed, List.flatMap_map, List.map_flatMap, Rule.undescribed]
    refine List.flatMap_congr fun rule _ => List.flatMap_congr fun binding _ => ?_
    exact binding.unplaced_checks config rule
  rw [checks, List.map_append, List.map_append, hbases, hrules, checks, List.map_append,
    List.map_append]
  rfl

end Config

/-! ## The same records but for their descriptions -/

/-- The record of an origin only repeats descriptions in its own. -/
theorem Origin.undescribed_record (config : Config) (origin : Origin) :
    (origin.undescribed.record config.undescribed).undescribed =
      (origin.record config).undescribed := by
  -- guards name variables, and these come from keys alone
  have hguards := Replacement.undescribe.guards_origin config origin
  cases origin with
  | trigger base =>
      have htrigger : base.undescribed.triggerGuards config.undescribed =
          base.triggerGuards config := hguards
      show (base.undescribed.triggerRecord config.undescribed).undescribed = _
      rw [record, Base.triggerRecord, htrigger, Base.triggerRecord]
      rfl
  | toggle parent layer nested =>
      have htoggle : (Replacement.undescribe.scope parent).toggleGuards config.undescribed =
          parent.toggleGuards config := hguards
      show (Scope.toggle config.undescribed (Replacement.undescribe.scope parent)
        ((Replacement.undescribe.scope parent).enter (Replacement.undescribe.layer layer)
          (nested.map Replacement.undescribe.layer)) layer.undescribed).undescribed = _
      rw [Scope.toggle, htoggle, Replacement.undescribe.scope_enter,
        Replacement.undescribe.variableName_scope]
      rfl
  | content scope binding =>
      exact congrArg (fun guards =>
        (scope.bindingRecord guards binding.toBinding binding.sent).undescribed) hguards
  | ofRule rule binding =>
      show (binding.undescribed.record config.undescribed rule.undescribed).undescribed =
        (binding.record config rule).undescribed
      rw [HoldBinding.record, HoldBinding.record]
      cases hhold : binding.hold <;> simp only [HoldBinding.undescribed, hhold] <;> rfl
  | ofSubstitution substitution id destination => rfl

/-! ## The same groups but for their descriptions -/

namespace Outline

/-- The outline with every origin replaced and no group named. -/
def unnamed (onOrigin : Origin → Origin) (outline : Outline) : Outline :=
  ⟨outline.own.map onOrigin, outline.groups.map fun group => ("", group.2.map onOrigin)⟩

variable (onOrigin : Origin → Origin)

/-- Outlines one after another lose their names one by one. -/
theorem unnamed_append (a b : Outline) :
    (a ++ b).unnamed onOrigin = a.unnamed onOrigin ++ b.unnamed onOrigin := by
  show Outline.mk ((a.own ++ b.own).map _) ((a.groups ++ b.groups).map _) =
    Outline.mk (_ ++ _) (_ ++ _)
  rw [List.map_append, List.map_append]
  rfl

/-- A group of its own loses its name with the others. -/
theorem unnamed_setApart (outline : Outline) (description : String) :
    (outline.setApart description).unnamed onOrigin = (outline.unnamed onOrigin).setApart "" := rfl

/-- Joined outlines lose their names one by one. -/
theorem unnamed_join (outlines : List Outline) :
    (join outlines).unnamed onOrigin = join (outlines.map (unnamed onOrigin)) := by
  induction outlines with
  | nil => rfl
  | cons outline rest ih =>
      show (outline ++ join rest).unnamed onOrigin = _
      rw [unnamed_append, ih]
      rfl

end Outline

namespace Scope

/-- The scope with nothing described in it or on the way to it. -/
def undescribed (scope : Scope) : Scope :=
  Replacement.undescribe.scope scope

/-- Entering a layer is the same step whatever is described. -/
theorem enter_undescribed (scope : Scope) (layer : Layer) (nested : Forest Layer) :
    scope.undescribed.enter layer.undescribed (nested.map Layer.undescribed) =
      (scope.enter layer nested).undescribed :=
  Replacement.undescribe.scope_enter scope layer nested

/-- The outline of a binding is the same whatever is described, but for the names of groups. -/
theorem unnamed_bindingOutline (scope : Scope) (binding : ScopedBinding) :
    (scope.undescribed.bindingOutline binding.undescribed).unnamed id =
      (scope.bindingOutline binding).unnamed Origin.undescribed := by
  have hdestinations : binding.undescribed.destinations = binding.destinations := rfl
  have hseparate : binding.undescribed.separate = binding.separate := rfl
  rw [bindingOutline, bindingOutline, hdestinations, hseparate]
  split
  · rfl
  · cases binding.separate <;> rfl

/-- The outline of the bindings of a scope is the same whatever is described, but for the names of
groups. -/
theorem unnamed_bindingsOutline (scope : Scope) :
    scope.undescribed.bindingsOutline.unnamed id =
      scope.bindingsOutline.unnamed Origin.undescribed := by
  have hbindings : scope.undescribed.bindings = scope.bindings.map ScopedBinding.undescribed :=
    Replacement.undescribe.bindings_scope scope
  rw [bindingsOutline, hbindings, bindingsOutline, Outline.unnamed_join, Outline.unnamed_join,
    List.map_map, List.map_map, List.map_map]
  congr 1
  exact List.map_congr_left fun binding _ => scope.unnamed_bindingOutline binding

/-- The outline of the layers of a scope is the same whatever is described, but for the names of
groups. -/
theorem unnamed_layersOutline (scope : Scope) (forest : Forest Layer) :
    (scope.undescribed.layersOutline (forest.map Layer.undescribed)).unnamed id =
      (scope.layersOutline forest).unnamed Origin.undescribed := by
  induction forest generalizing scope with
  | nil => rfl
  | cons layer nested next ihn ihs =>
      have hseparate : layer.undescribed.separate = layer.separate := rfl
      have hnested := ihn (scope.enter layer nested)
      rw [← enter_undescribed] at hnested
      have hbindings := (scope.enter layer nested).unnamed_bindingsOutline
      rw [← enter_undescribed] at hbindings
      rw [Forest.map, layersOutline, layersOutline, hseparate, Outline.unnamed_append,
        Outline.unnamed_append, ihs]
      congr 1
      cases layer.separate <;>
        simp only [if_true, if_false, Bool.false_eq_true, Outline.unnamed_setApart,
          Outline.unnamed_append, hnested, hbindings] <;> rfl

end Scope

/-- A base with nothing described gives the same groups but for their names. -/
theorem Base.unnamed_outline (base : Base) :
    base.undescribed.outline.map Prod.snd =
      base.outline.map fun group => group.2.map Origin.undescribed := by
  have hbindings := (Scope.ofBase base).unnamed_bindingsOutline
  have hlayers := (Scope.ofBase base).unnamed_layersOutline base.layers
  have hwhole : ({ own := [.trigger base.undescribed] } ++
      (Scope.ofBase base.undescribed).bindingsOutline ++
      (Scope.ofBase base.undescribed).layersOutline base.undescribed.layers : Outline).unnamed id =
        ({ own := [.trigger base] } ++ (Scope.ofBase base).bindingsOutline ++
          (Scope.ofBase base).layersOutline base.layers : Outline).unnamed Origin.undescribed := by
    rw [Outline.unnamed_append, Outline.unnamed_append, Outline.unnamed_append,
      Outline.unnamed_append, ← hbindings, ← hlayers]
    rfl
  -- both are set apart as a whole, and only the names of the groups are left out
  have hgroups := congrArg (fun outline : Outline => (outline.setApart "").groups.map Prod.snd) hwhole
  simpa [outline, Outline.setApart, Outline.unnamed, Function.comp_def] using hgroups

/-- The origins of a rule are the same whatever is described. -/
theorem Rule.origins_undescribed (rule : Rule) :
    rule.undescribed.origins = rule.origins.map Origin.undescribed := by
  rw [origins, origins, undescribed, List.filter_map, List.map_map, List.map_map]
  rfl

namespace Config

variable (config : Config)

/-- The group of origins, without its description and those of its records. -/
def undescribedGroup (origins : List Origin) : Group :=
  ⟨"", origins.map fun origin => (origin.record config).undescribed⟩

/-- A group without descriptions is told by the origins of its records alone. -/
theorem undescribed_group (group : String × List Origin) :
    (Origin.group config group).undescribed = config.undescribedGroup group.2 := by
  rw [Origin.group, Group.undescribed, List.map_map]
  rfl

/-- Origins with nothing described give the same group without descriptions. -/
theorem undescribedGroup_undescribed (origins : List Origin) :
    config.undescribed.undescribedGroup (origins.map Origin.undescribed) =
      config.undescribedGroup origins := by
  rw [undescribedGroup, undescribedGroup, List.map_map]
  congr 1
  exact List.map_congr_left fun origin _ => origin.undescribed_record config

/-- The groups of the bases are the same whatever is described, but for the descriptions of their
own. -/
theorem baseGroups_undescribed :
    config.undescribed.baseGroups.map Group.undescribed =
      config.baseGroups.map Group.undescribed := by
  have hbase : ∀ base : Base,
      base.undescribed.outline.map (Group.undescribed ∘ Origin.group config.undescribed) =
        base.outline.map (Group.undescribed ∘ Origin.group config) := by
    intro base
    calc base.undescribed.outline.map (Group.undescribed ∘ Origin.group config.undescribed)
      _ = (base.undescribed.outline.map Prod.snd).map config.undescribed.undescribedGroup := by
          rw [List.map_map]
          exact List.map_congr_left fun group _ => config.undescribed.undescribed_group group
      _ = base.outline.map fun group =>
            config.undescribed.undescribedGroup (group.2.map Origin.undescribed) := by
          rw [base.unnamed_outline, List.map_map]
          rfl
      _ = base.outline.map (Group.undescribed ∘ Origin.group config) := by
          refine List.map_congr_left fun group _ => ?_
          rw [undescribedGroup_undescribed, Function.comp_apply, undescribed_group]
  rw [baseGroups, baseGroups, undescribed, List.map_map, List.map_map, List.flatMap_map,
    List.map_flatMap, List.map_flatMap]
  exact List.flatMap_congr fun base _ => hbase base

/-- The groups of the rules are the same whatever is described, but for the descriptions of their
own. -/
theorem ruleGroups_undescribed :
    config.undescribed.ruleGroups.map Group.undescribed =
      config.ruleGroups.map Group.undescribed := by
  rw [ruleGroups, ruleGroups, undescribed, List.map_map, List.map_map, List.map_map]
  refine List.map_congr_left fun rule _ => ?_
  show (Origin.group config.undescribed (_, rule.undescribed.origins)).undescribed =
    (Origin.group config (_, rule.origins)).undescribed
  rw [undescribed_group, undescribed_group, rule.origins_undescribed, undescribedGroup_undescribed]

/-- The groups of the devices do not depend on any description. -/
theorem deviceGroups_undescribed : config.undescribed.deviceGroups = config.deviceGroups := by
  rw [deviceGroups, deviceGroups, deviceOrigins, deviceOrigins,
    ← Substitution.deviceRecords_sentOutcome, ← Substitution.deviceRecords_sentOutcome]
  rfl

/-- A configuration with nothing described has the same document but for descriptions. -/
theorem undescribed_output : config.undescribed.output.undescribed = config.output.undescribed := by
  have hgroups : config.undescribed.output.groups.map Group.undescribed =
      config.output.groups.map Group.undescribed := by
    simp only [groups_output, List.map_append, baseGroups_undescribed, ruleGroups_undescribed,
      deviceGroups_undescribed]
  exact congrArg (fun groups => { config.output with groups := groups }) hgroups

end Config

/-- Whatever is described and however, both configurations leave the same claims, and both fail with
the same violation but for its texts, or both compile to the same document but for descriptions. -/
theorem Compiler.descriptions_irrelevant (compiler : Compiler) {a b : Config}
    (h : a.SameButDescriptions b) :
    (compiler.compile a).1.registry = (compiler.compile b).1.registry ∧
      ((∃ v w, (compiler.compile a).2 = .error v ∧ (compiler.compile b).2 = .error w ∧
        v.unplaced = w.unplaced) ∨
      ∃ d e, (compiler.compile a).2 = .ok d ∧ (compiler.compile b).2 = .ok e ∧
        d.undescribed = e.undescribed) := by
  have hsame : a.undescribed = b.undescribed := h
  have hchecks : a.checks.map Check.unplaced = b.checks.map Check.unplaced := by
    rw [← a.unplaced_checks, hsame, b.unplaced_checks]
  obtain ⟨hregistry, hviolations⟩ := Config.validate_unplaced hchecks
  refine ⟨by rw [registry_compile, registry_compile, hregistry], ?_⟩
  cases ha : a.validate.2 with
  | some v => cases hb : b.validate.2 with
    | none => simp [ha, hb] at hviolations
    | some w =>
        rw [ha, hb] at hviolations
        exact Or.inl ⟨v, w, compile_eq_error_iff.mpr ha, compile_eq_error_iff.mpr hb,
          Option.some.inj hviolations⟩
  | none => cases hb : b.validate.2 with
    | some w => simp [ha, hb] at hviolations
    | none =>
        refine Or.inr ⟨a.output, b.output, compile_of_passes ha, compile_of_passes hb, ?_⟩
        rw [← a.undescribed_output, hsame, b.undescribed_output]

/-- The desk with a description of everything that can have one. -/
def Config.labelledDesk : Config :=
  { Config.desk with
    rules := Config.desk.rules.map fun rule =>
      { rule with
        description := some "Hands"
        bindings := rule.bindings.map fun binding => { binding with description := some "Shift" } }
    bases := Config.desk.bases.map fun base =>
      { base with
        description := some "Desk"
        bindings := base.bindings.map fun binding => { binding with description := some "Apps" }
        layers := base.layers.map fun layer =>
          { layer with
            description := some "Arrows"
            bindings := layer.bindings.map fun binding =>
              { binding with description := some "Left" } } } }

/-- The labels of the desk change its document, but nothing in it other than descriptions. -/
theorem Compiler.descriptions_irrelevant_desk :
    Config.desk.SameButDescriptions .labelledDesk ∧
      ∃ d e, (({} : Compiler).compile .desk).2 = .ok d ∧
        (({} : Compiler).compile .labelledDesk).2 = .ok e ∧ d ≠ e ∧
        d.undescribed = e.undescribed := by
  have hsame : Config.desk.SameButDescriptions .labelledDesk := by decide +kernel
  refine ⟨hsame, ?_⟩
  obtain ⟨-, ⟨v, w, herror, -, -⟩ | ⟨d, e, hd, he, hdocuments⟩⟩ := descriptions_irrelevant {} hsame
  · rw [compile_desk] at herror
    cases herror
  · refine ⟨d, e, hd, he, ?_, hdocuments⟩
    rw [(compile_eq_ok_iff.mp hd).2, (compile_eq_ok_iff.mp he).2]
    decide +kernel

end KeyRemap
