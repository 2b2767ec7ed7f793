import KeyRemap.Proofs.Demands
import KeyRemap.Proofs.DeviceScoping

/-!
# What a script is converted to

`Script.ConvertsTo` relates a script to a configuration clause by clause and place by place: each
list keeps its length and its order, and layers keep their nesting. The conversion computes just this
relation (`Script.config_eq_ok_iff`), one clause after another. A reference ends up as the number of
the device that it means, so nothing that is declared for a device loses it on the way to the document
(`Script.config_faithful`).
-/

namespace KeyRemap.Script

variable {devices : List DeviceClause}

/-! ## Clauses and what they declare -/

/-- What a substitution is converted to. -/
structure SubstitutionClause.ConvertsTo (devices : List DeviceClause) (clause : SubstitutionClause)
    (substitution : Substitution) : Prop where
  source : Combo.parse clause.source = .ok substitution.source
  device : Option.Rel (fun reference id => reference.Means devices id) clause.device
    substitution.device
  destination : substitution.destination = clause.destination.map Destination.ofText

/-- The action of a hold that a clause gives: a command comes before a combination. -/
def RuleBindingClause.action? (clause : RuleBindingClause) (combo : Option Combo) :
    Option Hold.Action :=
  (clause.holdShell.map .shell).or (combo.map fun combo => .key combo.key combo.modifiers)

/-- What a binding of a rule does on hold. A combination that is given is read even if a command comes
before it. -/
def RuleBindingClause.HeldAs (clause : RuleBindingClause) (hold : Option Hold) : Prop :=
  ∃ combo : Option Combo,
    Option.Rel (fun text combo => Combo.parse text = .ok combo) clause.hold combo ∧
      hold = (clause.action? combo).map fun action => ⟨action, clause.timing⟩

/-- What a binding of a rule is converted to. -/
structure RuleBindingClause.ConvertsTo (clause : RuleBindingClause) (binding : HoldBinding) :
    Prop where
  source : Combo.parse clause.source = .ok binding.source
  destinations : binding.destinations = clause.destinations.map Destination.ofText
  description : binding.description = clause.description
  hold : clause.HeldAs binding.hold

/-- What a rule is converted to. An empty description counts as none. -/
structure RuleClause.ConvertsTo (devices : List DeviceClause) (clause : RuleClause) (rule : Rule) :
    Prop where
  description : rule.description = clause.description.filter fun description => !description.isEmpty
  device : Option.Rel (fun reference id => reference.Means devices id) clause.device rule.device
  timing : rule.timing = clause.timing.getD {}
  bindings : List.Forall₂ RuleBindingClause.ConvertsTo clause.bindings rule.bindings

/-- What a binding of a base or a layer is converted to. -/
structure ScopedBindingClause.ConvertsTo (clause : ScopedBindingClause) (binding : ScopedBinding) :
    Prop where
  source : Combo.parse clause.source = .ok binding.source
  destinations : binding.destinations = clause.destinations.map Destination.ofText
  description : binding.description = clause.description
  separate : binding.separate = clause.separate

/-- What a layer is converted to. Of the combination that is written for it, only the key counts. -/
structure LayerClause.ConvertsTo (clause : LayerClause) (layer : Layer) : Prop where
  key : ∃ combo, Combo.parse clause.key = .ok combo ∧ layer.key = combo.key
  description : layer.description = clause.description
  separate : layer.separate = clause.separate
  bindings : List.Forall₂ ScopedBindingClause.ConvertsTo clause.bindings layer.bindings

/-- What a base sends when it is tapped alone. Of the combination that is written, only the key
counts. -/
def BaseClause.AloneAs (clause : BaseClause) (alone : Base.Alone) : Prop :=
  match clause.ifAlone with
  | none => alone = {}
  | some text =>
    ∃ combo, Combo.parse text = .ok combo ∧ alone = ⟨combo.key, some (clause.aloneHold.getD 100)⟩

/-- What a base is converted to. -/
structure BaseClause.ConvertsTo (devices : List DeviceClause) (clause : BaseClause) (base : Base) :
    Prop where
  trigger : Combo.parse clause.key = .ok base.trigger
  device : Option.Rel (fun reference id => reference.Means devices id) clause.device base.device
  description : base.description = clause.description
  alone : clause.AloneAs base.alone
  strict : base.strict = clause.strict.timing?
  combo : Option.Rel (fun text combo => Combo.parse text = .ok combo) clause.combo base.combo
  bindings : List.Forall₂ ScopedBindingClause.ConvertsTo clause.bindings base.bindings
  layers : clause.layers.Forall₂ LayerClause.ConvertsTo base.layers

end KeyRemap.Script

namespace KeyRemap

/-- What a script is converted to: every clause in its place, and every reference to a device as the
first device that it means. -/
structure Script.ConvertsTo (script : Script) (config : Config) : Prop where
  profile : config.profile = script.profile
  showInMenuBar : config.showInMenuBar = script.showInMenuBar
  devices : config.devices = script.devices.map (·.device)
  substitutions : List.Forall₂ (Script.SubstitutionClause.ConvertsTo script.devices)
    script.substitutions config.substitutions
  rules : List.Forall₂ (Script.RuleClause.ConvertsTo script.devices) script.rules config.rules
  bases : List.Forall₂ (Script.BaseClause.ConvertsTo script.devices) script.bases config.bases

namespace Script

variable {devices : List DeviceClause}

/-! ## Parts of clauses -/

/-- A text is read as a combination where it is one, whatever the context. -/
theorem readCombo_eq_ok_iff {context text : String} {combo : Combo} :
    readCombo context text = .ok combo ↔ Combo.parse text = .ok combo := by
  rw [readCombo]
  cases Combo.parse text <;> simp [Except.mapError]

/-- A reference is resolved to the device that it means, and no reference to none. -/
theorem resolveDevice_eq_ok_iff {device : Option Reference} {id : Option Device.Index} :
    resolveDevice devices device = .ok id ↔
      Option.Rel (fun reference id => reference.Means devices id) device id := by
  cases device with
  | none =>
      constructor
      · rintro ⟨⟩
        exact .none
      · rintro ⟨⟩
        rfl
  | some reference =>
      rw [resolveDevice]
      cases id with
      | none =>
          refine iff_of_false ?_ (by rintro ⟨⟩)
          cases reference.resolve? devices <;> simp
      | some id =>
          rw [Option.rel_some_some, ← Reference.resolve?_eq_some_iff]
          cases reference.resolve? devices <;> simp

/-- Setting times changes the timing of the hold where they are given, and nothing without a hold. -/
theorem foldl_timingEdits (binding : HoldBinding) (timing : Hold.Timing) :
    (timingEdits timing).foldl HoldBinding.edit binding =
      binding.setTiming fun earlier => timing.orElse earlier := by
  obtain ⟨threshold, delayedAction, aloneTimeout⟩ := timing
  obtain ⟨toBinding, hold⟩ := binding
  cases hold <;> cases threshold <;> cases delayedAction <;> cases aloneTimeout <;> rfl

/-- Destinations that are added one by one stand in the order in which they are written. -/
theorem foldl_to (binding : HoldBinding) (texts : List String) :
    (texts.map fun text => HoldBinding.Edit.to (.ofText text)).foldl HoldBinding.edit binding =
      { binding with destinations := binding.destinations ++ texts.map Destination.ofText } := by
  induction texts generalizing binding with
  | nil => rw [List.map_nil, List.map_nil, List.append_nil]; rfl
  | cons text rest ih =>
      rw [List.map_cons, List.foldl_cons, ih, List.map_cons, HoldBinding.edit, Binding.to]
      simp only [List.append_assoc, List.singleton_append]

/-- The edits of a clause give the binding that the clause describes: a command that is run on hold
comes before a key that is held. -/
theorem RuleBindingClause.ofEdits_eq (clause : RuleBindingClause) (source : Combo)
    (combo : Option Combo) :
    HoldBinding.ofEdits source
        (clause.destinations.map (fun text => .to (.ofText text)) ++
          (combo.map fun combo => .onHold (.key combo.key combo.modifiers)).toList ++
          (clause.holdShell.map fun command => .onHold (.shell command)).toList ++
          timingEdits clause.timing ++
          (clause.description.map .describe).toList) =
      { source
        destinations := clause.destinations.map Destination.ofText
        description := clause.description
        hold := (clause.action? combo).map fun action => ⟨action, clause.timing⟩ } := by
  rw [HoldBinding.ofEdits, List.foldl_append, List.foldl_append, List.foldl_append,
    List.foldl_append, foldl_to, foldl_timingEdits, action?]
  cases combo <;> cases clause.holdShell <;> cases clause.description <;>
    simp [HoldBinding.edit, HoldBinding.setAction, HoldBinding.setTiming]

/-! ## Conversions of clauses -/

/-- A substitution is converted to what its clause says, and only to that. -/
theorem SubstitutionClause.convert_eq_ok_iff {clause : SubstitutionClause}
    {substitution : Substitution} :
    clause.convert devices = .ok substitution ↔ clause.ConvertsTo devices substitution := by
  simp only [convert, bind_eq_ok_iff, readCombo_eq_ok_iff, resolveDevice_eq_ok_iff]
  constructor
  · rintro ⟨source, hsource, device, hdevice, h⟩
    cases h
    exact ⟨hsource, hdevice, rfl⟩
  · rintro ⟨hsource, hdevice, hdestination⟩
    exact ⟨_, hsource, _, hdevice, by rw [← hdestination]; rfl⟩

/-- A binding of a rule is converted to what its clause says, and only to that. -/
theorem RuleBindingClause.convert_eq_ok_iff {clause : RuleBindingClause} {binding : HoldBinding} :
    clause.convert = .ok binding ↔ clause.ConvertsTo binding := by
  simp only [convert, bind_eq_ok_iff, readCombo_eq_ok_iff, option_mapM_eq_ok_iff, ofEdits_eq]
  constructor
  · rintro ⟨source, hsource, combo, hcombo, h⟩
    cases h
    exact ⟨hsource, rfl, rfl, combo, hcombo, rfl⟩
  · obtain ⟨⟨source, destinations, description⟩, hold⟩ := binding
    rintro ⟨hsource, rfl, rfl, combo, hcombo, rfl⟩
    exact ⟨source, hsource, combo, hcombo, rfl⟩

/-- An empty description is none. -/
theorem named_getD (description : Option String) (device : Option Device.Index) :
    Rule.named (description.getD "") device =
      { description := description.filter fun description => !description.isEmpty, device } := by
  cases description with
  | none => rfl
  | some description =>
      cases h : description.isEmpty <;>
        simp only [Rule.named, Option.filter, Option.getD_some, h] <;> rfl

/-- A rule is converted to what its clause says, and only to that. -/
theorem RuleClause.convert_eq_ok_iff {clause : RuleClause} {rule : Rule} :
    clause.convert devices = .ok rule ↔ clause.ConvertsTo devices rule := by
  simp only [convert, bind_eq_ok_iff, resolveDevice_eq_ok_iff, mapM_eq_ok_iff,
    RuleBindingClause.convert_eq_ok_iff, named_getD]
  constructor
  · rintro ⟨device, hdevice, bindings, hbindings, h⟩
    cases h
    exact ⟨rfl, hdevice, rfl, hbindings⟩
  · obtain ⟨description, device, timing, bindings⟩ := rule
    rintro ⟨rfl, hdevice, rfl, hbindings⟩
    exact ⟨device, hdevice, bindings, hbindings, rfl⟩

/-- A binding of a base or a layer is converted to what its clause says, and only to that. -/
theorem ScopedBindingClause.convert_eq_ok_iff {context : String} {clause : ScopedBindingClause}
    {binding : ScopedBinding} : clause.convert context = .ok binding ↔ clause.ConvertsTo binding := by
  simp only [convert, bind_eq_ok_iff, readCombo_eq_ok_iff]
  constructor
  · rintro ⟨source, hsource, h⟩
    cases h
    exact ⟨hsource, rfl, rfl, rfl⟩
  · obtain ⟨⟨source, destinations, description⟩, separate⟩ := binding
    rintro ⟨hsource, rfl, rfl, rfl⟩
    exact ⟨source, hsource, rfl⟩

/-- A layer is converted to what its clause says, and only to that. -/
theorem LayerClause.convert_eq_ok_iff {clause : LayerClause} {layer : Layer} :
    clause.convert = .ok layer ↔ clause.ConvertsTo layer := by
  simp only [convert, bind_eq_ok_iff, readCombo_eq_ok_iff, mapM_eq_ok_iff,
    ScopedBindingClause.convert_eq_ok_iff]
  constructor
  · rintro ⟨trigger, htrigger, bindings, hbindings, h⟩
    cases h
    exact ⟨⟨trigger, htrigger, rfl⟩, rfl, rfl, hbindings⟩
  · obtain ⟨key, description, separate, bindings⟩ := layer
    rintro ⟨⟨trigger, htrigger, rfl⟩, rfl, rfl, hbindings⟩
    exact ⟨trigger, htrigger, bindings, hbindings, rfl⟩

/-- What a base sends when it is tapped alone is what its clause says, and nothing else. -/
theorem BaseClause.alone_eq_ok_iff {clause : BaseClause} {alone : Base.Alone} :
    clause.alone = .ok alone ↔ clause.AloneAs alone := by
  rw [BaseClause.alone, AloneAs]
  cases clause.ifAlone with
  | none => simp [eq_comm]
  | some text =>
      simp only [bind_eq_ok_iff, readCombo_eq_ok_iff]
      refine exists_congr fun combo => and_congr_right fun _ => ?_
      cases clause.aloneHold <;> exact ⟨fun h => (Except.ok.inj h).symm, fun h => h ▸ rfl⟩

/-- A base is converted to what its clause says, and only to that. -/
theorem BaseClause.convert_eq_ok_iff {clause : BaseClause} {base : Base} :
    clause.convert devices = .ok base ↔ clause.ConvertsTo devices base := by
  simp only [convert, bind_eq_ok_iff, readCombo_eq_ok_iff, resolveDevice_eq_ok_iff, alone_eq_ok_iff,
    option_mapM_eq_ok_iff, mapM_eq_ok_iff, forest_mapM_eq_ok_iff,
    ScopedBindingClause.convert_eq_ok_iff, LayerClause.convert_eq_ok_iff]
  constructor
  · rintro ⟨trigger, htrigger, device, hdevice, alone, halone, combo, hcombo, bindings, hbindings,
      layers, hlayers, h⟩
    cases h
    exact ⟨htrigger, hdevice, rfl, halone, rfl, hcombo, hbindings, hlayers⟩
  · obtain ⟨trigger, device, description, alone, strict, combo, bindings, layers⟩ := base
    rintro ⟨htrigger, hdevice, rfl, halone, rfl, hcombo, hbindings, hlayers⟩
    exact ⟨trigger, htrigger, device, hdevice, alone, halone, combo, hcombo, bindings, hbindings,
      layers, hlayers, rfl⟩

/-- A script becomes a configuration exactly where each clause declares what stands in its place. -/
theorem config_eq_ok_iff {script : Script} {config : Config} :
    script.config = .ok config ↔ script.ConvertsTo config := by
  simp only [Script.config, bind_eq_ok_iff, mapM_eq_ok_iff, SubstitutionClause.convert_eq_ok_iff,
    RuleClause.convert_eq_ok_iff, BaseClause.convert_eq_ok_iff]
  constructor
  · rintro ⟨substitutions, hsubstitutions, rules, hrules, bases, hbases, h⟩
    cases h
    exact ⟨rfl, rfl, rfl, hsubstitutions, hrules, hbases⟩
  · obtain ⟨profile, showInMenuBar, devices, substitutions, rules, bases⟩ := config
    rintro ⟨rfl, rfl, rfl, hsubstitutions, hrules, hbases⟩
    exact ⟨substitutions, hsubstitutions, rules, hrules, bases, hbases, rfl⟩

/-! ## Devices -/

/-- A clause that may be meant for one device. -/
inductive Entry where
  | ofSubstitution (clause : SubstitutionClause)
  | ofBase (clause : BaseClause)
  | ofRule (clause : RuleClause)

/-- The reference to the device for which an entry is meant. -/
def Entry.device : Entry → Option Reference
  | .ofSubstitution clause => clause.device
  | .ofBase clause => clause.device
  | .ofRule clause => clause.device

/-- What an entry declares. -/
inductive Entry.ConvertsTo (devices : List DeviceClause) : Entry → Declaration → Prop where
  | ofSubstitution {clause : SubstitutionClause} {substitution : Substitution}
      (h : clause.ConvertsTo devices substitution) :
      ConvertsTo devices (.ofSubstitution clause) (.ofSubstitution substitution)
  | ofBase {clause : BaseClause} {base : Base} (h : clause.ConvertsTo devices base) :
      ConvertsTo devices (.ofBase clause) (.ofBase base)
  | ofRule {clause : RuleClause} {rule : Rule} (h : clause.ConvertsTo devices rule) :
      ConvertsTo devices (.ofRule clause) (.ofRule rule)

/-- The entries of a script, in the order of the declarations of a configuration. -/
def entries (script : Script) : List Entry :=
  script.substitutions.map .ofSubstitution ++ script.bases.map .ofBase ++ script.rules.map .ofRule

/-- The entries of a script are converted one by one to the declarations of its configuration. -/
theorem ConvertsTo.entries {script : Script} {config : Config} (h : script.ConvertsTo config) :
    List.Forall₂ (Entry.ConvertsTo script.devices) script.entries config.declarations := by
  refine List.rel_append (List.rel_append ?_ ?_) ?_
  · rw [List.forall₂_map_left_iff, List.forall₂_map_right_iff]
    exact h.substitutions.imp fun _ _ => .ofSubstitution
  · rw [List.forall₂_map_left_iff, List.forall₂_map_right_iff]
    exact h.bases.imp fun _ _ => .ofBase
  · rw [List.forall₂_map_left_iff, List.forall₂_map_right_iff]
    exact h.rules.imp fun _ _ => .ofRule

/-- What an entry declares is meant for the device to which the entry refers. -/
theorem Entry.ConvertsTo.device {entry : Entry} {declaration : Declaration}
    (h : entry.ConvertsTo devices declaration) :
    Option.Rel (fun reference id => reference.Means devices id) entry.device declaration.device := by
  cases h with
  | ofSubstitution h => exact h.device
  | ofBase h => exact h.device
  | ofRule h => exact h.device

/-- What a reference means is a device of the script. -/
theorem Reference.Means.exists_clause {reference : Reference} {id : Device.Index}
    (h : reference.Means devices id) : ∃ clause, devices[id.index]? = some clause := by
  cases reference with
  | index number =>
      obtain ⟨rfl, hlt⟩ := h
      exact ⟨_, List.getElem?_eq_getElem hlt⟩
  | name called =>
      obtain ⟨⟨clause, hclause, -⟩, -⟩ := h
      exact ⟨clause, hclause⟩

/-- The number of a device in a configuration stands for what the script declares under that
number. -/
theorem ConvertsTo.device?_eq {script : Script} {config : Config} (h : script.ConvertsTo config)
    {id : Device.Index} {clause : DeviceClause} (hclause : script.devices[id.index]? = some clause) :
    config.device? (some id) = some clause.device := by
  show config.devices[id.index]? = _
  rw [h.devices, List.getElem?_map, hclause, Option.map_some]

/-- All numbers of devices in a configuration that comes from a script are declared. -/
theorem ConvertsTo.index_lt {script : Script} {config : Config} (h : script.ConvertsTo config)
    {declaration : Declaration} (hdeclaration : declaration ∈ config.declarations)
    {id : Device.Index} (hid : declaration.device = some id) : id.index < config.devices.length := by
  obtain ⟨entry, -, hentry⟩ := exists_of_mem_right h.entries hdeclaration
  have hdevice := hentry.device
  rw [hid] at hdevice
  generalize entry.device = reference at hdevice
  cases hdevice with
  | some hmeans =>
      obtain ⟨clause, hclause⟩ := hmeans.exists_clause
      rw [h.devices, List.length_map]
      exact (List.getElem?_eq_some_iff.mp hclause).1

/-- The records of a declaration are in force on the device to which its entry refers, and only
there: the guard of that device comes last. An entry without a reference is not scoped. -/
structure Entry.Scoped (script : Script) (config : Config) (entry : Entry) (declaration : Declaration) :
    Prop where
  named : ∀ reference, entry.device = some reference → ∃ id clause,
    reference.Means script.devices id ∧ script.devices[id.index]? = some clause ∧
      ∀ record ∈ declaration.records config, record.guards.getLast? = some (.ofDevice clause.device)
  unnamed : entry.device = none → ∀ record ∈ declaration.records config, ∀ guard ∈ record.guards,
    ∃ name value, guard = .var name value

/-- What an entry declares is scoped to the device to which the entry refers. -/
theorem ConvertsTo.scoped {script : Script} {config : Config} (h : script.ConvertsTo config)
    {entry : Entry} {declaration : Declaration}
    (hentry : entry.ConvertsTo script.devices declaration) :
    entry.Scoped script config declaration := by
  have hguards := (declaration.scopedTo config).guards
  have hdevice := hentry.device
  constructor
  · intro reference hreference
    rw [hreference] at hdevice
    generalize declaration.device = id at hdevice hguards
    cases hdevice with
    | some hmeans =>
        obtain ⟨clause, hclause⟩ := hmeans.exists_clause
        refine ⟨_, clause, hmeans, hclause, fun record hrecord => ?_⟩
        obtain ⟨demands, hdemands⟩ := hguards record hrecord
        rw [hdemands, h.device?_eq hclause, Option.map_some, Option.toList_some]
        exact List.getLast?_concat
  · intro hnone record hrecord guard hguard
    rw [hnone] at hdevice
    obtain ⟨demands, hdemands⟩ := hguards record hrecord
    generalize declaration.device = id at hdevice hdemands
    cases hdevice
    have hnobody : config.device? none = none := rfl
    rw [hdemands, hnobody, Option.map_none, Option.toList_none, List.append_nil] at hguard
    obtain ⟨demand, -, rfl⟩ := List.mem_map.mp hguard
    exact ⟨demand.1, demand.2, rfl⟩

/-- A script that is converted keeps what it declares, in its place and order, and every reference to
a device becomes the number of that device. So if the configuration compiles, each of its records
belongs to a clause, and those of a clause for one device are in force on that device only. -/
theorem config_faithful {script : Script} {config : Config} (h : script.config = .ok config) :
    script.ConvertsTo config ∧
      (∀ declaration ∈ config.declarations, ∀ id, declaration.device = some id →
        id.index < config.devices.length) ∧
      ∀ (compiler : Compiler) (document : Document), (compiler.compile config).2 = .ok document →
        document.records.Perm (config.declarations.flatMap (Declaration.records config)) ∧
          List.Forall₂ (fun entry declaration => entry.ConvertsTo script.devices declaration ∧
            entry.Scoped script config declaration) script.entries config.declarations := by
  have hconverts := config_eq_ok_iff.mp h
  refine ⟨hconverts, fun declaration hdeclaration id => hconverts.index_lt hdeclaration,
    fun compiler document hcompile => ?_⟩
  obtain ⟨-, rfl⟩ := Compiler.compile_eq_ok_iff.mp hcompile
  exact ⟨config.records_perm_declarations,
    hconverts.entries.imp fun entry declaration hentry => ⟨hentry, hconverts.scoped hentry⟩⟩

/-- Two devices of one name, a base with a layer for the name, and a rule for the number of
another. -/
def paired : Script where
  devices := [
    { name := some "apple", device := { identifiers := .product 1452 641 } },
    { name := some "sofle", device := { identifiers := .product 7504 24926 } },
    { name := some "sofle", device := { identifiers := .vendor 7504, polarity := .offDevice } }]
  rules := [{
    device := some (.index 0)
    bindings := [{ source := "any+a", hold := some "lshift", timing := { threshold := some 200 } }] }]
  bases := [{
    key := "f16"
    device := some (.name "sofle")
    bindings := [{ source := "f", destinations := ["open -a 'Finder'", "left_shift + a"] }]
    layers := .cons
      { key := "w", bindings := [{ source := "h", destinations := ["left"], separate := true }] }
      .nil .nil }]

/-- What `paired` declares. -/
def pairedConfig : Config where
  devices := [{ identifiers := .product 1452 641 }, { identifiers := .product 7504 24926 },
    { identifiers := .vendor 7504, polarity := .offDevice }]
  rules := [{
    device := some ⟨0⟩
    bindings := [{
      source := .ofList .a [.any]
      hold := some ⟨.key .leftShift ∅, { threshold := some 200 }⟩ }] }]
  bases := [{
    trigger := ⟨.f16, ∅⟩
    device := some ⟨1⟩
    bindings := [{
      source := ⟨.f, ∅⟩
      destinations := [⟨.text "open -a 'Finder'", ∅⟩, ⟨.key .a, .ofList [.leftShift]⟩] }]
    layers := .cons
      { key := .w,
        bindings := [{ source := ⟨.h, ∅⟩, destinations := [⟨.key .leftArrow, ∅⟩], separate := true }] }
      .nil .nil }]

/-- The base is meant for the first of the two devices, and all four of its records end with the guard
of that device. -/
theorem config_faithful_paired :
    paired.config = .ok pairedConfig ∧
      (({} : Compiler).compile pairedConfig).2 = .ok pairedConfig.output ∧
      paired.ConvertsTo pairedConfig ∧
      ((Declaration.ofBase pairedConfig.bases[0]).records pairedConfig).length = 4 ∧
      ∀ record ∈ (Declaration.ofBase pairedConfig.bases[0]).records pairedConfig,
        record.guards.getLast? = some (.device .onDevice (.product 7504 24926)) := by
  have hconfig : paired.config = .ok pairedConfig := by decide +kernel
  have hcompile : (({} : Compiler).compile pairedConfig).2 = .ok pairedConfig.output :=
    Compiler.compile_of_passes (by decide +kernel)
  obtain ⟨hconverts, -, hdocument⟩ := config_faithful hconfig
  obtain ⟨-, hentries⟩ := hdocument {} _ hcompile
  obtain ⟨⟨-, hbase⟩, -⟩ := List.forall₂_cons.mp hentries
  obtain ⟨id, clause, hmeans, hclause, hguards⟩ := hbase.named (.name "sofle") rfl
  have hid : Reference.resolve? paired.devices (.name "sofle") = some id :=
    Reference.resolve?_eq_some_iff.mpr hmeans
  cases hid
  cases hclause
  exact ⟨hconfig, hcompile, hconverts, rfl, hguards⟩

end Script

end KeyRemap
