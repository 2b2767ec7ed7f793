import KeyRemap.Proofs.Guards
import KeyRemap.Proofs.Surroundings
import Mathlib.Data.Finset.Dedup

/-!
# The order of declarations

Substitutions, rules and bases may be declared in any order among themselves. The order decides in
which order records stand and guards are listed, but neither what is valid nor which records there
are and what they demand (`Compiler.order_irrelevant`).
-/

namespace KeyRemap

/-- One configuration declares what another does, in whatever order. Devices keep their places, since
they are named by their numbers. -/
structure Config.Reordered (a b : Config) : Prop where
  substitutions : a.substitutions.Perm b.substitutions
  rules : a.rules.Perm b.rules
  bases : a.bases.Perm b.bases
  devices : a.devices = b.devices

/-- What a record is whatever the order of its guards: all but the guards, and the set of these. -/
def Record.unordered (record : Record) : Record × Finset Guard :=
  ({ record with guards := [] }, record.guards.toFinset)

namespace Config.Reordered

variable {a b : Config}

/-- It does not matter which of the two configurations is named first. -/
theorem symm (h : a.Reordered b) : b.Reordered a :=
  ⟨h.substitutions.symm, h.rules.symm, h.bases.symm, h.devices.symm⟩

/-! ## Validity -/

/-- The scopes are the same in another order. -/
theorem scopes (h : a.Reordered b) : a.scopes.Perm b.scopes :=
  h.bases.flatMap_right _

/-- The claims are the same in another order. -/
theorem claims (h : a.Reordered b) : a.claims.Perm b.claims := by
  rw [Config.claims, Config.claims, device?_congr h.devices, Base.claims_congr h.devices,
    Rule.claims_congr h.devices]
  exact ((h.substitutions.map _).append (h.bases.flatMap_right _)).append (h.rules.flatMap_right _)

/-- What is valid stays so in another order. -/
theorem valid (h : a.Reordered b) (hvalid : a.Valid) : b.Valid where
  claims := by
    refine (h.claims.pairwise_iff ?_).mp hvalid.claims
    exact fun hnot hconflict => hnot hconflict.symm
  base_keys := fun base hbase => hvalid.base_keys base (h.bases.mem_iff.mpr hbase)
  layer_keys := fun base hbase => hvalid.layer_keys base (h.bases.mem_iff.mpr hbase)
  substitutions := fun substitution hsubstitution =>
    hvalid.substitutions substitution (h.substitutions.mem_iff.mpr hsubstitution)
  bindings := fun scope hscope => hvalid.bindings scope (h.scopes.mem_iff.mpr hscope)
  rules := fun rule hrule => hvalid.rules rule (h.rules.mem_iff.mpr hrule)
  shared_variable := fun s hs t ht =>
    hvalid.shared_variable s (h.scopes.mem_iff.mpr hs) t (h.scopes.mem_iff.mpr ht)

/-- Both configurations are valid or neither is. -/
theorem valid_iff (h : a.Reordered b) : a.Valid ↔ b.Valid :=
  ⟨h.valid, h.symm.valid⟩

/-! ## Records -/

/-- What is declared is the same in another order. -/
theorem declared (h : a.Reordered b) : a.declared.Perm b.declared := by
  have hdevices : a.deviceOrigins.Perm b.deviceOrigins := h.substitutions.filterMap _
  exact ((h.bases.flatMap_right _).append (h.rules.flatMap_right _)).append (hdevices.map _)

/-- Both configurations have the same layer variables. -/
theorem mem_layerVariables (h : a.Reordered b) (name : String) :
    name ∈ a.layerVariables ↔ name ∈ b.layerVariables := by
  have hnames : a.layerNames.Perm b.layerNames := h.bases.flatMap_right _
  rw [layerVariables_eq, layerVariables_eq, List.mem_eraseDups, List.mem_eraseDups, hnames.mem_iff]

/-- Every record demands the same, in whatever order. -/
theorem mem_guards (h : a.Reordered b) (origin : Origin) (guard : Guard) :
    guard ∈ origin.guards a ↔ guard ∈ origin.guards b := by
  cases origin with
  | content scope binding =>
      simp only [Origin.guards, Scope.bindingGuards, List.mem_append, List.mem_map, List.mem_filter,
        h.mem_layerVariables, deviceGuards_congr h.devices]
  | _ => rw [Origin.guards_congr h.devices rfl]

/-- The record of an origin is the same but for the order of its guards. -/
theorem unordered_record (h : a.Reordered b) (origin : Origin) :
    (origin.record a).unordered = (origin.record b).unordered := by
  have hset : (origin.record a).guards.toFinset = (origin.record b).guards.toFinset := by
    ext guard
    rw [List.mem_toFinset, List.mem_toFinset, Origin.guards_record, Origin.guards_record,
      h.mem_guards]
  rw [Record.unordered, Record.unordered, hset, Origin.record_congr a b]

/-- The records of the documents are the same but for their order and that of their guards. -/
theorem unordered_records (h : a.Reordered b) :
    (a.output.records.map Record.unordered).Perm (b.output.records.map Record.unordered) := by
  have horigins : a.origins.Perm b.origins :=
    (a.origins_perm_declared.trans h.declared).trans b.origins_perm_declared.symm
  have hrecords : a.origins.map (Record.unordered ∘ Origin.record a) =
      a.origins.map (Record.unordered ∘ Origin.record b) :=
    List.map_congr_left fun origin _ => h.unordered_record origin
  rw [a.records_output, b.records_output, List.map_map, List.map_map, hrecords]
  exact horigins.map _

/-- The modifications of the documents are the same in another order. -/
theorem simpleModifications (h : a.Reordered b) :
    a.output.simpleModifications.Perm b.output.simpleModifications :=
  h.substitutions.filterMap _

end Config.Reordered

/-- In whatever order a configuration is declared, it compiles or it does not, and its documents hold
the same records, apart from the order of their guards, and the same modifications. -/
theorem Compiler.order_irrelevant (compiler : Compiler) {a b : Config} (h : a.Reordered b) :
    ((∃ d, (compiler.compile a).2 = .ok d) ↔ ∃ e, (compiler.compile b).2 = .ok e) ∧
      ∀ d e, (compiler.compile a).2 = .ok d → (compiler.compile b).2 = .ok e →
        (d.records.map Record.unordered).Perm (e.records.map Record.unordered) ∧
          d.simpleModifications.Perm e.simpleModifications := by
  refine ⟨?_, fun d e hd he => ?_⟩
  · simp only [compile_eq_ok_iff, exists_and_left, exists_eq, and_true, h.valid_iff]
  · obtain ⟨-, rfl⟩ := compile_eq_ok_iff.mp hd
    obtain ⟨-, rfl⟩ := compile_eq_ok_iff.mp he
    exact ⟨h.unordered_records, h.simpleModifications⟩

/-- The configuration declared from the end to the beginning. -/
def Config.reversed (config : Config) : Config :=
  { config with
    substitutions := config.substitutions.reverse
    rules := config.rules.reverse
    bases := config.bases.reverse }

/-- Turning all declarations round reorders them. -/
theorem Config.reordered_reversed (config : Config) : config.Reordered config.reversed where
  substitutions := (List.reverse_perm _).symm
  rules := (List.reverse_perm _).symm
  bases := (List.reverse_perm _).symm
  devices := rfl

/-- Two bases with a layer each, of which one binds a key, two substitutions and two rules. -/
def Config.pair : Config where
  substitutions := [
    { source := ⟨.capsLock, ∅⟩, destination := some ⟨.key .escape, ∅⟩ },
    { source := ⟨.leftCommand, ∅⟩, destination := some ⟨.key .leftOption, ∅⟩ }]
  rules := [
    { bindings := [{ source := ⟨.a, ∅⟩, destinations := [⟨.key .b, ∅⟩] }] },
    { bindings := [{ source := ⟨.b, ∅⟩, destinations := [⟨.key .a, ∅⟩] }] }]
  bases := [
    { trigger := ⟨.f16, ∅⟩
      bindings := [{ source := ⟨.h, ∅⟩, destinations := [⟨.key .leftArrow, ∅⟩] }]
      layers := .cons { key := .w } .nil .nil },
    { trigger := ⟨.f17, ∅⟩, layers := .cons { key := .t } .nil .nil }]

/-- Reversed, the pair compiles to other lists of records and modifications, which hold the same. -/
theorem Compiler.order_irrelevant_pair :
    Config.pair.Reordered Config.pair.reversed ∧
      (({} : Compiler).compile .pair).2 = .ok Config.pair.output ∧
      (∃ e, (({} : Compiler).compile Config.pair.reversed).2 = .ok e ∧
        (Config.pair.output.records.map Record.unordered).Perm (e.records.map Record.unordered) ∧
        Config.pair.output.simpleModifications.Perm e.simpleModifications ∧
        Config.pair.output.records[1]?.map Record.guards =
          some [.var "var_f16" true, .var "lay_var_f16_w" false, .var "lay_var_f17_t" false] ∧
        e.records[3]?.map Record.guards =
          some [.var "var_f16" true, .var "lay_var_f17_t" false, .var "lay_var_f16_w" false]) := by
  have hpair : (({} : Compiler).compile .pair).2 = .ok Config.pair.output :=
    compile_of_passes (by decide +kernel)
  obtain ⟨hcompiles, hsame⟩ := order_irrelevant {} Config.pair.reordered_reversed
  obtain ⟨e, he⟩ := hcompiles.mp ⟨_, hpair⟩
  obtain ⟨hrecords, hmodifications⟩ := hsame _ e hpair he
  refine ⟨Config.pair.reordered_reversed, hpair, e, he, hrecords, hmodifications, ?_, ?_⟩
  · decide +kernel
  · rw [(compile_eq_ok_iff.mp he).2]
    decide +kernel

end KeyRemap
