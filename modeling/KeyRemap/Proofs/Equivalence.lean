import KeyRemap.Proofs.Diagnosis

/-!
# Equivalent configurations

Two configurations are equivalent when they differ at most in the order in which modifiers are
listed. Combinations are claimed and compared whatever that order, so equivalent configurations make
equivalent claims, and both or neither are sound. Variables are not: they spell out the modifiers of
a base as they are listed. So equivalent configurations compile alike if their bases list the
modifiers of their triggers alike, and otherwise they can come apart only by a collision of
variables (`Compiler.compiles_of_equiv`).
-/

namespace KeyRemap

/-! ## Sorted modifiers -/

namespace Modifiers

/-- Sorting twice is sorting once. -/
theorem sorted_sorted (set : Modifiers) : set.sorted.sorted = set.sorted :=
  equiv_iff.mpr fun _ => mem_sorted

/-- A set is empty when it has no member. -/
theorem isEmpty_iff {set : Modifiers} : set.isEmpty = true ↔ ∀ modifier, modifier ∉ set := by
  rw [isEmpty, List.isEmpty_iff, List.eq_nil_iff_forall_not_mem]
  rfl

/-- Sorting leaves a set empty, or not, as it is. -/
theorem isEmpty_sorted (set : Modifiers) : set.sorted.isEmpty = set.isEmpty := by
  rw [Bool.eq_iff_iff, isEmpty_iff, isEmpty_iff]
  simp only [mem_sorted]

end Modifiers

/-- Sorting the modifiers of a combination twice is sorting them once. -/
theorem Combo.sorted_sorted (combo : Combo) : combo.sorted.sorted = combo.sorted := by
  rw [sorted, sorted, Modifiers.sorted_sorted]

/-! ## What can be sent -/

/-- The action with its modifiers sorted. -/
def Action.sorted : Action → Action
  | .key pressed modifiers => .key pressed modifiers.sorted
  | .button pressed => .button pressed
  | .shell command => .shell command

namespace Destination

/-- A button resolves alike in whatever order its modifiers are listed. -/
theorem resolveButton_sorted (button : Button) (modifiers : Modifiers) :
    resolveButton button modifiers.sorted =
      (resolveButton button modifiers).map Action.sorted := by
  rw [resolveButton, resolveButton, Modifiers.isEmpty_sorted]
  split <;> rfl

/-- What a destination sends does not depend on the order of its modifiers, and neither does whether
it can be sent to. -/
theorem resolve_sorted (destination : Destination) :
    destination.sorted.resolve = destination.resolve.map Action.sorted := by
  obtain ⟨target, modifiers⟩ := destination
  cases target with
  | key pressed => rfl
  | button pressed => exact resolveButton_sorted pressed modifiers
  | text text =>
      show resolveText text modifiers.sorted = (resolveText text modifiers).map Action.sorted
      simp only [resolveText, resolveButton_sorted, Modifiers.isEmpty_sorted]
      split
      · rfl
      · split
        · rfl
        · rfl
        · split <;> rfl

/-- A destination can be sent in whatever order its modifiers are listed, or in none. -/
theorem sendable_sorted_iff (destination : Destination) :
    destination.sorted.Sendable ↔ destination.Sendable := by
  rw [Sendable, Sendable, resolve_sorted]
  cases destination.resolve <;> simp [Except.map]

end Destination

/-- A binding can be sent in whatever order its modifiers are listed, or in none. -/
theorem Binding.sendable_sorted_iff (binding : Binding) :
    binding.sorted.Sendable ↔ binding.Sendable := by
  simp only [Sendable, sorted, List.forall_mem_map, Destination.sendable_sorted_iff]

/-- A substitution can be sent in whatever order its modifiers are listed, or in none. -/
theorem Substitution.sendable_sorted_iff (substitution : Substitution) :
    substitution.sorted.Sendable ↔ substitution.Sendable := by
  have hpress : ∀ destination : Destination,
      (∃ pressed modifiers, destination.sorted.resolve = .ok (.key pressed modifiers)) ↔
        ∃ pressed modifiers, destination.resolve = .ok (.key pressed modifiers) := by
    intro destination
    rw [Destination.resolve_sorted]
    rcases destination.resolve with fault | (_ | _ | _) <;> simp [Except.map, Action.sorted]
  rw [Sendable, Sendable, sorted]
  cases substitution.destination with
  | none => simp
  | some destination => simpa using hpress destination

/-- What a binding does on hold can be done in whatever order modifiers are listed, or in none. -/
theorem HoldBinding.holds_sorted_iff (binding : HoldBinding) :
    (∀ hold ∈ binding.sorted.hold, hold.action.Sendable) ↔
      ∀ hold ∈ binding.hold, hold.action.Sendable := by
  have haction : ∀ action : Hold.Action, action.sorted.Sendable ↔ action.Sendable := by
    intro action
    cases action <;> simp [Hold.Action.Sendable, Hold.Action.sorted]
  rw [sorted]
  cases binding.hold with
  | none => simp
  | some hold => simpa using haction hold.action

/-! ## Scopes -/

/-- Changing the nodes of a forest changes each of them and what is nested in it. -/
theorem Forest.nodes_map {α β : Type} (f : α → β) (forest : Forest α) :
    (forest.map f).nodes = forest.nodes.map fun node => (f node.1, node.2.map f) := by
  induction forest with
  | nil => rfl
  | cons root nested next ihn ihs =>
      simp only [Forest.map, nodes, ihn, ihs, List.map_cons, List.map_append]

/-- The scope with all modifiers sorted. -/
def Scope.sorted : Scope → Scope :=
  Scope.map Base.sorted Layer.sorted

/-- The scopes of a base with sorted modifiers are its scopes with sorted modifiers. -/
theorem Base.scopes_sorted (base : Base) : base.sorted.scopes = base.scopes.map Scope.sorted :=
  Base.scopes_map (fun _ => rfl) base

/-- The bindings of a scope with sorted modifiers are its bindings with sorted modifiers. -/
theorem Scope.bindings_sorted (scope : Scope) :
    scope.sorted.bindings = scope.bindings.map ScopedBinding.sorted :=
  Scope.bindings_map (fun _ => rfl) (fun _ => rfl) scope

/-- The path of a scope with sorted modifiers is its path with sorted modifiers. -/
theorem Scope.path_sorted (scope : Scope) : scope.sorted.path = scope.path.map Combo.sorted := by
  rw [path, path, List.map_cons, List.map_map]
  show _ :: (scope.layers.map Layer.sorted).map Layer.trigger = _
  rw [List.map_map]
  rfl

/-- The scopes of a configuration with sorted modifiers are its scopes with sorted modifiers. -/
theorem Config.scopes_sorted (config : Config) :
    config.sorted.scopes = config.scopes.map Scope.sorted := by
  rw [scopes, scopes, sorted, List.flatMap_map, List.map_flatMap]
  simp only [Base.scopes_sorted]

/-! ## Claims -/

/-- The claim with all modifiers sorted. -/
def Claim.sorted (claim : Claim) : Claim :=
  ⟨claim.combo.sorted, claim.sortedPath, claim.device⟩

/-- Two claims conflict in whatever order their modifiers are listed, or in none. -/
theorem Claim.conflict_sorted_iff {a b : Claim} : a.sorted.Conflict b.sorted ↔ a.Conflict b := by
  have hcombo : a.combo.sorted ≈ b.combo.sorted ↔ a.combo ≈ b.combo := by
    show a.combo.sorted.sorted = b.combo.sorted.sorted ↔ a.combo.sorted = b.combo.sorted
    rw [Combo.sorted_sorted, Combo.sorted_sorted]
  have hpath : ∀ claim : Claim, claim.sortedPath.map Combo.sorted = claim.sortedPath := by
    intro claim
    rw [sortedPath, List.map_map]
    exact List.map_congr_left fun combo _ => combo.sorted_sorted
  constructor
  · intro h
    refine ⟨hcombo.mp h.combo, samePath_iff.mpr ?_, h.device⟩
    have hsorted := samePath_iff.mp h.path
    rwa [sorted, sorted, hpath, hpath] at hsorted
  · intro h
    refine ⟨hcombo.mpr h.combo, samePath_iff.mpr ?_, h.device⟩
    rw [sorted, sorted, hpath, hpath]
    exact samePath_iff.mp h.path

/-- A scope with sorted modifiers makes its claims with sorted modifiers. -/
theorem Scope.claims_sorted (config : Config) (scope : Scope) :
    scope.sorted.claims config.sorted = (scope.claims config).map Claim.sorted := by
  rw [claims, bindings_sorted, List.map_map, claims, List.map_map]
  refine List.map_congr_left fun binding _ => ?_
  rw [Function.comp_apply, path_sorted]
  rfl

namespace Config

/-- Sorting the modifiers of a configuration sorts those of its claims. -/
theorem claims_sorted (config : Config) :
    config.sorted.claims = config.claims.map Claim.sorted := by
  have hbase : ∀ base : Base,
      base.sorted.claims config.sorted = (base.claims config).map Claim.sorted := by
    intro base
    rw [Base.claims, Base.scopes_sorted, List.flatMap_map, Base.claims, List.map_cons,
      List.map_flatMap]
    simp only [Scope.claims_sorted]
    rfl
  have hrule : ∀ rule : Rule,
      rule.sorted.claims config.sorted = (rule.claims config).map Claim.sorted := by
    intro rule
    rw [Rule.claims, Rule.claims, Rule.sorted, List.map_map, List.map_map]
    rfl
  simp only [claims, List.map_append, List.map_flatMap, List.map_map, ← hbase, ← hrule]
  simp only [sorted, List.flatMap_map, List.map_map]
  rfl

/-- No two claims of a configuration conflict exactly when none do once modifiers are sorted. -/
theorem pairwise_claims_sorted_iff (config : Config) :
    config.sorted.claims.Pairwise (fun a b => ¬ a.Conflict b) ↔
      config.claims.Pairwise fun a b => ¬ a.Conflict b := by
  rw [claims_sorted, List.pairwise_map]
  simp only [Claim.conflict_sorted_iff]

/-! ## Soundness -/

/-- What is wrong by itself in a configuration does not depend on the order of modifiers. -/
theorem sound_sorted_iff (config : Config) : config.sorted.Sound ↔ config.Sound := by
  have hbase_keys : (∀ base ∈ config.sorted.bases, ∀ binding ∈ base.bindings,
      ∀ layer ∈ base.layers.preorder, binding.source.key ≠ layer.key) ↔
      ∀ base ∈ config.bases, ∀ binding ∈ base.bindings, ∀ layer ∈ base.layers.preorder,
        binding.source.key ≠ layer.key := by
    simp only [sorted, Base.sorted, Forest.preorder_map, List.forall_mem_map]
    rfl
  have hlayer_keys : (∀ base ∈ config.sorted.bases, ∀ node ∈ base.layers.nodes,
      ∀ binding ∈ node.1.bindings, binding.source.key ≠ node.1.key ∧
        ∀ child ∈ node.2.roots, binding.source.key ≠ child.key) ↔
      ∀ base ∈ config.bases, ∀ node ∈ base.layers.nodes, ∀ binding ∈ node.1.bindings,
        binding.source.key ≠ node.1.key ∧
          ∀ child ∈ node.2.roots, binding.source.key ≠ child.key := by
    simp only [sorted, Base.sorted, Layer.sorted, Forest.nodes_map, Forest.roots_map,
      List.forall_mem_map]
    rfl
  have hsubstitutions : (∀ substitution ∈ config.sorted.substitutions, substitution.Sendable) ↔
      ∀ substitution ∈ config.substitutions, substitution.Sendable := by
    simp only [sorted, List.forall_mem_map, Substitution.sendable_sorted_iff]
  have hbindings : (∀ scope ∈ config.sorted.scopes, ∀ binding ∈ scope.bindings,
      binding.toBinding.Sendable) ↔
      ∀ scope ∈ config.scopes, ∀ binding ∈ scope.bindings, binding.toBinding.Sendable := by
    simp only [scopes_sorted, List.forall_mem_map, Scope.bindings_sorted, ScopedBinding.sorted,
      Binding.sendable_sorted_iff]
  have hrules : (∀ rule ∈ config.sorted.rules, ∀ binding ∈ rule.bindings,
      binding.toBinding.Sendable ∧ ∀ hold ∈ binding.hold, hold.action.Sendable) ↔
      ∀ rule ∈ config.rules, ∀ binding ∈ rule.bindings,
        binding.toBinding.Sendable ∧ ∀ hold ∈ binding.hold, hold.action.Sendable := by
    simp only [sorted, Rule.sorted, List.forall_mem_map, HoldBinding.holds_sorted_iff]
    simp only [HoldBinding.sorted, Binding.sendable_sorted_iff]
  exact ⟨fun h => ⟨hbase_keys.mp h.base_keys, hlayer_keys.mp h.layer_keys,
      hsubstitutions.mp h.substitutions, hbindings.mp h.bindings, hrules.mp h.rules⟩,
    fun h => ⟨hbase_keys.mpr h.base_keys, hlayer_keys.mpr h.layer_keys,
      hsubstitutions.mpr h.substitutions, hbindings.mpr h.bindings, hrules.mpr h.rules⟩⟩

end Config

/-! ## Variables -/

/-- The variable of a scope with the path that is to own it, sorted. -/
def Scope.owned (scope : Scope) : String × List Combo :=
  (scope.variableName, scope.path.map Combo.sorted)

/-- Which variables the scopes of a base have depends on nothing but the sorted base and on how its
trigger is listed. -/
theorem Base.map_owned_scopes (base : Base) :
    base.scopes.map Scope.owned = base.sorted.scopes.map fun scope =>
      (Scope.variableNameOf { base.sorted with trigger := base.trigger } scope.layers,
        scope.path) := by
  rw [scopes_sorted, List.map_map]
  refine List.map_congr_left fun scope hscope => ?_
  have hkeys : (scope.layers.map Layer.sorted).map Layer.key = scope.layers.map Layer.key := by
    rw [List.map_map]
    rfl
  have hname : Scope.variableNameOf scope.base scope.layers =
      Scope.variableNameOf { base.sorted with trigger := base.trigger }
        (scope.layers.map Layer.sorted) :=
    Scope.variableNameOf_congr (by rw [base_of_mem_scopes hscope]) hkeys.symm
  rw [Function.comp_apply, Scope.path_sorted, Scope.owned, Scope.variableName, hname]
  rfl

namespace Config

variable {a b : Config}

/-- Equivalent configurations whose bases list the modifiers of their triggers alike have the same
variables for the same paths. -/
theorem map_owned_scopes_congr (h : a ≈ b)
    (htriggers : a.bases.map Base.trigger = b.bases.map Base.trigger) :
    a.scopes.map Scope.owned = b.scopes.map Scope.owned := by
  have hbases : a.bases.map Base.sorted = b.bases.map Base.sorted :=
    congrArg Config.bases (h : a.sorted = b.sorted)
  have hpairs : a.bases.map (fun base => (base.sorted, base.trigger)) =
      b.bases.map fun base => (base.sorted, base.trigger) := by
    rw [← List.zip_map', hbases, htriggers, List.zip_map']
  have howned : ∀ config : Config, config.scopes.map Scope.owned =
      (config.bases.map fun base => (base.sorted, base.trigger)).flatMap fun pair =>
        pair.1.scopes.map fun scope =>
          (Scope.variableNameOf { pair.1 with trigger := pair.2 } scope.layers, scope.path) := by
    intro config
    rw [scopes, List.map_flatMap, List.flatMap_map]
    exact List.flatMap_congr fun base _ => base.map_owned_scopes
  rw [howned, hpairs, howned]

/-- Scopes that share a variable have the same path exactly if no variable has two sorted paths. -/
theorem shared_variable_iff_owned (config : Config) :
    (∀ s ∈ config.scopes, ∀ t ∈ config.scopes, s.variableName = t.variableName →
      SamePath s.path t.path) ↔
    ∀ p ∈ config.scopes.map Scope.owned, ∀ q ∈ config.scopes.map Scope.owned,
      p.1 = q.1 → p.2 = q.2 := by
  simp only [List.forall_mem_map, Scope.owned, samePath_iff]

/-! ## Compiling -/

/-- A configuration that is sound and whose claims do not conflict can only fail by a collision of
variables. -/
theorem collides_of_fails {config : Config} {violation : Violation} (hsound : config.Sound)
    (hclaims : config.claims.Pairwise fun a b => ¬ a.Conflict b)
    (h : config.validate.2 = some violation) :
    ∃ name first second, violation = .variableCollision name first second := by
  obtain ⟨passed, check, later, hchecks, hblames⟩ := exists_blames h
  cases hblames with
  | @claim held claim context before conflict =>
      rw [← claims_checks, hchecks, List.filterMap_append] at hclaims
      have hnot := (List.pairwise_append.mp hclaims).2.2 held before claim List.mem_cons_self
      exact absurd conflict hnot
  | own before same differs => exact ⟨_, _, _, rfl⟩
  | refuse =>
      have hnone := List.filterMap_eq_nil_iff.mp (config.refusals_checks.mpr hsound)
        (.refuse violation) (hchecks ▸ List.mem_append_right _ List.mem_cons_self)
      cases hnone

/-- Equivalent configurations are both sound or neither. -/
theorem sound_iff_of_equiv (h : a ≈ b) : a.Sound ↔ b.Sound := by
  rw [← sound_sorted_iff, (h : a.sorted = b.sorted), sound_sorted_iff]

/-- In equivalent configurations claims conflict in both or in neither. -/
theorem pairwise_claims_iff_of_equiv (h : a ≈ b) :
    a.claims.Pairwise (fun c d => ¬ c.Conflict d) ↔
      b.claims.Pairwise fun c d => ¬ c.Conflict d := by
  rw [← pairwise_claims_sorted_iff, (h : a.sorted = b.sorted), pairwise_claims_sorted_iff]

/-- What is valid stays so in equivalent configurations that list the modifiers of triggers
alike. -/
theorem Valid.of_equiv (hvalid : a.Valid) (h : a ≈ b)
    (htriggers : a.bases.map Base.trigger = b.bases.map Base.trigger) : b.Valid := by
  refine ((sound_iff_of_equiv h).mp hvalid.sound).valid
    ((pairwise_claims_iff_of_equiv h).mp hvalid.claims) ?_
  rw [shared_variable_iff_owned, ← map_owned_scopes_congr h htriggers, ← shared_variable_iff_owned]
  exact hvalid.shared_variable

end Config

/-- Equivalent configurations whose bases list the modifiers of their triggers in the same order
compile or fail alike. Where they are listed in different orders, one of the two can fail alone, but
only because two of its paths produce the same variable. -/
theorem Compiler.compiles_of_equiv (compiler : Compiler) {a b : Config} (h : a ≈ b) :
    (a.bases.map Base.trigger = b.bases.map Base.trigger →
      ((∃ d, (compiler.compile a).2 = .ok d) ↔ ∃ e, (compiler.compile b).2 = .ok e)) ∧
    ∀ d violation, (compiler.compile a).2 = .ok d → (compiler.compile b).2 = .error violation →
      ∃ name first second, violation = .variableCollision name first second := by
  refine ⟨fun htriggers => ?_, fun d violation hd hviolation => ?_⟩
  · rw [compiler.compiles_iff_valid, compiler.compiles_iff_valid]
    exact ⟨fun ha => ha.of_equiv h htriggers, fun hb => hb.of_equiv h.symm htriggers.symm⟩
  · obtain ⟨hvalid, -⟩ := compile_eq_ok_iff.mp hd
    exact Config.collides_of_fails ((Config.sound_iff_of_equiv h).mp hvalid.sound)
      ((Config.pairwise_claims_iff_of_equiv h).mp hvalid.claims)
      (compile_eq_error_iff.mp hviolation)

/-- A base with layers nested in layers, and a base with the same key and some modifiers, with a
layer of the same key as the innermost one. -/
def Config.crowded (modifiers : List Modifier) : Config where
  bases := [
    { trigger := ⟨.f16, ∅⟩
      layers := .cons { key := .leftCommand }
        (.cons { key := .leftShift } (.cons { key := .w } .nil .nil) .nil) .nil },
    { trigger := .ofList .f16 modifiers, layers := .cons { key := .w } .nil .nil }]

/-- A key that is substituted together with modifiers may list them in any order. The same
modifiers of a trigger may not: in one order they spell the way through the layers of the first
base. -/
theorem Compiler.compiles_of_equiv_crowded :
    let listed := Config.crowded [.leftShift, .leftCommand]
    let source (modifiers : List Modifier) : Substitution :=
      { source := .ofList .capsLock modifiers, destination := some ⟨.key .escape, ∅⟩ }
    (∃ d, (({} : Compiler).compile
        (listed.addSubstitution (source [.leftShift, .leftCommand]))).2 = .ok d) ∧
      (∃ d, (({} : Compiler).compile
        (listed.addSubstitution (source [.leftCommand, .leftShift]))).2 = .ok d) ∧
      (∃ d, (({} : Compiler).compile listed).2 = .ok d) ∧
      ∃ violation, (({} : Compiler).compile (.crowded [.leftCommand, .leftShift])).2 =
          .error violation ∧
        ∃ name first second, violation = .variableCollision name first second := by
  intro listed source
  have hlisted : (({} : Compiler).compile listed).2 = .ok listed.output :=
    compile_of_passes (by decide +kernel)
  have hsource : (({} : Compiler).compile
      (listed.addSubstitution (source [.leftShift, .leftCommand]))).2 = .ok _ :=
    compile_of_passes (by decide +kernel)
  have hcollides : (({} : Compiler).compile (.crowded [.leftCommand, .leftShift])).2 =
      .error (.variableCollision "lay_var_f16_left_command_left_shift_w"
        "RuleBased: f16 + [ left_command ] + [ left_shift ] + [ w ]"
        "RuleBased: f16+left_command+left_shift + [ w ]") :=
    compile_eq_error_iff.mpr (by decide +kernel)
  have hsame := compiles_of_equiv {}
    (a := listed.addSubstitution (source [.leftShift, .leftCommand]))
    (b := listed.addSubstitution (source [.leftCommand, .leftShift])) (by decide +kernel)
  have hother := compiles_of_equiv {} (a := listed)
    (b := .crowded [.leftCommand, .leftShift]) (by decide +kernel)
  exact ⟨⟨_, hsource⟩, (hsame.1 rfl).mp ⟨_, hsource⟩, ⟨_, hlisted⟩, _, hcollides,
    hother.2 _ _ hlisted hcollides⟩

/-- Two equivalent configurations of which only one compiles. -/
theorem Compiler.equiv_comes_apart_crowded :
    Config.crowded [.leftCommand, .leftShift] ≈ Config.crowded [.leftShift, .leftCommand] ∧
      (({} : Compiler).compile (.crowded [.leftCommand, .leftShift])).2 =
        .error (.variableCollision "lay_var_f16_left_command_left_shift_w"
          "RuleBased: f16 + [ left_command ] + [ left_shift ] + [ w ]"
          "RuleBased: f16+left_command+left_shift + [ w ]") ∧
      ∃ d, (({} : Compiler).compile (.crowded [.leftShift, .leftCommand])).2 = .ok d :=
  ⟨by decide +kernel, compile_eq_error_iff.mpr (by decide +kernel), _,
    compile_of_passes (by decide +kernel)⟩

end KeyRemap
