import KeyRemap.Proofs.FailedRun
import KeyRemap.Proofs.Lowering
import KeyRemap.Proofs.Variables

/-!
# What violations say

A violation tells what is wrong in a configuration and where. `Violation.TrueOf` puts that into
statements about the declarations, and whatever violation a configuration fails with is true of it
(`Compiler.violation_true`): the check that fails blames either what checks before it have
established (`Check.Blames`), or something that is wrong by itself, which stands among the checks as
a refusal.
-/

namespace KeyRemap

/-- Every violation is that of some check, made after others that passed. -/
theorem Config.exists_blames {config : Config} {violation : Violation}
    (h : config.validate.2 = some violation) :
    ∃ passed check later, config.checks = passed ++ check :: later ∧
      check.Blames passed violation :=
  Validation.established_nil.exists_blames h

/-! ## What a violation says -/

/-- A scope binds a key. -/
def Scope.Binds (scope : Scope) (key : Key) : Prop :=
  ∃ binding ∈ scope.bindings, binding.source.key = key

namespace Config

/-- The scopes of all layers of a configuration. -/
def layerScopes (config : Config) : List Scope :=
  config.bases.flatMap Base.layerScopes

/-- A claim is made by the declaration that is found at a place. -/
inductive ClaimedAt (config : Config) : Claim → String → Prop where
  | substitution {substitution : Substitution} (declared : substitution ∈ config.substitutions) :
      ClaimedAt config ⟨substitution.source, [], config.device? substitution.device⟩
        substitution.context
  | base {base : Base} (declared : base ∈ config.bases) :
      ClaimedAt config ⟨base.trigger, [], config.device? base.device⟩
        ("ruleBaseBy(" ++ base.trigger.text ++ ")")
  | binding {scope : Scope} {binding : ScopedBinding} (declared : scope ∈ config.scopes)
      (bound : binding ∈ scope.bindings) :
      ClaimedAt config ⟨binding.source, scope.path, scope.device? config⟩
        (mapContext scope.description binding.source.text)
  | rule {rule : Rule} {binding : HoldBinding} (declared : rule ∈ config.rules)
      (bound : binding ∈ rule.bindings) :
      ClaimedAt config ⟨binding.source, [], config.device? rule.device⟩
        (mapContext rule.name binding.source.text)

/-- All destinations of a configuration, each with its place. -/
def destinations (config : Config) : List (Destination × String) :=
  (config.substitutions.flatMap fun substitution =>
      substitution.destination.toList.map (·, substitution.context)) ++
    (config.scopes.flatMap fun scope => scope.bindings.flatMap fun binding =>
      binding.destinations.map (·, mapContext scope.description binding.source.text)) ++
    config.rules.flatMap fun rule => rule.bindings.flatMap fun binding =>
      binding.destinations.map (·, mapContext rule.name binding.source.text)

/-- What stands at a place cannot be sent: a destination is at fault, a substitution stands for
something that is no key, or a hold runs a command of blanks alone. -/
inductive UnsendableAt (config : Config) : String → String → Destination.Fault → Prop where
  | destination {destination : Destination} {context : String} {fault : Destination.Fault}
      (declared : (destination, context) ∈ config.destinations)
      (fails : destination.resolve = .error fault) :
      UnsendableAt config destination.target.display context fault
  | notAKey {substitution : Substitution} {destination : Destination} {action : Action}
      (declared : substitution ∈ config.substitutions)
      (stands : destination ∈ substitution.destination) (resolves : destination.resolve = .ok action)
      (noKey : ∀ pressed modifiers, action ≠ .key pressed modifiers) :
      UnsendableAt config destination.target.display substitution.context .notAKey
  | hold {rule : Rule} {binding : HoldBinding} {hold : Hold} {command : String}
      (declared : rule ∈ config.rules) (bound : binding ∈ rule.bindings)
      (held : hold ∈ binding.hold) (runs : hold.action = .shell command)
      (blank : Text.trimmed command = "") :
      UnsendableAt config command (mapContext rule.name binding.source.text) .blank

end Config

/-- What a violation says of a configuration. -/
def Violation.TrueOf (config : Config) : Violation → Prop
  | .duplicateKey combo context =>
      ∃ held claim, [held, claim].Sublist config.claims ∧ held.Conflict claim ∧
        claim.combo = combo ∧ config.ClaimedAt claim context
  | .keyRoleConflict key scope =>
      (∃ base ∈ config.bases, base.fullDescription = scope ∧ (Scope.ofBase base).Binds key ∧
        ∃ layer ∈ base.layers.preorder, layer.key = key) ∨
      ∃ inner ∈ config.layerScopes, inner.description = scope ∧ inner.Binds key ∧
        ∃ child ∈ inner.nested.roots, child.key = key
  | .selfMapping key layer =>
      ∃ inner ∈ config.layerScopes, inner.description = layer ∧ inner.Binds key ∧
        ∃ own ∈ inner.layers.getLast?, own.key = key
  | .invalidDestination value context reason => config.UnsendableAt value context reason
  | .variableCollision name first second =>
      ∃ a ∈ config.scopes, ∃ b ∈ config.scopes, a.description = first ∧ b.description = second ∧
        a.variableName = name ∧ b.variableName = name ∧ ¬ SamePath a.path b.path

/-! ## Where checks stand -/

/-- The checks of a base are its claim, those of its keys, those of its bindings at any depth, and
those of its variables. -/
theorem Base.mem_checks {config : Config} {base : Base} {check : Check} :
    check ∈ base.checks config ↔
      check = .claim ⟨base.trigger, [], config.device? base.device⟩
        ("ruleBaseBy(" ++ base.trigger.text ++ ")") ∨
      check ∈ (Scope.ofBase base).roleChecks (base.layers.preorder.map Layer.key) ∨
      (∃ inner ∈ base.layerScopes, check ∈ inner.keyChecks) ∨
      (∃ scope ∈ base.scopes, ∃ binding ∈ scope.bindings,
        check ∈ binding.toBinding.checks scope.description scope.path (scope.device? config)) ∨
      ∃ scope ∈ base.scopes, scope.ownCheck = check := by
  simp only [checks, Scope.bindingChecks, List.mem_cons, List.mem_append, List.mem_flatMap,
    List.mem_map, or_assoc]

/-- The checks of a configuration are those of its substitutions, of its bases and of the bindings
of its rules. -/
theorem Config.mem_checks {config : Config} {check : Check} :
    check ∈ config.checks ↔
      (∃ substitution ∈ config.substitutions, check ∈ substitution.checks config) ∨
      (∃ base ∈ config.bases, check ∈ base.checks config) ∨
      ∃ rule ∈ config.rules, ∃ binding ∈ rule.bindings, check ∈ binding.checks config rule := by
  simp only [checks, List.mem_append, List.mem_flatMap, or_assoc]

/-! ## Refusals -/

/-- The check of an outcome refuses with the violation of the outcome and with no other. -/
theorem Check.refuse_mem_unlessOk {α : Type} {outcome : Except Violation α} {violation : Violation} :
    .refuse violation ∈ unlessOk outcome ↔ outcome = .error violation := by
  cases outcome <;> simp [unlessOk, eq_comm]

/-- A destination is refused for the fault with which it fails to resolve. -/
theorem Destination.action_eq_error_iff {destination : Destination} {context : String}
    {violation : Violation} :
    destination.action context = .error violation ↔
      ∃ fault, destination.resolve = .error fault ∧
        violation = destination.violation context fault := by
  rw [Destination.action]
  cases destination.resolve <;> simp [Except.mapError, eq_comm]

/-- A binding is refused for one of its destinations. -/
theorem Binding.refuse_mem_checks {binding : Binding} {place : String} {path : List Combo}
    {device : Option Device} {violation : Violation} :
    .refuse violation ∈ binding.checks place path device ↔
      ∃ destination ∈ binding.destinations, ∃ fault, destination.resolve = .error fault ∧
        violation = destination.violation (mapContext place binding.source.text) fault := by
  simp [checks, Check.refuse_mem_unlessOk, Destination.action_eq_error_iff]

/-- A hold is refused only for a command that is blank. -/
theorem Hold.Action.exists_of_refuse_mem_checks {action : Hold.Action} {context : String}
    {violation : Violation} (h : .refuse violation ∈ action.checks context) :
    ∃ command, action = .shell command ∧ Text.trimmed command = "" ∧
      violation = .invalidDestination command context .blank := by
  cases action with
  | key pressed modifiers => cases h
  | shell command =>
      rw [checks] at h
      split at h
      · next hblank =>
          refine ⟨command, rfl, (Text.trimmed_eq_empty_iff command).mpr hblank, ?_⟩
          exact Check.refuse.inj (List.mem_singleton.mp h)
      · cases h

namespace Scope

/-- The first binding whose key is among `keys` binds one of them. -/
theorem binds_of_bound? {scope : Scope} {keys : List Key} {key : Key}
    (h : scope.bound? keys = some key) : scope.Binds key ∧ key ∈ keys := by
  obtain ⟨binding, hfind, rfl⟩ := Option.map_eq_some_iff.mp h
  refine ⟨⟨binding, List.mem_of_find?_eq_some hfind, rfl⟩, ?_⟩
  simpa using List.find?_some hfind

/-- The check of keys that have a role refuses those that the scope binds. -/
theorem exists_of_refuse_mem_roleChecks {scope : Scope} {keys : List Key} {violation : Violation}
    (h : .refuse violation ∈ scope.roleChecks keys) :
    ∃ key ∈ keys, scope.Binds key ∧ violation = .keyRoleConflict key scope.description := by
  obtain ⟨key, hkey, heq⟩ := Option.map_eq_some_iff.mp (Option.mem_toList.mp h)
  obtain ⟨hbinds, hmem⟩ := binds_of_bound? hkey
  exact ⟨key, hmem, hbinds, (Check.refuse.inj heq).symm⟩

/-- The check of a layer against itself refuses it when it binds its own key. -/
theorem exists_of_refuse_mem_selfChecks {scope : Scope} {violation : Violation}
    (h : .refuse violation ∈ scope.selfChecks) :
    ∃ own ∈ scope.layers.getLast?, scope.Binds own.key ∧
      violation = .selfMapping own.key scope.description := by
  obtain ⟨key, hkey, heq⟩ := Option.map_eq_some_iff.mp (Option.mem_toList.mp h)
  obtain ⟨hbinds, hmem⟩ := binds_of_bound? hkey
  obtain ⟨own, hown, rfl⟩ := Option.map_eq_some_iff.mp (Option.mem_toList.mp hmem)
  exact ⟨own, hown, hbinds, (Check.refuse.inj heq).symm⟩

end Scope

namespace Config

variable {config : Config} {violation : Violation}

/-- What is refused of a substitution. -/
theorem trueOf_of_refuse_mem_substitution {substitution : Substitution}
    (hsubstitution : substitution ∈ config.substitutions)
    (h : .refuse violation ∈ substitution.checks config) : violation.TrueOf config := by
  simp only [Substitution.checks, List.mem_cons, List.mem_flatMap, reduceCtorEq, false_or,
    Option.mem_toList, Check.refuse_mem_unlessOk] at h
  obtain ⟨destination, hdestination, hpress⟩ := h
  have hplace : (destination, substitution.context) ∈ config.destinations := by
    refine List.mem_append_left _ (List.mem_append_left _ (List.mem_flatMap.mpr ?_))
    exact ⟨substitution, hsubstitution,
      List.mem_map.mpr ⟨destination, Option.mem_toList.mpr hdestination, rfl⟩⟩
  rw [Destination.keyPress] at hpress
  split at hpress
  · cases hpress
  · next action hnoKey hresolve =>
      cases hpress
      refine .notAKey hsubstitution hdestination hresolve fun pressed modifiers heq => ?_
      exact hnoKey pressed modifiers heq
  · next fault hresolve =>
      cases hpress
      exact .destination hplace hresolve

/-- What is refused of a binding of a scope. -/
theorem trueOf_of_refuse_mem_binding {scope : Scope} {binding : ScopedBinding}
    (hscope : scope ∈ config.scopes) (hbinding : binding ∈ scope.bindings)
    (h : .refuse violation ∈
      binding.toBinding.checks scope.description scope.path (scope.device? config)) :
    violation.TrueOf config := by
  obtain ⟨destination, hdestination, fault, hresolve, rfl⟩ := Binding.refuse_mem_checks.mp h
  refine .destination (List.mem_append_left _ (List.mem_append_right _ ?_)) hresolve
  refine List.mem_flatMap.mpr ⟨scope, hscope, List.mem_flatMap.mpr ⟨binding, hbinding, ?_⟩⟩
  exact List.mem_map.mpr ⟨destination, hdestination, rfl⟩

/-- What is refused of a binding of a rule. -/
theorem trueOf_of_refuse_mem_rule {rule : Rule} {binding : HoldBinding} (hrule : rule ∈ config.rules)
    (hbinding : binding ∈ rule.bindings) (h : .refuse violation ∈ binding.checks config rule) :
    violation.TrueOf config := by
  rcases List.mem_append.mp h with h | h
  · obtain ⟨destination, hdestination, fault, hresolve, rfl⟩ := Binding.refuse_mem_checks.mp h
    refine .destination (List.mem_append_right _ ?_) hresolve
    refine List.mem_flatMap.mpr ⟨rule, hrule, List.mem_flatMap.mpr ⟨binding, hbinding, ?_⟩⟩
    exact List.mem_map.mpr ⟨destination, hdestination, rfl⟩
  · obtain ⟨hold, hhold, h⟩ := List.mem_flatMap.mp h
    obtain ⟨command, haction, hblank, rfl⟩ := Hold.Action.exists_of_refuse_mem_checks h
    exact .hold hrule hbinding (Option.mem_toList.mp hhold) haction hblank

/-- What is refused of a base: a key that is bound and triggers a layer, in the base or in one of its
layers, a layer that binds its own key, or a binding that cannot be sent. -/
theorem trueOf_of_refuse_mem_base {base : Base} (hbase : base ∈ config.bases)
    (h : .refuse violation ∈ base.checks config) : violation.TrueOf config := by
  rcases Base.mem_checks.mp h with heq | h | ⟨inner, hinner, h⟩ | ⟨scope, hscope, binding, hbinding, h⟩ |
    ⟨scope, -, heq⟩
  · cases heq
  · obtain ⟨key, hkey, hbinds, rfl⟩ := Scope.exists_of_refuse_mem_roleChecks h
    obtain ⟨layer, hlayer, rfl⟩ := List.mem_map.mp hkey
    exact Or.inl ⟨base, hbase, rfl, hbinds, layer, hlayer, rfl⟩
  · have hmem : inner ∈ config.layerScopes := List.mem_flatMap.mpr ⟨base, hbase, hinner⟩
    rcases List.mem_append.mp h with h | h
    · obtain ⟨own, hown, hbinds, rfl⟩ := Scope.exists_of_refuse_mem_selfChecks h
      exact ⟨inner, hmem, rfl, hbinds, own, hown, rfl⟩
    · obtain ⟨key, hkey, hbinds, rfl⟩ := Scope.exists_of_refuse_mem_roleChecks h
      obtain ⟨child, hchild, rfl⟩ := List.mem_map.mp hkey
      exact Or.inr ⟨inner, hmem, rfl, hbinds, child, hchild, rfl⟩
  · exact trueOf_of_refuse_mem_binding (mem_scopes.mpr ⟨base, hbase, hscope⟩) hbinding h
  · cases heq

/-- Whatever is refused is true. -/
theorem trueOf_of_refuse_mem (h : .refuse violation ∈ config.checks) : violation.TrueOf config := by
  rcases mem_checks.mp h with ⟨substitution, hsubstitution, h⟩ | ⟨base, hbase, h⟩ |
    ⟨rule, hrule, binding, hbinding, h⟩
  · exact trueOf_of_refuse_mem_substitution hsubstitution h
  · exact trueOf_of_refuse_mem_base hbase h
  · exact trueOf_of_refuse_mem_rule hrule hbinding h

end Config

/-! ## Claims -/

/-- No claim is made by checks among which none is found. -/
theorem Check.claim_not_mem {checks : List Check} (h : checks.filterMap Check.claim? = [])
    {claim : Claim} {context : String} : .claim claim context ∉ checks := fun hmem => by
  cases List.filterMap_eq_nil_iff.mp h _ hmem

/-- A binding makes one claim. -/
theorem Binding.claim_mem_checks {binding : Binding} {place context : String} {path : List Combo}
    {device : Option Device} {claim : Claim}
    (h : .claim claim context ∈ binding.checks place path device) :
    claim = ⟨binding.source, path, device⟩ ∧ context = mapContext place binding.source.text := by
  rcases List.mem_cons.mp h with heq | h
  · exact Check.claim.inj heq
  · obtain ⟨destination, -, h⟩ := List.mem_flatMap.mp h
    exact absurd h (Check.claim_not_mem (Check.filterMap_unlessOk (fun _ => rfl) _))

namespace Config

variable {config : Config} {claim : Claim} {context : String}

/-- A claim that is made while a substitution is checked is the one of the substitution. -/
theorem claimedAt_of_mem_substitution {substitution : Substitution}
    (hsubstitution : substitution ∈ config.substitutions)
    (h : .claim claim context ∈ substitution.checks config) : config.ClaimedAt claim context := by
  rcases List.mem_cons.mp h with heq | h
  · obtain ⟨rfl, rfl⟩ := Check.claim.inj heq
    exact .substitution hsubstitution
  · obtain ⟨destination, -, h⟩ := List.mem_flatMap.mp h
    exact absurd h (Check.claim_not_mem (Check.filterMap_unlessOk (fun _ => rfl) _))

/-- A claim that is made while a base is checked is the one of its trigger or of one of its
bindings. -/
theorem claimedAt_of_mem_base {base : Base} (hbase : base ∈ config.bases)
    (h : .claim claim context ∈ base.checks config) : config.ClaimedAt claim context := by
  rcases Base.mem_checks.mp h with heq | h | ⟨inner, -, h⟩ | ⟨scope, hscope, binding, hbinding, h⟩ |
    ⟨scope, -, heq⟩
  · obtain ⟨rfl, rfl⟩ := Check.claim.inj heq
    exact .base hbase
  · exact absurd h (Check.claim_not_mem (Check.filterMap_refuse (fun _ => rfl) _ _))
  · exact absurd h (Check.claim_not_mem (inner.filterMap_keyChecks fun _ => rfl))
  · obtain ⟨rfl, rfl⟩ := Binding.claim_mem_checks h
    exact .binding (mem_scopes.mpr ⟨base, hbase, hscope⟩) hbinding
  · cases heq

/-- A claim that is made while a binding of a rule is checked is the one of the binding. -/
theorem claimedAt_of_mem_rule {rule : Rule} {binding : HoldBinding} (hrule : rule ∈ config.rules)
    (hbinding : binding ∈ rule.bindings) (h : .claim claim context ∈ binding.checks config rule) :
    config.ClaimedAt claim context := by
  rcases List.mem_append.mp h with h | h
  · obtain ⟨rfl, rfl⟩ := Binding.claim_mem_checks h
    exact .rule hrule hbinding
  · obtain ⟨hold, -, h⟩ := List.mem_flatMap.mp h
    exact absurd h (Check.claim_not_mem (Hold.Action.filterMap_checks _ _ fun _ => rfl))

/-- Whatever is claimed is claimed at its place. -/
theorem claimedAt_of_mem (h : .claim claim context ∈ config.checks) :
    config.ClaimedAt claim context := by
  rcases mem_checks.mp h with ⟨substitution, hsubstitution, h⟩ | ⟨base, hbase, h⟩ |
    ⟨rule, hrule, binding, hbinding, h⟩
  · exact claimedAt_of_mem_substitution hsubstitution h
  · exact claimedAt_of_mem_base hbase h
  · exact claimedAt_of_mem_rule hrule hbinding h

/-! ## Violations -/

/-- What a check among those of a configuration blames is true. -/
theorem trueOf_of_blames {passed later : List Check} {check : Check} {violation : Violation}
    (hchecks : config.checks = passed ++ check :: later) (h : check.Blames passed violation) :
    violation.TrueOf config := by
  have hmem : check ∈ config.checks :=
    hchecks ▸ List.mem_append_right passed List.mem_cons_self
  cases h with
  | @claim held claim context before conflict =>
      -- the claim that is held was made before the new one
      have hclaims : config.claims =
          passed.filterMap Check.claim? ++ claim :: later.filterMap Check.claim? := by
        rw [← config.claims_checks, hchecks, List.filterMap_append]
        rfl
      refine ⟨held, claim, ?_, conflict, rfl, claimedAt_of_mem hmem⟩
      rw [hclaims]
      exact (List.singleton_sublist.mpr before).append ((List.nil_sublist _).cons_cons claim)
  | @own first name path description before same differs =>
      have howner : ∀ owner : Owner, owner ∈ config.checks.filterMap Check.owner? →
          ∃ scope ∈ config.scopes, scope.owner = owner := fun owner howner => by
        rw [config.owners_checks] at howner
        exact List.mem_map.mp howner
      obtain ⟨a, ha, rfl⟩ := howner first
        (hchecks ▸ (List.filterMap_append ▸ List.mem_append_left _ before))
      obtain ⟨b, hb, heq⟩ := howner ⟨name, path, description⟩
        (List.mem_filterMap.mpr ⟨_, hmem, rfl⟩)
      cases heq
      exact ⟨a, ha, b, hb, rfl, rfl, same, rfl, differs⟩
  | refuse => exact trueOf_of_refuse_mem hmem

end Config

/-- Whatever violation a configuration fails with is true of it. -/
theorem Compiler.violation_true {compiler : Compiler} {config : Config} {violation : Violation}
    (h : (compiler.compile config).2 = .error violation) : violation.TrueOf config := by
  obtain ⟨passed, check, later, hchecks, hblames⟩ :=
    Config.exists_blames (compile_eq_error_iff.mp h)
  exact Config.trueOf_of_blames hchecks hblames

/-- A base with a layer nested in a layer, and a base with the same key and a modifier, whose only
layer has the variable of the nested one. -/
def Config.colliding : Config where
  bases := [
    { trigger := ⟨.f16, ∅⟩
      description := some "Hyper"
      layers := .cons { key := .leftCommand } (.cons { key := .w } .nil .nil) .nil },
    { trigger := ⟨.f16, .ofList [.leftCommand]⟩
      description := some "Meh"
      layers := .cons { key := .w } .nil .nil }]

/-- The two layers that share a variable are named, the one that had it first before the other. -/
theorem Compiler.violation_true_colliding :
    let violation := Violation.variableCollision "lay_var_f16_left_command_w"
      "Hyper + [ left_command ] + [ w ]" "Meh + [ w ]"
    (({} : Compiler).compile .colliding).2 = .error violation ∧ violation.TrueOf .colliding := by
  intro violation
  have hcompile : (({} : Compiler).compile .colliding).2 = .error violation :=
    compile_eq_error_iff.mpr (by decide +kernel)
  exact ⟨hcompile, violation_true hcompile⟩

end KeyRemap
