import KeyRemap.Proofs.Diagnosis
import KeyRemap.Proofs.FirstViolation
import KeyRemap.Proofs.Inventory

/-!
# How many claims are kept

Validation visits the declarations of a configuration one after another. A visit makes at most one
claim, and makes it first, so a run that fails keeps the claims of the visits before the one at
which it stops, and that of this last visit exactly when it stops at what is sent
(`Visit.claims_of_fails`). A compiler begins every run without claims, so what it has compiled
before changes neither its results nor its count (`Compiler.compileAll_accounts`).
-/

namespace KeyRemap

/-! ## Visits -/

/-- What validation looks at in one piece: a declaration with its claim, the keys of a base and of
its layers, or their variables. -/
inductive Visit where
  | ofSubstitution (substitution : Substitution)
  | ofTrigger (base : Base)
  | ofKeys (base : Base)
  | ofBinding (scope : Scope) (binding : ScopedBinding)
  | ofVariables (base : Base)
  | ofRule (rule : Rule) (binding : HoldBinding)
  deriving DecidableEq, Repr

namespace Visit

/-- The checks that are made at a visit. -/
def checks (config : Config) : Visit → List Check
  | .ofSubstitution substitution => substitution.checks config
  | .ofTrigger base =>
    [.claim ⟨base.trigger, [], config.device? base.device⟩
      ("ruleBaseBy(" ++ base.trigger.text ++ ")")]
  | .ofKeys base =>
    (Scope.ofBase base).roleChecks (base.layers.preorder.map Layer.key) ++
      base.layerScopes.flatMap Scope.keyChecks
  | .ofBinding scope binding =>
    binding.toBinding.checks scope.description scope.path (scope.device? config)
  | .ofVariables base => base.scopes.map Scope.ownCheck
  | .ofRule rule binding => binding.checks config rule

/-- The claim of what is visited. Keys and variables are claimed with what they belong to. -/
def claim? (config : Config) : Visit → Option Claim
  | .ofSubstitution substitution =>
    some ⟨substitution.source, [], config.device? substitution.device⟩
  | .ofTrigger base => some ⟨base.trigger, [], config.device? base.device⟩
  | .ofBinding scope binding => some ⟨binding.source, scope.path, scope.device? config⟩
  | .ofRule rule binding => some ⟨binding.source, [], config.device? rule.device⟩
  | .ofKeys _ | .ofVariables _ => none

/-- The claim that a visit leaves behind when it ends with a violation: its own, if what is wrong is
a destination or a hold. -/
def kept? (config : Config) (visit : Visit) : Violation → Option Claim
  | .invalidDestination .. => visit.claim? config
  | _ => none

end Visit

/-- The visits of a base: its trigger, the keys, the bindings of all scopes, and the variables. -/
def Base.visits (base : Base) : List Visit :=
  .ofTrigger base :: .ofKeys base ::
    ((base.scopes.flatMap fun scope => scope.bindings.map (.ofBinding scope)) ++
      [.ofVariables base])

/-- All visits of a configuration: substitutions, then bases, then rules. -/
def Config.visits (config : Config) : List Visit :=
  config.substitutions.map .ofSubstitution ++ config.bases.flatMap Base.visits ++
    config.rules.flatMap fun rule => rule.bindings.map (.ofRule rule)

/-- The checks of a base are made at its visits. -/
theorem Base.checks_eq_flatMap_visits (config : Config) (base : Base) :
    base.checks config = base.visits.flatMap (Visit.checks config) := by
  have hbindings : (base.scopes.flatMap fun scope =>
      scope.bindings.map (Visit.ofBinding scope)).flatMap (Visit.checks config) =
        base.scopes.flatMap (Scope.bindingChecks config) := by
    rw [List.flatMap_assoc]
    simp only [List.flatMap_map]
    rfl
  rw [visits, List.flatMap_cons, List.flatMap_cons, List.flatMap_append, hbindings,
    List.flatMap_singleton]
  simp only [checks, Visit.checks, List.append_assoc, List.cons_append, List.nil_append]

/-- Validation makes the checks of its visits. -/
theorem Config.checks_eq_flatMap_visits (config : Config) :
    config.checks = config.visits.flatMap (Visit.checks config) := by
  have hbases := funext (Base.checks_eq_flatMap_visits config)
  simp only [checks, hbases, visits, List.flatMap_append, List.flatMap_map, List.flatMap_assoc]
  rfl

/-! ## What a visit claims -/

/-- A check refuses a destination or a hold. -/
def Check.RefusesSending (check : Check) : Prop :=
  ∃ value context reason, check = .refuse (.invalidDestination value context reason)

/-- Where only what is sent can be at fault, the check of an outcome refuses what is sent. -/
theorem Check.refusesSending_of_mem_unlessOk {α : Type} {outcome : Except Violation α}
    (h : ∀ violation, outcome = .error violation →
      ∃ value context reason, violation = .invalidDestination value context reason)
    {check : Check} (hcheck : check ∈ unlessOk outcome) : check.RefusesSending := by
  cases outcome with
  | ok result => cases hcheck
  | error violation =>
      obtain ⟨value, context, reason, rfl⟩ := h violation rfl
      exact ⟨value, context, reason, List.mem_singleton.mp hcheck⟩

/-- Of a claim and refusals after it, only the claim claims something. -/
theorem Check.filterMap_claim?_cons {claim : Claim} {context : String} {rest : List Check}
    (h : ∀ check ∈ rest, check.RefusesSending) :
    (Check.claim claim context :: rest).filterMap claim? = [claim] := by
  have hrest : rest.filterMap claim? = [] := List.filterMap_eq_nil_iff.mpr fun check hcheck => by
    obtain ⟨value, place, reason, rfl⟩ := h check hcheck
    rfl
  rw [List.filterMap_cons_some (f := claim?) rfl, hrest]

/-- The checks of the destinations of a binding refuse what is sent. -/
theorem Binding.refusesSending_of_mem {binding : Binding} {context : String} {check : Check}
    (h : check ∈ binding.destinations.flatMap fun destination =>
      Check.unlessOk (destination.action context)) : check.RefusesSending := by
  obtain ⟨destination, -, hcheck⟩ := List.mem_flatMap.mp h
  refine Check.refusesSending_of_mem_unlessOk (fun violation herror => ?_) hcheck
  obtain ⟨fault, -, rfl⟩ := Destination.action_eq_error_iff.mp herror
  exact ⟨_, _, _, rfl⟩

/-- The check of what a substitution stands for refuses what is sent. -/
theorem Substitution.refusesSending_of_mem {substitution : Substitution} {check : Check}
    (h : check ∈ substitution.destination.toList.flatMap fun destination =>
      Check.unlessOk (destination.keyPress substitution.context)) : check.RefusesSending := by
  obtain ⟨destination, -, hcheck⟩ := List.mem_flatMap.mp h
  refine Check.refusesSending_of_mem_unlessOk (fun violation herror => ?_) hcheck
  rw [Destination.keyPress] at herror
  split at herror
  · cases herror
  · cases herror
    exact ⟨_, _, _, rfl⟩
  · cases herror
    exact ⟨_, _, _, rfl⟩

/-- The check of a hold action refuses what is sent. -/
theorem Hold.Action.refusesSending_of_mem {action : Hold.Action} {context : String} {check : Check}
    (h : check ∈ action.checks context) : check.RefusesSending := by
  cases action with
  | key pressed modifiers => cases h
  | shell command =>
      rw [checks] at h
      split at h
      · exact ⟨_, _, _, List.mem_singleton.mp h⟩
      · cases h

namespace Visit

variable {config : Config} {visit : Visit}

/-- A visit that claims something does so first, and then only refuses what cannot be sent. -/
theorem checks_eq_of_claim? {claim : Claim} (h : visit.claim? config = some claim) :
    ∃ context rest, visit.checks config = .claim claim context :: rest ∧
      ∀ check ∈ rest, check.RefusesSending := by
  cases visit with
  | ofSubstitution substitution =>
      cases h
      exact ⟨_, _, rfl, fun check => Substitution.refusesSending_of_mem⟩
  | ofTrigger base =>
      cases h
      exact ⟨_, _, rfl, List.forall_mem_nil _⟩
  | ofBinding scope binding =>
      cases h
      exact ⟨_, _, rfl, fun check => Binding.refusesSending_of_mem⟩
  | ofRule rule binding =>
      cases h
      refine ⟨_, _, rfl, List.forall_mem_append.mpr ⟨?_, ?_⟩⟩
      · exact fun check => Binding.refusesSending_of_mem
      · intro check hcheck
        obtain ⟨hold, -, hcheck⟩ := List.mem_flatMap.mp hcheck
        exact Hold.Action.refusesSending_of_mem hcheck
  | ofKeys base | ofVariables base => cases h

/-- The checks of a visit make the claim of what is visited and no other. -/
theorem claims_checks (config : Config) (visit : Visit) :
    (visit.checks config).filterMap Check.claim? = (visit.claim? config).toList := by
  cases hclaim : visit.claim? config with
  | some claim =>
      obtain ⟨context, rest, hchecks, hrest⟩ := checks_eq_of_claim? hclaim
      rw [hchecks, Check.filterMap_claim?_cons hrest]
      rfl
  | none =>
      cases visit with
      | ofKeys base =>
          rw [checks, List.filterMap_append, List.filterMap_flatMap, Scope.roleChecks,
            Check.filterMap_refuse fun _ => rfl, List.flatMap_eq_nil_iff.mpr]
          · rfl
          · exact fun scope _ => scope.filterMap_keyChecks fun _ => rfl
      | ofVariables base =>
          rw [checks, List.filterMap_map]
          exact List.filterMap_eq_nil_iff.mpr fun _ _ => rfl
      | _ => cases hclaim

/-- The visits of a list claim what they claim one by one. -/
theorem claims_flatMap_checks (config : Config) (visits : List Visit) :
    (visits.flatMap (checks config)).filterMap Check.claim? =
      visits.filterMap (claim? config) := by
  rw [List.filterMap_flatMap, List.filterMap_eq_flatMap_toList]
  exact List.flatMap_congr fun visit _ => claims_checks config visit

/-- A visit that ends with a violation leaves its claim behind exactly if it has made it: what is
wrong is then a destination or a hold. -/
theorem claims_of_fails {state last : Validation} {violation : Violation}
    (h : state.run (visit.checks config) = (last, some violation)) :
    last.registry.claims.Perm
      ((visit.kept? config violation).toList ++ state.registry.claims) := by
  obtain ⟨passed, check, later, hchecks, hpassed, hfails⟩ := Validation.exists_of_run_fails h
  suffices hkept : passed.filterMap Check.claim? = (visit.kept? config violation).toList by
    rw [← hkept]
    exact Validation.claims_run hpassed
  cases hclaim : visit.claim? config with
  | none =>
      have hnone : visit.kept? config violation = none := by
        cases violation <;> first | exact hclaim | rfl
      have hclaims := claims_checks config visit
      rw [hclaim, hchecks, List.filterMap_append] at hclaims
      rw [hnone, (List.append_eq_nil_iff.mp hclaims).1]
      rfl
  | some claim =>
      obtain ⟨context, rest, hfirst, hrest⟩ := checks_eq_of_claim? hclaim
      rw [hfirst] at hchecks
      -- either the claim itself fails, or it is the first of the checks that have passed
      cases passed with
      | nil =>
          obtain ⟨rfl, -⟩ := List.cons.inj hchecks
          rw [Validation.step, Registry.register] at hfails
          split at hfails
          · cases hfails
            rfl
          · cases hfails
      | cons first passed =>
          obtain ⟨rfl, rfl⟩ := List.cons.inj hchecks
          obtain ⟨hbefore, hcheck⟩ := List.forall_mem_append.mp hrest
          obtain ⟨value, place, reason, rfl⟩ := hcheck check List.mem_cons_self
          cases hfails
          rw [Check.filterMap_claim?_cons hbefore, kept?, hclaim]
          rfl

end Visit

/-! ## Where a run stops -/

/-- A run over pieces that fails does so in one of them, after all pieces before it have passed. -/
theorem Validation.exists_of_run_flatMap_fails {α : Type} {checks : α → List Check}
    {pieces : List α} {state last : Validation} {violation : Violation}
    (h : state.run (pieces.flatMap checks) = (last, some violation)) :
    ∃ before piece after next, pieces = before ++ piece :: after ∧
      state.run (before.flatMap checks) = (next, none) ∧
        next.run (checks piece) = (last, some violation) := by
  induction pieces generalizing state with
  | nil => cases h
  | cons piece rest ih =>
      rw [List.flatMap_cons, run_append] at h
      rcases hfirst : state.run (checks piece) with ⟨next, _ | found⟩
      · rw [hfirst] at h
        obtain ⟨before, failed, after, reached, rfl, hbefore, hfailed⟩ := ih h
        refine ⟨piece :: before, failed, after, reached, rfl, ?_, hfailed⟩
        rw [List.flatMap_cons, run_append, hfirst]
        exact hbefore
      · rw [hfirst] at h
        cases h
        exact ⟨[], piece, rest, state, rfl, rfl, hfirst⟩

/-- Validation goes through the visits `before` and finds the violation at the next one. -/
structure Config.StopsAt (config : Config) (before : List Visit) (visit : Visit)
    (violation : Violation) : Prop where
  visited : ∃ after, config.visits = before ++ visit :: after
  passes : (({} : Validation).run (before.flatMap (Visit.checks config))).2 = none
  fails : (({} : Validation).run ((before ++ [visit]).flatMap (Visit.checks config))).2 =
    some violation

/-- A configuration that fails is left with the claims of what was visited before the violation. -/
theorem Config.exists_stopsAt {config : Config} {last : Validation} {violation : Violation}
    (h : config.validate = (last, some violation)) :
    ∃ before visit, config.StopsAt before visit violation ∧
      last.registry.claims.Perm
        ((visit.kept? config violation).toList ++ before.filterMap (Visit.claim? config)) := by
  rw [validate, config.checks_eq_flatMap_visits] at h
  obtain ⟨before, visit, after, next, hvisits, hbefore, hvisit⟩ :=
    Validation.exists_of_run_flatMap_fails h
  refine ⟨before, visit, ⟨⟨after, hvisits⟩, congrArg Prod.snd hbefore, ?_⟩, ?_⟩
  · rw [List.flatMap_append, List.flatMap_singleton, Validation.run_append, hbefore]
    exact congrArg Prod.snd hvisit
  · have hclaims := Validation.claims_run hbefore
    rw [Visit.claims_flatMap_checks] at hclaims
    refine (Visit.claims_of_fails hvisit).trans (List.Perm.append_left _ ?_)
    simpa using hclaims

/-! ## How many claims there are -/

/-- The bindings of the scopes of a forest are those of its layers. -/
theorem Scope.flatMap_bindings_within (scope : Scope) (forest : Forest Layer) :
    (scope.within forest).flatMap Scope.bindings = forest.preorder.flatMap Layer.bindings := by
  induction forest generalizing scope with
  | nil => rfl
  | cons layer nested next ihn ihs =>
      simp only [within_cons, List.flatMap_cons, List.flatMap_append, bindings_enter, ihn, ihs,
        Forest.preorder_cons]

/-- A base claims its trigger, and the source of each of its bindings and of those of its layers. -/
theorem Base.length_claims (config : Config) (base : Base) :
    (base.claims config).length =
      1 + base.bindings.length + (base.layers.preorder.flatMap Layer.bindings).length := by
  have hclaims : (base.scopes.flatMap (Scope.claims config)).length =
      (base.scopes.flatMap Scope.bindings).length := by
    simp only [List.length_flatMap, Scope.claims, List.length_map]
  have hroot : (Scope.ofBase base).bindings = base.bindings := rfl
  rw [claims, List.length_cons, hclaims, scopes, List.flatMap_cons, List.length_append, hroot,
    layerScopes, Scope.flatMap_bindings_within]
  omega

/-- A configuration makes one claim for every substitution, every base, every binding of a base or
of a layer at any depth, and every binding of a rule. -/
theorem Config.length_claims (config : Config) :
    config.claims.length =
      config.substitutions.length + config.bases.length +
        (config.bases.flatMap Base.bindings).length +
        (config.bases.flatMap fun base => base.layers.preorder.flatMap Layer.bindings).length +
        (config.rules.flatMap Rule.bindings).length := by
  have hbases : (config.bases.flatMap (Base.claims config)).length =
      config.bases.length + (config.bases.flatMap Base.bindings).length +
        (config.bases.flatMap fun base => base.layers.preorder.flatMap Layer.bindings).length := by
    induction config.bases with
    | nil => rfl
    | cons base rest ih =>
        simp only [List.flatMap_cons, List.length_append, List.length_cons, base.length_claims, ih]
        omega
  have hrules : (config.rules.flatMap (Rule.claims config)).length =
      (config.rules.flatMap Rule.bindings).length := by
    simp only [List.length_flatMap, Rule.claims, List.length_map]
  rw [claims, List.length_append, List.length_append, List.length_map, hbases, hrules]
  omega

/-! ## Compiling again and again -/

/-- Compiles configurations one after another. Each comes out with the compiler that it leaves. -/
def Compiler.compileAll (compiler : Compiler) :
    List Config → List (Compiler × Except Violation Document)
  | [] => []
  | config :: rest =>
    let outcome := compiler.compile config
    outcome :: outcome.1.compileAll rest

/-- What compiling a configuration gives and leaves behind, whatever the compiler has compiled
before. -/
structure Config.Accounts (config : Config) (outcome : Compiler × Except Violation Document) :
    Prop where
  /-- The result is that of a compiler of its own. -/
  result : outcome.2 = config.compile
  /-- After a success, all declarations have their claims. -/
  success : ∀ document, outcome.2 = .ok document →
    outcome.1.registry.claims.Perm config.claims ∧
      outcome.1.registry.size =
        config.substitutions.length + config.bases.length +
          (config.bases.flatMap Base.bindings).length +
          (config.bases.flatMap fun base => base.layers.preorder.flatMap Layer.bindings).length +
          (config.rules.flatMap Rule.bindings).length
  /-- After a failure, what was visited before the violation has its claims, and what is at fault
  has its own if it is a destination or a hold that is wrong. -/
  failure : ∀ violation, outcome.2 = .error violation →
    ∃ before visit, config.StopsAt before visit violation ∧
      outcome.1.registry.claims.Perm
        ((visit.kept? config violation).toList ++ before.filterMap (Visit.claim? config)) ∧
      outcome.1.registry.size = (before.filterMap (Visit.claim? config)).length +
        (visit.kept? config violation).toList.length

namespace Compiler

/-- Compiling a configuration accounts for its result and for the claims that it leaves behind. -/
theorem compile_accounts (compiler : Compiler) (config : Config) :
    config.Accounts (compiler.compile config) where
  result := rfl
  success := by
    intro document h
    have hpasses := config.validate_passes_iff.mpr (compile_eq_ok_iff.mp h).1
    have hclaims := Validation.claims_run (Prod.ext rfl hpasses)
    rw [config.claims_checks] at hclaims
    have hperm : (compiler.compile config).1.registry.claims.Perm config.claims := by
      rw [registry_compile]
      simpa [Config.validate] using hclaims
    exact ⟨hperm, hperm.length_eq.trans config.length_claims⟩
  failure := by
    intro violation h
    obtain ⟨before, visit, hstops, hclaims⟩ :=
      Config.exists_stopsAt (Prod.ext rfl (compile_eq_error_iff.mp h))
    rw [← registry_compile compiler] at hclaims
    refine ⟨before, visit, hstops, hclaims, ?_⟩
    rw [Registry.size, hclaims.length_eq, List.length_append, Nat.add_comm]

/-- A compiler may be used again and again. Whatever it has compiled and whatever has failed, every
configuration has the result that it has with a compiler of its own, and the compiler keeps just the
claims that were made before the run ended. -/
theorem compileAll_accounts (compiler : Compiler) (configs : List Config) :
    List.Forall₂ Config.Accounts configs (compiler.compileAll configs) := by
  induction configs generalizing compiler with
  | nil => exact .nil
  | cons config rest ih => exact .cons (compiler.compile_accounts config) (ih _)

/-- The second substitution of the first configuration conflicts with the first one; the second
configuration has seven claims, of which none is lost to what has failed before. -/
example : ((({} : Compiler).compileAll [.flawed, .desk, .flawed]).map (·.1.registry.size)) =
    [1, 7, 1] := by decide +kernel

end Compiler

end KeyRemap
