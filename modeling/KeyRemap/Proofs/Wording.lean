import KeyRemap.Compiler
import KeyRemap.Proofs.Replacement

/-!
# The texts that checks carry

Every check carries a text that says where it is made, and a violation repeats it. Nothing else
reads these texts: taking them away commutes with each check and so with every run
(`Validation.run_unplaced`). Configurations whose checks differ in texts alone therefore leave the
same registry, and both pass or both fail, with the same violation but for its texts
(`Config.validate_unplaced`). A replacement changes nothing but texts in the checks of a base
(`Replacement.unplaced_checks`).
-/

namespace KeyRemap

/-- The violation without the texts that say where it is found. -/
def Violation.unplaced : Violation → Violation
  | .duplicateKey combo _ => .duplicateKey combo ""
  | .keyRoleConflict key _ => .keyRoleConflict key ""
  | .selfMapping key _ => .selfMapping key ""
  | .invalidDestination value _ reason => .invalidDestination value "" reason
  | .variableCollision name _ _ => .variableCollision name "" ""

/-- The check without the texts that say where it is made. -/
def Check.unplaced : Check → Check
  | .claim made _ => .claim made ""
  | .own name path _ => .own name path ""
  | .refuse violation => .refuse violation.unplaced

/-- The owner without the description of its scope. -/
def Owner.unplaced (owner : Owner) : Owner :=
  { owner with description := "" }

/-- The registry only repeats the text of a claim. -/
theorem Registry.register_unplaced (registry : Registry) (claim : Claim) (context : String) :
    registry.register claim "" = (registry.register claim context).mapError Violation.unplaced := by
  rw [register, register]
  split <;> rfl

namespace Validation

/-- The state without the descriptions of the scopes that own variables. -/
def unplaced (state : Validation) : Validation :=
  { state with owners := state.owners.map Owner.unplaced }

/-- Variables are looked up by their names alone. -/
theorem find?_unplaced (state : Validation) (name : String) :
    state.unplaced.owners.find? (·.name == name) =
      (state.owners.find? (·.name == name)).map Owner.unplaced := by
  rw [unplaced, List.find?_map]
  rfl

/-- Taking the texts away commutes with a check, whether it passes or fails. -/
theorem step_unplaced (state : Validation) (check : Check) :
    state.unplaced.step check.unplaced =
      ((state.step check).map unplaced).mapError Violation.unplaced := by
  cases check with
  | claim claim context =>
      show (state.registry.register claim "").map _ = _
      rw [step, state.registry.register_unplaced claim context]
      cases state.registry.register claim context <;> rfl
  | own name path description =>
      simp only [Check.unplaced, step, own, find?_unplaced]
      cases state.owners.find? (·.name == name) with
      | none => rfl
      | some owner =>
          simp only [Option.map_some, Owner.unplaced]
          split <;> rfl
  | refuse violation => rfl

/-- Taking the texts away commutes with a run. -/
theorem run_unplaced (state : Validation) (checks : List Check) :
    state.unplaced.run (checks.map Check.unplaced) =
      ((state.run checks).1.unplaced, (state.run checks).2.map Violation.unplaced) := by
  induction checks generalizing state with
  | nil => rfl
  | cons check rest ih =>
      rw [List.map_cons, run, step_unplaced, run]
      cases state.step check with
      | ok next => exact ih next
      | error violation => rfl

end Validation

/-- Configurations whose checks differ in texts alone leave the same registry and fail alike. -/
theorem Config.validate_unplaced {a b : Config}
    (h : a.checks.map Check.unplaced = b.checks.map Check.unplaced) :
    a.validate.1.registry = b.validate.1.registry ∧
      a.validate.2.map Violation.unplaced = b.validate.2.map Violation.unplaced := by
  have hruns : (a.validate.1.unplaced, a.validate.2.map Violation.unplaced) =
      (b.validate.1.unplaced, b.validate.2.map Violation.unplaced) := by
    rw [validate, validate, ← Validation.run_unplaced, ← Validation.run_unplaced, h]
  obtain ⟨hstate, hviolation⟩ := Prod.mk.inj hruns
  exact ⟨(congrArg Validation.registry hstate :), hviolation⟩

/-! ## Checks of what is replaced -/

namespace Check

/-- What fails alike is refused alike. -/
theorem unplaced_unlessOk {α : Type} {a b : Except Violation α}
    (h : a.mapError Violation.unplaced = b.mapError Violation.unplaced) :
    (unlessOk a).map unplaced = (unlessOk b).map unplaced := by
  cases a <;> cases b <;> simp_all [unlessOk, unplaced, Except.mapError]

/-- Where a destination stands makes no difference but to texts. -/
theorem unplaced_action (destination : Destination) (context other : String) :
    (unlessOk (destination.action context)).map unplaced =
      (unlessOk (destination.action other)).map unplaced := by
  refine unplaced_unlessOk ?_
  rw [Destination.action, Destination.action]
  cases destination.resolve <;> rfl

end Check

/-- Bindings of the same source to the same destinations make the same checks, wherever they
stand. -/
theorem Binding.unplaced_checks {a b : Binding} (hsource : a.source = b.source)
    (hdestinations : a.destinations = b.destinations) (place other : String) (path : List Combo)
    (device : Option Device) :
    (a.checks place path device).map Check.unplaced =
      (b.checks other path device).map Check.unplaced := by
  rw [checks, checks, hsource, hdestinations, List.map_cons, List.map_cons, List.map_flatMap,
    List.map_flatMap]
  congr 1
  exact List.flatMap_congr fun destination _ => Check.unplaced_action destination _ _

namespace Replacement

variable (r : Replacement) (config : Config) (scope : Scope)

/-- Bindings are checked alike after a replacement, but for the texts of the checks. -/
theorem unplaced_bindingChecks :
    ((r.scope scope).bindingChecks (r.config config)).map Check.unplaced =
      (scope.bindingChecks config).map Check.unplaced := by
  have hdevice : (r.scope scope).device? (r.config config) = scope.device? config := by
    rw [Scope.device?, Replacement.scope, r.device_base]
    rfl
  rw [Scope.bindingChecks, r.bindings_scope, List.flatMap_map, r.path_scope, hdevice,
    Scope.bindingChecks, List.map_flatMap, List.map_flatMap]
  exact List.flatMap_congr fun binding _ =>
    Binding.unplaced_checks (r.source_binding binding) (r.destinations_binding binding) _ _ _ _

/-- Keys that have a role are checked alike after a replacement, but for the texts of the checks. -/
theorem unplaced_roleChecks (keys : List Key) :
    ((r.scope scope).roleChecks keys).map Check.unplaced =
      (scope.roleChecks keys).map Check.unplaced := by
  rw [Scope.roleChecks, r.bound?_scope, Scope.roleChecks]
  cases scope.bound? keys <;> rfl

/-- The keys of a scope are checked alike after a replacement, but for the texts of the checks. -/
theorem unplaced_keyChecks :
    (r.scope scope).keyChecks.map Check.unplaced = scope.keyChecks.map Check.unplaced := by
  have hself : (r.scope scope).selfChecks.map Check.unplaced =
      scope.selfChecks.map Check.unplaced := by
    rw [Scope.selfChecks, r.key_getLast?, r.bound?_scope, Scope.selfChecks]
    cases scope.bound? (scope.layers.getLast?.map Layer.key).toList <;> rfl
  have hnested : (r.scope scope).nested.roots.map Layer.key = scope.nested.roots.map Layer.key :=
    r.map_key_roots scope.nested
  rw [Scope.keyChecks, hnested, List.map_append, hself, r.unplaced_roleChecks, Scope.keyChecks,
    List.map_append]

/-- The variable of a scope is checked alike after a replacement, but for the texts of the check. -/
theorem unplaced_ownCheck : (r.scope scope).ownCheck.unplaced = scope.ownCheck.unplaced := by
  rw [Scope.ownCheck, r.variableName_scope, r.path_scope, Scope.ownCheck]
  rfl

/-- A base that is replaced makes the same checks but for their texts. -/
theorem unplaced_checks (base : Base) :
    ((r.base base).checks (r.config config)).map Check.unplaced =
      (base.checks config).map Check.unplaced := by
  have hdevice : (r.config config).device? base.device = config.device? base.device := rfl
  simp only [Base.checks, r.trigger_base, r.device_base, hdevice, r.scope_ofBase,
    r.map_key_preorder, r.layerScopes_base, r.scopes_base, List.map_cons, List.map_append,
    List.map_flatMap, List.flatMap_map, List.map_map, r.unplaced_roleChecks, r.unplaced_keyChecks,
    r.unplaced_bindingChecks]
  congr 2
  exact List.map_congr_left fun scope _ => r.unplaced_ownCheck scope

end Replacement

end KeyRemap
