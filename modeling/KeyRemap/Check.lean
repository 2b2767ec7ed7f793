import KeyRemap.Registry

/-!
# Checks

A configuration is valid when it passes all its checks. They are made one after another, and the
first one that fails decides. Claims are registered and variables are given to the paths that own
them; whatever is wrong by itself stands among the checks as a refusal.
-/

namespace KeyRemap

/-- One step of validation. -/
inductive Check where
  | claim (claim : Claim) (context : String)
  | own (name : String) (path : List Combo) (description : String)
  | refuse (violation : Violation)
  deriving DecidableEq, Repr

/-- A variable with the path that owns it and the description of the scope that produced it
first. -/
structure Owner where
  name : String
  path : List Combo
  description : String
  deriving DecidableEq, Repr

/-- What the checks so far have established. -/
structure Validation where
  registry : Registry := ∅
  owners : List Owner := []
  deriving DecidableEq, Repr, Inhabited

namespace Validation

/-- Gives a variable to a path, unless a different path owns it. -/
def own (state : Validation) (name : String) (path : List Combo) (description : String) :
    Except Violation Validation :=
  match state.owners.find? (·.name == name) with
  | none => .ok { state with owners := ⟨name, path, description⟩ :: state.owners }
  | some owner =>
    if owner.path.map Combo.sorted = path.map Combo.sorted then .ok state
    else .error (.variableCollision name owner.description description)

/-- Makes one check. -/
def step (state : Validation) : Check → Except Violation Validation
  | .claim claim context =>
    (state.registry.register claim context).map fun registry => { state with registry }
  | .own name path description => state.own name path description
  | .refuse violation => .error violation

/-- Makes checks until one fails. What was established before the failure is kept. -/
def run (state : Validation) : List Check → Validation × Option Violation
  | [] => (state, none)
  | check :: rest =>
    match state.step check with
    | .ok next => next.run rest
    | .error violation => (state, some violation)

/-- A run without checks changes nothing and passes. -/
@[simp] theorem run_nil (state : Validation) : state.run [] = (state, none) := rfl

/-- Checks that are made after others see what those have established, unless one of those fails. -/
theorem run_append (state : Validation) (first second : List Check) :
    state.run (first ++ second) =
      match state.run first with
      | (next, none) => next.run second
      | (next, some violation) => (next, some violation) := by
  induction first generalizing state with
  | nil => rfl
  | cons check rest ih =>
    rw [List.cons_append, run, run]
    cases state.step check with
    | error violation => rfl
    | ok next => exact ih next

end Validation

end KeyRemap
