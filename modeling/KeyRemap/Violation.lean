import KeyRemap.Destination
import KeyRemap.Text.Quoted

/-!
# Violations

Why a configuration cannot be compiled. Each violation names what is wrong and where; its message
puts that into words.
-/

namespace KeyRemap

/-- A reason to refuse a configuration. -/
inductive Violation where
  | duplicateKey (combo : Combo) (context : String)
  | keyRoleConflict (key : Key) (scope : String)
  | selfMapping (key : Key) (layer : String)
  | invalidDestination (value context : String) (reason : Destination.Fault)
  | variableCollision (name first second : String)
  deriving DecidableEq, Repr

/-- The wording of a violation. -/
def Violation.message : Violation → String
  | .duplicateKey combo context =>
    "Duplicate key combination: " ++ combo.text ++ " in " ++ context
  | .keyRoleConflict key scope =>
    "Key conflict in rule \"" ++ scope ++ "\": key \"" ++ key.name ++
      "\" cannot be both mapped and used as layer trigger"
  | .selfMapping key layer =>
    "Invalid mapping in layer \"" ++ layer ++ "\": cannot map key \"" ++ key.name ++
      "\" within the same layer that is triggered by this key"
  | .invalidDestination value context reason =>
    "Invalid destination " ++ Text.quoted value ++ " in " ++ context ++ ": " ++ reason.message
  | .variableCollision name first second =>
    "Variable collision: \"" ++ name ++ "\" is produced by both \"" ++ first ++ "\" and \"" ++
      second ++ "\""

end KeyRemap
