import KeyRemap.Config

/-!
# Scripts

A script declares a configuration in writing. Its clauses hold combinations and destinations as
texts, and refer to devices by their number or by their name.
-/

namespace KeyRemap

namespace Script

/-- A reference to a device of the script. -/
inductive Reference where
  | index (index : Nat)
  | name (name : String)
  deriving DecidableEq, Repr

/-- The text of a reference, as messages repeat it. -/
def Reference.text : Reference → String
  | .index number => "#" ++ toString number
  | .name called => called

/-- A device, with the name by which the script refers to it. -/
structure DeviceClause where
  name : Option String := none
  device : Device := { identifiers := {} }
  deriving DecidableEq, Repr, Inhabited

/-- A substitution of one key. -/
structure SubstitutionClause where
  source : String := ""
  destination : Option String := none
  device : Option Reference := none
  deriving DecidableEq, Repr, Inhabited

/-- A binding of a rule. -/
structure RuleBindingClause where
  source : String := ""
  destinations : List String := []
  description : Option String := none
  hold : Option String := none
  holdShell : Option String := none
  timing : Hold.Timing := {}
  deriving DecidableEq, Repr, Inhabited

/-- A rule. -/
structure RuleClause where
  description : Option String := none
  device : Option Reference := none
  timing : Option Hold.Timing := none
  bindings : List RuleBindingClause := []
  deriving DecidableEq, Repr, Inhabited

/-- A binding of a base or a layer. -/
structure ScopedBindingClause where
  source : String := ""
  destinations : List String := []
  description : Option String := none
  separate : Bool := false
  deriving DecidableEq, Repr, Inhabited

/-- A layer, apart from those nested in it. -/
structure LayerClause where
  key : String := ""
  description : Option String := none
  separate : Bool := false
  bindings : List ScopedBindingClause := []
  deriving DecidableEq, Repr, Inhabited

/-- The timing of a base, as far as it is given. -/
structure StrictClause where
  hold : Option Nat := none
  aloneTimeout : Option Nat := none
  heldDownThreshold : Option Nat := none
  delayedAction : Option Nat := none
  deriving DecidableEq, Repr, Inhabited

/-- A base with its layers. -/
structure BaseClause where
  key : String := ""
  description : Option String := none
  device : Option Reference := none
  ifAlone : Option String := none
  aloneHold : Option Nat := none
  strict : StrictClause := {}
  combo : Option String := none
  bindings : List ScopedBindingClause := []
  layers : Forest LayerClause := ∅
  deriving DecidableEq, Repr, Inhabited

end Script

/-- A script. -/
structure Script where
  profile : String := "Default"
  showInMenuBar : Bool := false
  devices : List Script.DeviceClause := []
  substitutions : List Script.SubstitutionClause := []
  rules : List Script.RuleClause := []
  bases : List Script.BaseClause := []
  deriving DecidableEq, Repr, Inhabited

end KeyRemap
