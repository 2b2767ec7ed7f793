/-!
# JSON values

The JSON values that a document is written as. The members of an object keep their order. There are
no fractions, no negative numbers and no null: an absent member is left out.
-/

namespace KeyRemap

/-- A JSON value. -/
inductive Json where
  | bool (value : Bool)
  | nat (value : Nat)
  | str (value : String)
  | arr (items : List Json)
  | obj (members : List (String × Json))
  deriving Repr, Inhabited

namespace Json

/-- The member that is left out when there is nothing to write. -/
def member? (name : String) (value : Option Json) : List (String × Json) :=
  (value.map fun json => (name, json)).toList

/-- The member that is left out when its list is empty. -/
def items? (name : String) (items : List Json) : List (String × Json) :=
  if items.isEmpty then [] else [(name, .arr items)]

end Json

end KeyRemap
