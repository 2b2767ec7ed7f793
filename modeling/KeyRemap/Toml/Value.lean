import KeyRemap.Decimal.Binary64

/-!
# TOML values

A script is a TOML document: a table of named values, which keep the order in which they were
written. A table remembers how it came about, because that decides how the rest of the document may
still add to it.
-/

namespace KeyRemap.Toml

/-- How a table came about: under a header of its own, because a longer header runs through it,
because a dotted key runs through it, or in braces. -/
inductive Origin where
  | header | implied | dotted | inline
  deriving DecidableEq, Repr

/-- A TOML value. The elements of an array of tables come from headers; those of an array are
written in brackets. -/
inductive Value where
  | string (text : String)
  | integer (value : Int)
  | float (value : Decimal.Binary64)
  | boolean (value : Bool)
  | dateTime (text : String)
  | array (items : List Value)
  | table (origin : Origin) (entries : List (String × Value))
  | tables (elements : List Value)
  deriving Repr, Inhabited

/-- Named values, in the order in which they were written. -/
abbrev Entries := List (String × Value)

end KeyRemap.Toml
