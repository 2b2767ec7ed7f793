import KeyRemap.Combo
import KeyRemap.Text.Blank

/-!
# Reading key combinations

A combination is written as modifiers and a key, separated by plus signs, with any blanks around
each of them: `left_shift + left_command + u`. The key comes last. A modifier may be spelled as such
or as a key that acts as one, and one that is repeated counts once.
-/

namespace KeyRemap.Combo

/-- Why a text is no key combination. -/
inductive ParseError where
  | emptyInput
  | unknownKey (name : String)
  | unknownModifier (name : String)
  | trailingSeparator
  deriving DecidableEq, Repr

/-- The wording of a refusal. -/
def ParseError.message : ParseError → String
  | .emptyInput => "combo string cannot be empty"
  | .unknownKey name => "unknown key name: '" ++ name ++ "'"
  | .unknownModifier name => "unknown modifier: '" ++ name ++ "'"
  | .trailingSeparator => "combo string cannot end with '+'"

/-- The pieces of a text between plus signs, each without the blanks around it. -/
def pieces (s : List Char) : List String :=
  (s.splitOn '+').map fun piece => String.ofList (Text.trim piece)

/-- The modifiers that the pieces before the key name. The first piece that names none is
refused. -/
def parseModifiers (names : List String) : Except ParseError (List Modifier) :=
  names.mapM fun name =>
    match Modifier.ofText? name with
    | some modifier => .ok modifier
    | none => .error (.unknownModifier name)

/-- Reads a combination. The key is looked at before the modifiers, and those from left to right. -/
def parse (text : String) : Except ParseError Combo :=
  let s := Text.trim text.toList
  if s.isEmpty then .error .emptyInput
  else if s.getLast? = some '+' then .error .trailingSeparator
  else
    let names := pieces s
    let last := names.getLastD ""
    match Key.ofName? last with
    | none => .error (.unknownKey last)
    | some key => do
      let modifiers ← parseModifiers names.dropLast
      return .ofList key modifiers

end KeyRemap.Combo
