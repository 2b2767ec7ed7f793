import KeyRemap.Json

/-!
# Printing JSON

The layout is two spaces for every level, one item or member a line, and nothing between the
brackets of an empty list or object. Inside a string only the double quote, the backslash and the
controls are escaped.
-/

namespace KeyRemap.Json

/-- A character as it stands inside a JSON string. -/
def escape (c : Char) : List Char :=
  if c = '"' then ['\\', '"']
  else if c = '\\' then ['\\', '\\']
  else if c = '\x08' then ['\\', 'b']
  else if c = '\x0c' then ['\\', 'f']
  else if c = '\n' then ['\\', 'n']
  else if c = '\r' then ['\\', 'r']
  else if c = '\t' then ['\\', 't']
  else if c.toNat < 0x20 then
    ['\\', 'u', '0', '0', Nat.digitChar (c.toNat / 16), Nat.digitChar (c.toNat % 16)]
  else [c]

/-- A string in quotes. -/
def quote (s : String) : List Char :=
  '"' :: s.toList.flatMap escape ++ ['"']

/-- The line break before something that is indented by `depth` levels. -/
def newline (depth : Nat) : List Char :=
  '\n' :: List.replicate (2 * depth) ' '

/-- Pieces on lines of their own, separated by commas, between two brackets. -/
def bracket (opening closing : Char) (depth : Nat) (pieces : List (List Char)) : List Char :=
  if pieces.isEmpty then [opening, closing]
  else
    opening :: ([','].intercalate (pieces.map (newline (depth + 1) ++ ·))) ++
      newline depth ++ [closing]

mutual

/-- The text of a value that starts on a line indented by `depth` levels. -/
def render (depth : Nat) : Json → List Char
  | bool value => if value then "true".toList else "false".toList
  | nat value => Nat.toDigits 10 value
  | str value => quote value
  | arr items => bracket '[' ']' depth (renderItems (depth + 1) items)
  | obj members => bracket '\x7b' '\x7d' depth (renderMembers (depth + 1) members)

/-- The texts of the items of a list. -/
def renderItems (depth : Nat) : List Json → List (List Char)
  | [] => []
  | item :: items => render depth item :: renderItems depth items

/-- The texts of the members of an object. -/
def renderMembers (depth : Nat) : List (String × Json) → List (List Char)
  | [] => []
  | (name, value) :: members =>
    (quote name ++ [':', ' '] ++ render depth value) :: renderMembers depth members

end

/-- The text of a value, without a line break at its end. -/
def pretty (json : Json) : String :=
  String.ofList (render 0 json)

end KeyRemap.Json
