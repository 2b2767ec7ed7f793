import KeyRemap.Text.Shapeless

/-!
# Quoted text in messages

A message that repeats a text from its input quotes it: in double quotes, with a backslash before a
double quote or a backslash, with short escapes for the common controls, and with the number of
every other character that has no shape of its own. An apostrophe stays as it is.
-/

namespace KeyRemap.Text

/-- A character as it stands inside quotes. -/
def quoteChar (c : Char) : List Char :=
  if c = '"' then ['\\', '"']
  else if c = '\\' then ['\\', '\\']
  else if c = '\t' then ['\\', 't']
  else if c = '\n' then ['\\', 'n']
  else if c = '\r' then ['\\', 'r']
  else if c = Char.ofNat 0 then ['\\', '0']
  else if isShapeless c then ['\\', 'u', '\x7b'] ++ Nat.toDigits 16 c.toNat ++ ['\x7d']
  else [c]

/-- A text in double quotes. -/
def quoted (s : String) : String :=
  String.ofList ('"' :: s.toList.flatMap quoteChar ++ ['"'])

end KeyRemap.Text
