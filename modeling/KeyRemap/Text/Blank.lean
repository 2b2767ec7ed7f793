/-!
# Blank characters

The characters that separate words, and the removal of those at the two ends of a text. The table is
the `White_Space` property of Unicode: besides the ASCII blanks it holds U+0085, U+00A0 and the
wider spaces, and it leaves out U+200B, U+FEFF and the separators U+001C to U+001F.
-/

namespace KeyRemap.Text

/-- Does the character have the property `White_Space`? -/
def isBlank (c : Char) : Bool :=
  let n := c.toNat
  (0x09 ≤ n && n ≤ 0x0D) || n == 0x20 || n == 0x85 || n == 0xA0 || n == 0x1680 ||
    (0x2000 ≤ n && n ≤ 0x200A) || n == 0x2028 || n == 0x2029 || n == 0x202F || n == 0x205F ||
    n == 0x3000

/-- The characters of a text without the blank ones at its end. -/
def trimEnd (s : List Char) : List Char :=
  (s.reverse.dropWhile isBlank).reverse

/-- The characters of a text without the blank ones at its two ends. -/
def trim (s : List Char) : List Char :=
  trimEnd (s.dropWhile isBlank)

/-- A text without the blank characters at its two ends. -/
def trimmed (s : String) : String :=
  String.ofList (trim s.toList)

/-- Does a text hold no character that is not blank? -/
def allBlank (s : String) : Bool :=
  s.toList.all isBlank

end KeyRemap.Text
