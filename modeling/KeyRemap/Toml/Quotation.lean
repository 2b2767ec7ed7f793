import KeyRemap.Toml.Number
import KeyRemap.Toml.Rest

/-!
# Strings in TOML

Four kinds of strings: in double quotes with escapes, in single quotes without, and either of them
over several lines in tripled quotes. In a string of several lines the line break right after the
opening quotes does not count, every line break is a line feed, a backslash at the end of a line
swallows what is blank up to the next text, and one or two quotes may stand right before the closing
ones.
-/

namespace KeyRemap.Toml

/-- The character that `count` hexadecimal digits number. Surrogates have no character. -/
def numbered (count : Nat) (s : List Char) : Option (Char × Remaining s) :=
  let digits := s.take count
  let n := ofDigits 16 digits
  if digits.length = count ∧ digits.all isHexDigit ∧ n.isValidChar then
    some (Char.ofNat n, skip count s)
  else none

/-- The character that an escape stands for, after its backslash. -/
def escape : Reader Char
  | [] => none
  | c :: rest =>
    let simple (d : Char) := some (d, Rest.tail c rest)
    match c with
    | 'b' => simple '\x08'
    | 'f' => simple '\x0c'
    | 'n' => simple '\n'
    | 'r' => simple '\r'
    | 't' => simple '\t'
    | '"' => simple '"'
    | '\\' => simple '\\'
    | 'u' => (numbered 4 rest).map fun (d, r) => (d, r.cons c)
    | 'U' => (numbered 8 rest).map fun (d, r) => (d, r.cons c)
    | _ => none

/-- What remains after the blanks and line breaks of several lines. -/
def skipBlankLines (s : List Char) : Remaining s :=
  let spaces := skipSpaces s
  match lineBreak? spaces.1 with
  | none => spaces
  | some next =>
    have := spaces.2
    have := next.2
    spaces.andThen (next.remaining.andThen (skipBlankLines next.1))
termination_by s.length
decreasing_by omega

/-- What is left after a backslash that ends its line, once the backslash has been read. -/
def continuation? (s : List Char) : Option (Rest s) :=
  let spaces := skipSpaces s
  (lineBreak? spaces.1).map fun next => spaces.read (next.andThen (skipBlankLines next.1))

/-- The text of a string in double quotes, after the opening one. -/
def basicBody : Reader (List Char)
  | [] => none
  | c :: rest =>
    if c = '"' then some ([], .tail c rest)
    else if c = '\\' then do
      let (d, next) ← escape rest
      have := next.2
      let (text, left) ← basicBody next.1
      return (d :: text, (next.andThen left.remaining).remaining.cons c)
    else if isPlain c then do
      let (text, left) ← basicBody rest
      return (c :: text, left.remaining.cons c)
    else none
termination_by s => s.length
decreasing_by all_goals (simp only [List.length_cons]; omega)

/-- The text of a string in single quotes, after the opening one. -/
def literalBody : Reader (List Char)
  | [] => none
  | c :: rest =>
    if c = '\'' then some ([], .tail c rest)
    else if isPlain c then do
      let (text, left) ← literalBody rest
      return (c :: text, left.remaining.cons c)
    else none

/-- How many quotes stand at the front of a text? No more than five are of interest, since two may
belong to the string and three close it. -/
def quoteCount (quote : Char) (s : List Char) : Nat :=
  ((s.take 5).takeWhile (· = quote)).length

/-- The text of a string of several lines, after the opening quotes. Only double quotes have
escapes. -/
def linesBody (quote : Char) : Reader (List Char)
  | [] => none
  | c :: rest =>
    let quotes := quoteCount quote (c :: rest)
    if 3 ≤ quotes then
      some (List.replicate (quotes - 3) quote, (skip (quotes - 1) rest).cons c)
    else if c = '\\' ∧ quote = '"' then
      match continuation? rest with
      | some next => do
        have := next.2
        let (text, left) ← linesBody quote next.1
        return (text, (next.andThen left.remaining).remaining.cons c)
      | none => do
        let (d, next) ← escape rest
        have := next.2
        let (text, left) ← linesBody quote next.1
        return (d :: text, (next.andThen left.remaining).remaining.cons c)
    else match lineBreak? (c :: rest) with
      | some next => do
        have := next.2
        let (text, left) ← linesBody quote next.1
        return ('\n' :: text, next.andThen left.remaining)
      | none =>
        if isPlain c then do
          let (text, left) ← linesBody quote rest
          return (c :: text, left.remaining.cons c)
        else none
termination_by s => s.length
decreasing_by all_goals (simp only [List.length_cons] at *; omega)

/-- What remains after a line break, if there is one. -/
def skipLineBreak (s : List Char) : Remaining s :=
  match lineBreak? s with
  | some rest => rest.remaining
  | none => .all s

/-- A string of several lines in tripled quotes. -/
def lines (quote : Char) (s : List Char) : Option (List Char × Rest s) := do
  if quoteCount quote s < 3 then none
  let start := (skip 3 s)
  let first := start.andThen (skipLineBreak start.1)
  let (text, left) ← linesBody quote first.1
  return (text, first.read left)

/-- A string on one line, after its opening quote has been seen. -/
def line : Reader (List Char)
  | '"' :: rest => (basicBody rest).map fun (text, left) => (text, left.remaining.cons '"')
  | '\'' :: rest => (literalBody rest).map fun (text, left) => (text, left.remaining.cons '\'')
  | _ => none

/-- A string of any kind. Tripled quotes always open a string of several lines. -/
def quotation : Reader (List Char) := fun s =>
  if 3 ≤ quoteCount '"' s then lines '"' s
  else if 3 ≤ quoteCount '\'' s then lines '\'' s
  else line s

end KeyRemap.Toml
