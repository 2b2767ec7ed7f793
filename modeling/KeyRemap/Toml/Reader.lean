import KeyRemap.Toml.Moment
import KeyRemap.Toml.Quotation
import KeyRemap.Toml.Table

/-!
# Reading TOML

Keys, values and sections, from the characters of a text to the table that it describes. A value
that is written without quotes or brackets is a bare token: the longest run of characters that such
a value can hold, all of which have to make sense together.

A dotted key has fewer than 80 names, and arrays and inline tables nest less than 80 deep.
-/

namespace KeyRemap.Toml

/-- The number of names that a dotted key may not reach, and of arrays and inline tables around a
value. -/
def nestingLimit : Nat := 80

/-! ## Keys -/

/-- May the character stand in a bare key? -/
def isKeyChar (c : Char) : Bool := c.isAlphanum || c = '-' || c = '_'

/-- One name of a key, bare or quoted on one line. -/
def keyName : Reader String
  | [] => none
  | c :: rest =>
    if isKeyChar c then
      some (String.ofList (c :: rest.takeWhile isKeyChar), (skipWhile isKeyChar rest).cons c)
    else (line (c :: rest)).map fun (text, left) => (String.ofList text, left)

/-- The names of a key, with the blanks around them. -/
def keyNames (s : List Char) : Option (List String × Rest s) := do
  let spaces := skipSpaces s
  let (name, afterName) ← keyName spaces.1
  let left := spaces.read (afterName.andThen (skipSpaces afterName.1))
  match h : left.1 with
  | '.' :: rest => do
    let (names, more) ← keyNames rest
    return (name :: names, ⟨more.1, Nat.lt_trans more.2 (left.length_lt h)⟩)
  | _ => return ([name], left)
termination_by s.length
decreasing_by exact left.length_lt h

/-- A key: the names on the way and the last name. -/
def key (s : List Char) : Option ((List String × String) × Rest s) := do
  let (names, left) ← keyNames s
  if nestingLimit ≤ names.length then none
  let last ← names.getLast?
  return ((names.dropLast, last), left)

/-! ## Values -/

/-- May the character stand in a bare token? -/
def isTokenChar (c : Char) : Bool :=
  c.isAlphanum || c = '+' || c = '-' || c = '_' || c = '.' || c = ':'

/-- The value that a bare token writes. -/
def bareValue? (token : List Char) : Option Value :=
  if token = "true".toList then some (.boolean true)
  else if token = "false".toList then some (.boolean false)
  else if isMoment token then some (.dateTime (String.ofList token))
  else (integer? token).map .integer <|> (float? token).map .float

/-- The time of day that a blank joins to a date, if one follows. -/
def spacedTime : List Char → List Char
  | ' ' :: rest =>
    let time := rest.takeWhile isTokenChar
    if isTimeWithOffset time then ' ' :: time else []
  | _ => []

/-- A value that is written without quotes or brackets. -/
def bareValue : Reader Value
  | [] => none
  | c :: rest =>
    if isTokenChar c then
      let token := c :: rest.takeWhile isTokenChar
      let left := skipWhile isTokenChar rest
      let time := if isDate token then spacedTime left.1 else []
      if time.isEmpty then (bareValue? token).map fun value => (value, left.cons c)
      else some (.dateTime (String.ofList (token ++ time)),
        (left.andThen (skip time.length left.1)).cons c)
    else none

/-- The items of an array, each read by `item`, up to and past the closing bracket. Commas separate
them, and one may follow the last. -/
def arrayItems (item : Reader Value) (s : List Char) : Option (List Value × Rest s) := do
  let start ← skipGaps s
  match expect ']' start.1 with
  | some left => return ([], start.read left)
  | none => do
    let (value, afterItem) ← item start.1
    let next ← skipGaps afterItem.1
    match expect ',' next.1 with
    | some comma => do
      have := start.2
      have := afterItem.2
      have := next.2
      have := comma.2
      let (values, left) ← arrayItems item comma.1
      return (value :: values, ⟨left.1, by have := left.2; omega⟩)
    | none => do
      let left ← expect ']' next.1
      return ([value], start.read (afterItem.andThen (next.read left).remaining))
termination_by s.length
decreasing_by omega

/-- An assignment, whose value `item` reads, with the blanks around it. -/
def assignment (item : Reader Value) (s : List Char) : Option (Assignment × Rest s) := do
  let ((path, name), afterKey) ← key s
  let equals ← expect '=' afterKey.1
  let spaces := skipSpaces equals.1
  let (value, afterValue) ← item spaces.1
  let left := spaces.read (afterValue.andThen (skipSpaces afterValue.1))
  return (⟨path, name, value⟩, afterKey.andThen (equals.andThen left.remaining).remaining)

/-- The assignments of an inline table, up to and past the closing brace. Commas separate them. -/
def inlineAssignments (item : Reader Value) (s : List Char) :
    Option (List Assignment × Rest s) := do
  let (first, afterFirst) ← assignment item s
  match expect ',' afterFirst.1 with
  | some comma => do
    have := afterFirst.2
    have := comma.2
    let (later, left) ← inlineAssignments item comma.1
    return (first :: later, ⟨left.1, by have := left.2; omega⟩)
  | none => do
    let left ← expect '\x7d' afterFirst.1
    return ([first], afterFirst.andThen left.remaining)
termination_by s.length
decreasing_by omega

/-- An inline table, after its opening brace. -/
def inlineTable (item : Reader Value) (s : List Char) : Option (Value × Rest s) := do
  let spaces := skipSpaces s
  match expect '\x7d' spaces.1 with
  | some left => return (.table .inline [], spaces.read left)
  | none => do
    let (assignments, left) ← inlineAssignments item s
    return (.table .inline (← assignAll [] assignments), left)

/-- A value in which arrays and inline tables nest at most `depth` deep. -/
def value : (depth : Nat) → Reader Value
  | depth, s =>
    match s with
    | [] => none
    | c :: rest =>
      if c = '"' ∨ c = '\'' then
        (quotation (c :: rest)).map fun (text, left) => (.string (String.ofList text), left)
      else match depth with
        | 0 => bareValue (c :: rest)
        | depth + 1 =>
          if c = '[' then
            (arrayItems (value depth) rest).map fun (items, left) =>
              (.array items, left.remaining.cons c)
          else if c = '\x7b' then
            (inlineTable (value depth) rest).map fun (table, left) =>
              (table, left.remaining.cons c)
          else bareValue (c :: rest)

/-! ## Sections -/

/-- A header, which fills its line. Two brackets open a new element of an array of tables. -/
def header (s : List Char) : Option (Header × Rest s) :=
  match s with
  | '[' :: '[' :: rest => do
    let ((path, name), afterKey) ← key rest
    let first ← expect ']' afterKey.1
    let second ← expect ']' first.1
    let left ← endLine second.1
    return (.element path name, ⟨left.1, by
      have := afterKey.2; have := first.2; have := second.2; have := left.2; simp; omega⟩)
  | '[' :: rest => do
    let ((path, name), afterKey) ← key rest
    let bracket ← expect ']' afterKey.1
    let left ← endLine bracket.1
    return (.table path name, ⟨left.1, by
      have := afterKey.2; have := bracket.2; have := left.2; simp; omega⟩)
  | _ => none

/-- The sections from some place in a document on. The first of them has the header `current` and
begins with those assignments, given in reverse. -/
def sections (current : Header) (assignments : List Assignment) (s : List Char) :
    Option (List Section) := do
  let start ← skipGaps s
  match start.1 with
  | [] => return [⟨current, assignments.reverse⟩]
  | '[' :: _ => do
    let (next, left) ← header start.1
    have := start.2
    have := left.2
    return ⟨current, assignments.reverse⟩ :: (← sections next [] left.1)
  | _ => do
    let (assigned, afterValue) ← assignment (value (nestingLimit - 1)) start.1
    let left ← endLine afterValue.1
    have := start.2
    have := afterValue.2
    have := left.2
    sections current (assigned :: assignments) left.1
termination_by s.length
decreasing_by all_goals omega

/-- The text without a byte order mark at its front. -/
def dropMark : List Char → List Char
  | c :: rest => if c = '\ufeff' then rest else c :: rest
  | [] => []

/-- The table that a TOML document describes, if the text is one. -/
def parse? (text : String) : Option Entries := do
  assemble (← sections .root [] (dropMark text.toList))

end KeyRemap.Toml
