/-!
# What is left to read

A reader takes characters from the front of a text and returns what is left. The type of what is
left says that it is shorter, so a reader that calls others in turn can be seen to end.
-/

namespace KeyRemap.Toml

/-- What is left of `s` after at least one character. -/
abbrev Rest (s : List Char) := { r : List Char // r.length < s.length }

/-- What is left of `s` after any number of characters. -/
abbrev Remaining (s : List Char) := { r : List Char // r.length ≤ s.length }

/-- A reader takes at least one character, or refuses the text. -/
abbrev Reader (α : Type) := (s : List Char) → Option (α × Rest s)

/-- What is left after the first character. -/
def Rest.tail (c : Char) (s : List Char) : Rest (c :: s) := ⟨s, by simp⟩

/-- What is left after the first character and more. -/
def Remaining.cons {s : List Char} (r : Remaining s) (c : Char) : Rest (c :: s) :=
  ⟨r.1, Nat.lt_succ_of_le r.2⟩

/-- What follows the first character of a rest is shorter still. -/
theorem Rest.length_lt {s : List Char} (r : Rest s) {c : Char} {rest : List Char}
    (h : r.1 = c :: rest) : rest.length < s.length := by
  have := r.2
  rw [h, List.length_cons] at this
  omega

/-- What is left when reading goes on from a rest. -/
def Rest.andThen {s : List Char} (r : Rest s) (t : Remaining r.1) : Rest s :=
  ⟨t.1, by have := r.2; have := t.2; omega⟩

/-- A rest is some part that remains. -/
def Rest.remaining {s : List Char} (r : Rest s) : Remaining s :=
  ⟨r.1, by have := r.2; omega⟩

/-- What remains when reading goes on from what remains. -/
def Remaining.andThen {s : List Char} (r : Remaining s) (t : Remaining r.1) : Remaining s :=
  ⟨t.1, by have := r.2; have := t.2; omega⟩

/-- What is left when a reader goes on from what remains. -/
def Remaining.read {s : List Char} (r : Remaining s) (t : Rest r.1) : Rest s :=
  ⟨t.1, by have := r.2; have := t.2; omega⟩

/-- All of a text. -/
def Remaining.all (s : List Char) : Remaining s := ⟨s, Nat.le_refl _⟩

/-- What remains after the longest run of characters that satisfy `p`. -/
def skipWhile (p : Char → Bool) (s : List Char) : Remaining s :=
  ⟨s.dropWhile p, (List.dropWhile_suffix p).length_le⟩

/-- What remains after `n` characters. -/
def skip (n : Nat) (s : List Char) : Remaining s :=
  ⟨s.drop n, by simp⟩

/-- Takes one given character. -/
def expect (c : Char) (s : List Char) : Option (Rest s) :=
  match s with
  | [] => none
  | d :: rest => if d = c then some (.tail d rest) else none

/-- Takes a line break: a line feed, or a carriage return and a line feed. -/
def lineBreak? (s : List Char) : Option (Rest s) :=
  match s with
  | '\n' :: rest => some (.tail '\n' rest)
  | '\r' :: '\n' :: rest => some (Remaining.cons ⟨rest, by simp⟩ '\r')
  | _ => none

/-- Is the character a blank within a line? -/
def isSpace (c : Char) : Bool := c = ' ' || c = '\t'

/-- What remains after the blanks of a line. -/
def skipSpaces (s : List Char) : Remaining s := skipWhile isSpace s

/-- May the character stand in a comment or a literal string? Controls other than the tab may
not. -/
def isPlain (c : Char) : Bool :=
  c = '\t' || (0x20 ≤ c.toNat && c.toNat ≠ 0x7F)

/-- What remains after a comment, if there is one. The characters of the comment end where one
stands that may not be in it. -/
def skipComment (s : List Char) : Remaining s :=
  match s with
  | '#' :: rest => (Remaining.cons (skipWhile isPlain rest) '#').remaining
  | other => .all other

/-- What remains after the blanks and the comment with which a line ends, and its line break. The
last line needs no line break. -/
def endLine (s : List Char) : Option (Remaining s) :=
  let spaces := skipSpaces s
  let comment := spaces.andThen (skipComment spaces.1)
  if comment.1.isEmpty then some comment
  else (lineBreak? comment.1).map fun rest => comment.andThen rest.remaining

/-- What remains after blanks, line breaks and comments. A comment ends with its line or with the
text. -/
def skipGaps (s : List Char) : Option (Remaining s) :=
  let spaces := skipSpaces s
  if spaces.1.head? = some '#' then do
    let comment := spaces.andThen (skipComment spaces.1)
    if comment.1.isEmpty then return comment
    let next ← lineBreak? comment.1
    have := comment.2
    have := next.2
    let rest ← skipGaps next.1
    return comment.andThen (next.remaining.andThen rest)
  else match lineBreak? spaces.1 with
    | none => some spaces
    | some next => do
      have := spaces.2
      have := next.2
      let rest ← skipGaps next.1
      return spaces.andThen (next.remaining.andThen rest)
termination_by s.length
decreasing_by all_goals omega

end KeyRemap.Toml
