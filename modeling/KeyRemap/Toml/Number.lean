import KeyRemap.Decimal.Binary64

/-!
# Numbers in TOML

Integers in four bases and floating-point numbers, given as the characters of a bare token.
Underscores may stand between digits. An integer has to fit in 64 bits, and a decimal whole part has
no superfluous zero.
-/

namespace KeyRemap.Toml

/-- The digits of a run in which single underscores may stand between digits. -/
def digitRun? (isDigit : Char → Bool) : List Char → Option (List Char)
  | [] => none
  | [c] => if isDigit c then some [c] else none
  | c :: '_' :: rest => if isDigit c then (digitRun? isDigit rest).map (c :: ·) else none
  | c :: rest => if isDigit c then (digitRun? isDigit rest).map (c :: ·) else none

/-- The value of a hexadecimal digit; also that of a digit in a smaller base. -/
def digitValue (c : Char) : Nat :=
  if c.isDigit then c.toNat - 0x30
  else if 'a' ≤ c then c.toNat - 0x57
  else c.toNat - 0x37

/-- The number that digits write in a base. -/
def ofDigits (base : Nat) (digits : List Char) : Nat :=
  digits.foldl (fun n c => base * n + digitValue c) 0

/-- Is the character a hexadecimal digit, in either case? -/
def isHexDigit (c : Char) : Bool :=
  c.isDigit || ('a' ≤ c && c ≤ 'f') || ('A' ≤ c && c ≤ 'F')

/-- A sign, if there is one, and what follows it. The sign is true for a minus. -/
def splitSign : List Char → Bool × List Char
  | '-' :: rest => (true, rest)
  | '+' :: rest => (false, rest)
  | token => (false, token)

/-- The digits of a decimal whole number, which starts with a zero only if it is nothing else. -/
def wholeDigits? (token : List Char) : Option (List Char) := do
  let digits ← digitRun? Char.isDigit token
  if digits.head? = some '0' ∧ digits ≠ ['0'] then none else digits

/-- An integer, if it fits in 64 bits. -/
def fit64? (value : Int) : Option Int :=
  let limit : Int := Nat.pow 2 63
  if -limit ≤ value ∧ value < limit then some value else none

/-- The integer that a token writes. A base other than ten takes no sign. -/
def integer? (token : List Char) : Option Int :=
  match token with
  | '0' :: 'x' :: rest => do fit64? (ofDigits 16 (← digitRun? isHexDigit rest))
  | '0' :: 'o' :: rest => do
    fit64? (ofDigits 8 (← digitRun? (fun c => '0' ≤ c && c ≤ '7') rest))
  | '0' :: 'b' :: rest => do fit64? (ofDigits 2 (← digitRun? (fun c => c = '0' || c = '1') rest))
  | _ => do
    let (negative, rest) := splitSign token
    let magnitude : Int := ofDigits 10 (← wholeDigits? rest)
    fit64? (if negative then -magnitude else magnitude)

/-- Does the character begin an exponent? -/
def isExponentMark (c : Char) : Bool := c = 'e' || c = 'E'

/-- The exponent after its mark. -/
def exponent? (token : List Char) : Option Int := do
  let (negative, rest) := splitSign token
  let magnitude : Int := ofDigits 10 (← digitRun? Char.isDigit rest)
  return if negative then -magnitude else magnitude

/-- The number that a decimal with a fraction or an exponent writes. One that is too great is
refused, while one that is too far below zero is minus infinity. -/
def decimal? (token : List Char) : Option Decimal.Binary64 := do
  let (negative, rest) := splitSign token
  let (significand, mark) := rest.span (!isExponentMark ·)
  let (whole, point) := significand.span (· ≠ '.')
  if mark.isEmpty ∧ point.isEmpty then none
  let wholeDigits ← wholeDigits? whole
  let fraction ← if point.isEmpty then some [] else digitRun? Char.isDigit (point.drop 1)
  let exponent ← if mark.isEmpty then some 0 else exponent? (mark.drop 1)
  let value := Decimal.Binary64.ofDecimal negative (ofDigits 10 (wholeDigits ++ fraction))
    (exponent - fraction.length)
  if value = .infinite false then none else value

/-- The floating-point number that a token writes. -/
def float? (token : List Char) : Option Decimal.Binary64 :=
  match splitSign token with
  | (negative, ['i', 'n', 'f']) => some (.infinite negative)
  | (_, ['n', 'a', 'n']) => some .nan
  | _ => decimal? token

end KeyRemap.Toml
