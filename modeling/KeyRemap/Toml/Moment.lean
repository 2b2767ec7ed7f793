import KeyRemap.Toml.Number

/-!
# Dates and times in TOML

A date, a time of day, or both with an optional offset from universal time. The numbers have to name
a day of the calendar and a second of a day; the sixtieth second is a leap second.
-/

namespace KeyRemap.Toml

/-- The number that exactly `count` decimal digits write, with what follows them. -/
def fixedDigits? (count : Nat) (s : List Char) : Option (Nat × List Char) :=
  let digits := s.take count
  if digits.length = count ∧ digits.all Char.isDigit then some (ofDigits 10 digits, s.drop count)
  else none

/-- What follows a given character. -/
def after? (c : Char) : List Char → Option (List Char)
  | [] => none
  | d :: rest => if d = c then some rest else none

/-- Is the year a leap year? -/
def isLeapYear (year : Nat) : Bool :=
  year % 4 = 0 && (year % 100 ≠ 0 || year % 400 = 0)

/-- The number of days in a month. -/
def daysInMonth (year month : Nat) : Nat :=
  if month = 2 then if isLeapYear year then 29 else 28
  else if month = 4 ∨ month = 6 ∨ month = 9 ∨ month = 11 then 30
  else 31

/-- What follows a date. -/
def afterDate? (s : List Char) : Option (List Char) := do
  let (year, s) ← fixedDigits? 4 s
  let (month, s) ← fixedDigits? 2 (← after? '-' s)
  let (day, s) ← fixedDigits? 2 (← after? '-' s)
  if 1 ≤ month ∧ month ≤ 12 ∧ 1 ≤ day ∧ day ≤ daysInMonth year month then some s
  else none

/-- What follows an hour and a minute. -/
def afterMinute? (s : List Char) : Option (List Char) := do
  let (hour, s) ← fixedDigits? 2 s
  let (minute, s) ← fixedDigits? 2 (← after? ':' s)
  if hour ≤ 23 ∧ minute ≤ 59 then some s else none

/-- What follows a time of day. The fraction of a second has at least one digit. -/
def afterTime? (s : List Char) : Option (List Char) := do
  let s ← afterMinute? s
  let (second, s) ← fixedDigits? 2 (← after? ':' s)
  if 60 < second then none
  match s with
  | '.' :: rest =>
    if (rest.takeWhile Char.isDigit).isEmpty then none else some (rest.dropWhile Char.isDigit)
  | _ => some s

/-- Is this an offset from universal time, or nothing? -/
def isOffset (s : List Char) : Bool :=
  match s with
  | [] | ['Z'] | ['z'] => true
  | c :: rest => (c = '+' || c = '-') && afterMinute? rest == some []

/-- Is this a time of day with an optional offset? It is what may follow a date. -/
def isTimeWithOffset (s : List Char) : Bool :=
  (afterTime? s).any isOffset

/-- Is this a date and nothing more? -/
def isDate (s : List Char) : Bool :=
  afterDate? s == some []

/-- Is this a date, a time of day, or a date and a time that a letter joins? -/
def isMoment (s : List Char) : Bool :=
  afterTime? s == some [] ||
    match afterDate? s with
    | some [] => true
    | some (c :: rest) => (c = 'T' || c = 't') && isTimeWithOffset rest
    | none => false

end KeyRemap.Toml
