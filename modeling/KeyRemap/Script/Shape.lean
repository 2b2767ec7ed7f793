import KeyRemap.Decimal.Shortest
import KeyRemap.Text.Quoted
import KeyRemap.Toml.Value

/-!
# Shapes of script values

What a TOML value has to look like to be a clause of a script. A shape names the fields of a clause.
The clause may be written as a table, or as an array that gives the fields in the order of the
shape.

Values are looked at in the order in which they are written, and the first that does not fit is
reported; only what is missing is noticed at the end.
-/

namespace KeyRemap.Script

open Toml (Value)

/-- Why a value has not the shape that is wanted. -/
inductive Misshapen where
  | unknownField (name : String) (known : List String)
  | missingField (name : String)
  | wrongType (found expected : String)
  | outOfRange (value : Int) (expected : String)
  | wrongLength (length : Nat) (shape : String) (fields : Nat)
  | unknownVariant (name : String) (known : List String)
  | notADevice
  | notAVariant
  | noVariant
  | manyVariants
  | variantNotEmpty
  | variantHasElements
  | variantContent (kind : String)
  deriving DecidableEq, Repr

/-- A list of names as messages spell it out. -/
def nameList (names : List String) : String :=
  "one of " ++ ", ".intercalate (names.map fun name => "`" ++ name ++ "`")

/-- The wording of a refusal. -/
def Misshapen.message : Misshapen → String
  | .unknownField name known => "unknown field `" ++ name ++ "`, expected " ++ nameList known
  | .missingField name => "missing field `" ++ name ++ "`"
  | .wrongType found expected => "invalid type: " ++ found ++ ", expected " ++ expected
  | .outOfRange value expected =>
    "invalid value: integer `" ++ toString value ++ "`, expected " ++ expected
  | .wrongLength length shape fields =>
    "invalid length " ++ toString length ++ ", expected struct " ++ shape ++ " with " ++
      toString fields ++ " elements"
  | .unknownVariant name known =>
    "unknown variant `" ++ name ++ "`, expected " ++ nameList known
  | .notADevice => "data did not match any variant of untagged enum DeviceRef"
  | .notAVariant => "wanted string or table"
  | .noVariant => "wanted exactly 1 element, found 0 elements"
  | .manyVariants => "wanted exactly 1 element, more than 1 element"
  | .variantNotEmpty => "expected empty table"
  | .variantHasElements => "expected empty array"
  | .variantContent kind => "expected table, found " ++ kind

/-- How messages call a value that they did not expect. -/
def found : Value → String
  | .string text => "string " ++ Text.quoted text
  | .integer value => "integer `" ++ toString value ++ "`"
  | .float value => "floating point `" ++ value.text ++ "`"
  | .boolean value => "boolean `" ++ toString value ++ "`"
  | .dateTime _ => "map"
  | .array _ => "sequence"
  | .table .. => "map"
  | .tables _ => "sequence"

/-! ## Plain values -/

/-- A text. -/
def asText : Value → Except Misshapen String
  | .string text => .ok text
  | value => .error (.wrongType (found value) "a string")

/-- A truth value. -/
def asBool : Value → Except Misshapen Bool
  | .boolean value => .ok value
  | value => .error (.wrongType (found value) "a boolean")

/-- A natural number of so many bits. -/
def asNat (bits : Nat) : Value → Except Misshapen Nat
  | .integer value =>
    if 0 ≤ value ∧ value.toNat < Nat.pow 2 bits then .ok value.toNat
    else .error (.outOfRange value ("u" ++ toString bits))
  | value => .error (.wrongType (found value) ("u" ++ toString bits))

/-- A number of milliseconds. -/
def asMilliseconds : Value → Except Misshapen Nat := asNat 64

/-- The items of a sequence, whether they are written in brackets or under headers. -/
def asSequence : Value → Except Misshapen (List Value)
  | .array items => .ok items
  | .tables elements => .ok elements
  | value => .error (.wrongType (found value) "a sequence")

/-- A sequence whose items are read by `item`. -/
def asList {α : Type} (item : Value → Except Misshapen α) (value : Value) :
    Except Misshapen (List α) := do
  (← asSequence value).mapM item

/-! ## Clauses -/

/-- What may be left out: a field that is needed, one that only a table may leave out, or one that
may be left out at the end of an array as well. -/
inductive Presence where
  | required | optional | defaulted
  deriving DecidableEq, Repr

/-- A field of a clause: its name, whether it may be left out, and what its value does to the
clause. -/
structure Field (α : Type) where
  name : String
  presence : Presence
  read : Value → α → Except Misshapen α

/-- A field whose value is read by `decode` and put into the clause by `put`. -/
def Field.of {α β : Type} (name : String) (presence : Presence)
    (decode : Value → Except Misshapen β) (put : β → α → α) : Field α :=
  ⟨name, presence, fun value clause => (decode value).map (put · clause)⟩

/-- The name of a clause and its fields, in order. -/
structure Shape (α : Type) where
  name : String
  fields : List (Field α)

namespace Shape

variable {α : Type}

/-- The field that stands for a date in the place of a table. -/
def dateTimeField : String := "$__toml_private_datetime"

/-- The first needed field for which there is no value of its name. -/
def missing? (shape : Shape α) (entries : List (String × Value)) : Option Misshapen :=
  (shape.fields.find? fun field =>
    field.presence == .required && (entries.lookup field.name).isNone).map (.missingField ·.name)

/-- The first field beyond `count` that even an array has to give. -/
def tooShort? (shape : Shape α) (count : Nat) : Option Misshapen :=
  ((shape.fields.drop count).findIdx? (·.presence != .defaulted)).map fun offset =>
    .wrongLength (count + offset) shape.name shape.fields.length

/-- The values of a clause with the names of their fields, in the order in which they are written,
and what is found to be missing at the end. -/
def visit (shape : Shape α) :
    Value → Except Misshapen (List (String × Value) × Option Misshapen)
  | .table _ entries => .ok (entries, shape.missing? entries)
  | .array items | .tables items =>
    .ok ((shape.fields.map Field.name).zip items, shape.tooShort? items.length)
  | .dateTime _ => .error (.unknownField dateTimeField (shape.fields.map Field.name))
  | value => .error (.wrongType (found value) ("struct " ++ shape.name))

/-- Puts a value into the field of a name. -/
def put (shape : Shape α) (name : String) (value : Value) (clause : α) : Except Misshapen α :=
  match shape.fields.find? (·.name == name) with
  | some field => field.read value clause
  | none => .error (.unknownField name (shape.fields.map Field.name))

/-- Refuses what is found to be missing at the end. -/
def finish {β : Type} (missing : Option Misshapen) (clause : β) : Except Misshapen β :=
  match missing with
  | some fault => .error fault
  | none => .ok clause

/-- The clause of this shape that a value writes, starting from one in which no field is given. -/
def decode (shape : Shape α) (start : α) (value : Value) : Except Misshapen α := do
  let (values, missing) ← shape.visit value
  let clause ← values.foldlM (fun clause (name, value) => shape.put name value clause) start
  finish missing clause

/-- The values of a clause are smaller than the value that holds them. -/
theorem sizeOf_lt_of_visit {shape : Shape α} {value : Value} {values : List (String × Value)}
    {missing : Option Misshapen} (h : shape.visit value = .ok (values, missing))
    {name : String} {inner : Value} (hmem : (name, inner) ∈ values) :
    sizeOf inner < sizeOf value := by
  cases value with
  | table origin entries =>
    simp only [visit, Except.ok.injEq, Prod.mk.injEq] at h
    obtain ⟨rfl, -⟩ := h
    have := List.sizeOf_lt_of_mem hmem
    simp only [Value.table.sizeOf_spec, Prod.mk.sizeOf_spec] at *
    omega
  | array items =>
    simp only [visit, Except.ok.injEq, Prod.mk.injEq] at h
    obtain ⟨rfl, -⟩ := h
    have := List.sizeOf_lt_of_mem (List.of_mem_zip hmem).2
    simp only [Value.array.sizeOf_spec]
    omega
  | tables items =>
    simp only [visit, Except.ok.injEq, Prod.mk.injEq] at h
    obtain ⟨rfl, -⟩ := h
    have := List.sizeOf_lt_of_mem (List.of_mem_zip hmem).2
    simp only [Value.tables.sizeOf_spec]
    omega
  | _ => simp [visit] at h

end Shape

end KeyRemap.Script
