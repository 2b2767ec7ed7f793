import KeyRemap.Key

/-!
# Modifiers

What a key can be pressed together with. Nine modifiers are keys that are held down; `any` stands
for whatever else may be held, so it is allowed and never required.
-/

namespace KeyRemap

/-- A modifier of a key combination. -/
inductive Modifier where
  | leftControl | leftOption | leftCommand | leftShift
  | rightControl | rightOption | rightCommand | rightShift
  | any | fn
  deriving DecidableEq, Repr, Inhabited

namespace Modifier

/-- Every modifier, in the order in which modifiers are declared. -/
def all : List Modifier := [
  .leftControl, .leftOption, .leftCommand, .leftShift,
  .rightControl, .rightOption, .rightCommand, .rightShift, .any, .fn]

/-- The place of a modifier among all of them. -/
def index (modifier : Modifier) : Nat := all.idxOf modifier

/-- The canonical name of a modifier. -/
def name : Modifier → String
  | .leftControl => "left_control"
  | .leftOption => "left_option"
  | .leftCommand => "left_command"
  | .leftShift => "left_shift"
  | .rightControl => "right_control"
  | .rightOption => "right_option"
  | .rightCommand => "right_command"
  | .rightShift => "right_shift"
  | .any => "any"
  | .fn => "fn"

/-- The further spellings of a modifier. -/
def aliases : Modifier → List String
  | .leftControl => ["lctrl", "left_ctrl"]
  | .leftOption => ["lalt", "left_alt"]
  | .leftCommand => ["lcmd", "left_gui"]
  | .leftShift => ["lshift"]
  | .rightControl => ["rctrl", "right_ctrl"]
  | .rightOption => ["ralt", "right_alt"]
  | .rightCommand => ["rcmd", "right_gui"]
  | .rightShift => ["rshift"]
  | .any => []
  | .fn => []

/-- Is `text` one of the spellings of `modifier`? -/
def spelled (modifier : Modifier) (text : String) : Bool :=
  modifier.name == text || modifier.aliases.contains text

/-- The modifier that `text` spells. -/
def ofName? (text : String) : Option Modifier :=
  all.find? (·.spelled text)

/-- Is the modifier one that may be held rather than one that must be? Only `any` is. -/
def optional : Modifier → Bool
  | .any => true
  | _ => false

/-- The modifier that a key acts as. The option and command keys of other keyboards, named alt and
gui, act as the same modifiers. -/
def ofKey? : Key → Option Modifier
  | .leftControl => some .leftControl
  | .leftOption | .leftAlt => some .leftOption
  | .leftCommand | .leftGui => some .leftCommand
  | .leftShift => some .leftShift
  | .rightControl => some .rightControl
  | .rightOption | .rightAlt => some .rightOption
  | .rightCommand | .rightGui => some .rightCommand
  | .rightShift => some .rightShift
  | .fn => some .fn
  | _ => none

/-- The modifier that `text` spells, either by a modifier's own spelling or by that of a key that
acts as one. -/
def ofText? (text : String) : Option Modifier :=
  ofName? text <|> (Key.ofName? text).bind ofKey?

end Modifier

/-- Does the key act as a modifier? -/
def Key.modifies (key : Key) : Bool :=
  (Modifier.ofKey? key).isSome

/-- Why a key was refused as a modifier. -/
structure NotAModifier where
  key : Key
  deriving DecidableEq, Repr

/-- The wording of the refusal. -/
def NotAModifier.message (fault : NotAModifier) : String :=
  "key '" ++ fault.key.name ++ "' is not a modifier"

/-- A key as a modifier, or why it is none. -/
def Key.toModifier (key : Key) : Except NotAModifier Modifier :=
  match Modifier.ofKey? key with
  | some modifier => .ok modifier
  | none => .error ⟨key⟩

end KeyRemap
