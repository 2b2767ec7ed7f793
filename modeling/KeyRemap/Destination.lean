import KeyRemap.Combo
import KeyRemap.Combo.Parser

/-!
# Destinations

What a binding sends. A destination is declared as a key, a pointing button or a text, together with
modifiers; resolving it decides what the text means and whether the modifiers make sense.
-/

namespace KeyRemap

/-- A button of a pointing device. -/
inductive Button where
  | left | right | middle | button4 | button5 | button6 | button7 | button8
  deriving DecidableEq, Repr, Inhabited

namespace Button

/-- Every button, in order. -/
def all : List Button :=
  [.left, .right, .middle, .button4, .button5, .button6, .button7, .button8]

/-- The canonical name of a button. -/
def name : Button → String
  | .left => "button1"
  | .right => "button2"
  | .middle => "button3"
  | .button4 => "button4"
  | .button5 => "button5"
  | .button6 => "button6"
  | .button7 => "button7"
  | .button8 => "button8"

/-- The second spelling of a button, where it has one. -/
def alias? : Button → Option String
  | .left => some "left"
  | .right => some "right"
  | .middle => some "middle"
  | _ => none

/-- Is `text` one of the spellings of `button`? -/
def spelled (button : Button) (text : String) : Bool :=
  button.name == text || button.alias? == some text

/-- The button that `text` spells. -/
def ofName? (text : String) : Option Button :=
  all.find? (·.spelled text)

end Button

/-- What a destination is declared as. -/
inductive Target where
  | key (key : Key)
  | button (button : Button)
  | text (text : String)
  deriving DecidableEq, Repr

/-- The text of a target, as messages repeat it. -/
def Target.display : Target → String
  | .key declared => declared.name
  | .button declared => declared.name
  | .text declared => declared

/-- A declared target with its modifiers. -/
structure Destination where
  target : Target
  modifiers : Modifiers := ∅
  deriving DecidableEq, Repr

/-- What a destination turns out to send: a key with modifiers, a pointing button or a shell
command. -/
inductive Action where
  | key (key : Key) (modifiers : Modifiers)
  | button (button : Button)
  | shell (command : String)
  deriving DecidableEq, Repr

namespace Destination

/-- Why a destination cannot be sent. -/
inductive Fault where
  | blank
  | modifiersOnButton
  | modifiersOnShell
  | notAKey
  deriving DecidableEq, Repr

/-- The wording of a fault. -/
def Fault.message : Fault → String
  | .blank => "destination is blank"
  | .modifiersOnButton => "modifiers cannot be attached to a pointing button destination"
  | .modifiersOnShell => "modifiers cannot be attached to a shell command destination"
  | .notAKey => "simple modifications only accept key destinations"

/-- A pointing button as an action; it takes no modifiers. -/
def resolveButton (button : Button) (modifiers : Modifiers) : Except Fault Action :=
  if modifiers.isEmpty then .ok (.button button) else .error .modifiersOnButton

/-- A text as an action. A text that names a key is that key, one that names a button is that
button, and any other is a shell command, kept to the letter. Key names come first, so `left` is the
arrow key. -/
def resolveText (text : String) (modifiers : Modifiers) : Except Fault Action :=
  let name := Text.trimmed text
  if name.isEmpty then .error .blank
  else match Key.ofName? name, Button.ofName? name with
    | some key, _ => .ok (.key key modifiers)
    | none, some button => resolveButton button modifiers
    | none, none => if modifiers.isEmpty then .ok (.shell text) else .error .modifiersOnShell

/-- What a destination sends, or why it cannot be sent. -/
def resolve (destination : Destination) : Except Fault Action :=
  match destination.target with
  | .key key => .ok (.key key destination.modifiers)
  | .button button => resolveButton button destination.modifiers
  | .text text => resolveText text destination.modifiers

/-- Reads a destination from a script: a key combination where the text is one, and else the
text. -/
def ofText (text : String) : Destination :=
  match Combo.parse text with
  | .ok combo => ⟨.key combo.key, combo.modifiers⟩
  | .error _ => ⟨.text text, ∅⟩

/-- The command that opens an application. -/
def openCommand (app : String) : String :=
  "open -a '" ++ app ++ "'"

/-- The command that has an application open a location. -/
def openLocationCommand (app url : String) : String :=
  "osascript -e 'tell application \"" ++ app ++ "\" to open location \"" ++ url ++ "\"'"

end Destination

end KeyRemap
