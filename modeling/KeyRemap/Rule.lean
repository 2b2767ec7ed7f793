import KeyRemap.Binding
import KeyRemap.Device

/-!
# Rules

A rule is a flat group of bindings that are in force at all times, possibly on one device only. It is
built by edits, one after another, and each of its bindings is built by edits of its own before the
rule is edited further.
-/

namespace KeyRemap

/-- A group of bindings that are always in force. -/
structure Rule where
  description : Option String := none
  device : Option Device.Index := none
  timing : Hold.Timing := {}
  bindings : List HoldBinding := []
  deriving DecidableEq, Repr

namespace Rule

/-- A rule without bindings. An empty description counts as none. -/
def named (description : String) (device : Option Device.Index) : Rule where
  description := if description.isEmpty then none else some description
  device := device

/-- One step in building a rule. -/
inductive Edit where
  | describe (description : String)
  | timing (timing : Hold.Timing)
  | bind (source : Combo) (edits : List HoldBinding.Edit)
  deriving DecidableEq, Repr

/-- The rule after one edit. A timing replaces the whole of the one before it, and a binding comes
after those that are there. -/
def edit (rule : Rule) : Edit → Rule
  | .describe description => { rule with description := some description }
  | .timing timing => { rule with timing }
  | .bind source edits => { rule with bindings := rule.bindings ++ [.ofEdits source edits] }

/-- The rule of a description and a device that a sequence of edits builds. -/
def ofEdits (description : String) (device : Option Device.Index) (edits : List Edit) : Rule :=
  edits.foldl edit (named description device)

/-- The last edit acts on what the edits before it have built. -/
theorem ofEdits_concat (description : String) (device : Option Device.Index) (edits : List Edit)
    (last : Edit) :
    ofEdits description device (edits ++ [last]) = (ofEdits description device edits).edit last := by
  rw [ofEdits, List.foldl_append]
  rfl

/-- The name by which messages call a rule. -/
def name (rule : Rule) : String :=
  rule.description.getD "Rule"

/-- The line that summarizes a binding: its source and its description, or the source again. -/
def summaryLine (binding : HoldBinding) : String :=
  "\n  + [ " ++ binding.source.text ++ " ] : " ++ binding.description.getD binding.source.text

/-- The description of a rule in the document. A rule of two or more bindings lists them. -/
def fullDescription (rule : Rule) : String :=
  let count := toString rule.bindings.length
  let head := rule.description.getD ("Rule: Non-Desc, Maps[ " ++ count ++ " ]")
  if rule.bindings.length ≤ 1 then head
  else head ++ " (" ++ count ++ ")" ++ String.join (rule.bindings.map summaryLine)

end Rule

end KeyRemap
