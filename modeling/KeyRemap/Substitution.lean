import KeyRemap.Binding.Actions
import KeyRemap.Device

/-!
# Substitutions

The simplest declaration: one key stands for another, on all devices or on one.
-/

namespace KeyRemap

/-- A combination that stands for a key. Without a destination it only claims its source. -/
structure Substitution where
  source : Combo
  device : Option Device.Index := none
  destination : Option Destination := none
  deriving DecidableEq, Repr

/-- Where messages say that a substitution is bound; they name its key without the modifiers. -/
def Substitution.context (substitution : Substitution) : String :=
  mapContext "Config" substitution.source.key.name

end KeyRemap
