import KeyRemap.Modifiers

/-!
# Key combinations

A key with the modifiers it is declared with. Two combinations are equivalent when they have the
same key and the same modifiers in any order; that is the identity by which combinations are
claimed.
-/

namespace KeyRemap

/-- A key together with modifiers. -/
structure Combo where
  key : Key
  modifiers : Modifiers := ∅
  deriving DecidableEq, Repr, Inhabited

namespace Combo

/-- The combination of `key` with the modifiers of a list. -/
def ofList (key : Key) (modifiers : List Modifier) : Combo :=
  ⟨key, .ofList modifiers⟩

/-- The combination with one more modifier. -/
def insert (combo : Combo) (modifier : Modifier) : Combo :=
  { combo with modifiers := combo.modifiers.insert modifier }

/-- The combination with its modifiers in the order in which modifiers are declared. -/
def sorted (combo : Combo) : Combo :=
  { combo with modifiers := combo.modifiers.sorted }

/-- Two combinations are equivalent when they differ at most in the order of their modifiers. -/
instance : HasEquiv Combo := ⟨fun a b => a.sorted = b.sorted⟩

instance (a b : Combo) : Decidable (a ≈ b) :=
  inferInstanceAs (Decidable (a.sorted = b.sorted))

/-- Two combinations are equivalent when their keys are equal and their modifiers are the same
set. -/
theorem equiv_iff {a b : Combo} : a ≈ b ↔ a.key = b.key ∧ a.modifiers ≈ b.modifiers := by
  show a.sorted = b.sorted ↔ a.key = b.key ∧ a.modifiers.sorted = b.modifiers.sorted
  simp [sorted]

/-- The text of a combination: the key, then each modifier after a plus sign. -/
def text (combo : Combo) : String :=
  if combo.modifiers.isEmpty then combo.key.name
  else combo.key.name ++ "+" ++ combo.modifiers.text

end Combo

end KeyRemap
