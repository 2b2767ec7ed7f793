import KeyRemap.Registry
import Mathlib.Data.List.Forall2

/-!
# Activation paths and conflicts

Combinations are compared whatever the order of their modifiers, and paths step by step. This is the
identity by which claims exclude each other: `Claim.Conflict` says it in words, and
`Claim.conflicts_iff` ties it to the comparison of sorted forms that the registry makes.
-/

namespace KeyRemap

/-- The equivalence of combinations is symmetric. -/
theorem Combo.equiv_symm {a b : Combo} (h : a ≈ b) : b ≈ a := Eq.symm h

/-! ## Paths -/

/-- Two activation paths are the same when their combinations are equivalent, step by step. -/
def SamePath (a b : List Combo) : Prop :=
  List.Forall₂ (· ≈ ·) a b

/-- Two paths are the same exactly when they have the same sorted form. -/
theorem samePath_iff {a b : List Combo} :
    SamePath a b ↔ a.map Combo.sorted = b.map Combo.sorted := by
  have hsorted : List.Forall₂ (fun x y : Combo => x.sorted = y.sorted) a b ↔
      a.map Combo.sorted = b.map Combo.sorted := by
    rw [← List.forall₂_eq_eq_eq, List.forall₂_map_left_iff, List.forall₂_map_right_iff]
  exact hsorted

namespace SamePath

/-- Every path is the same as itself. -/
theorem refl (path : List Combo) : SamePath path path :=
  samePath_iff.mpr rfl

/-- It does not matter which of two same paths is named first. -/
theorem symm {a b : List Combo} (h : SamePath a b) : SamePath b a :=
  samePath_iff.mpr (samePath_iff.mp h).symm

/-- Paths that are the same as a third one are the same as each other. -/
theorem trans {a b c : List Combo} (hab : SamePath a b) (hbc : SamePath b c) : SamePath a c :=
  samePath_iff.mpr ((samePath_iff.mp hab).trans (samePath_iff.mp hbc))

/-- The same path has the same length, however its modifiers are listed. -/
theorem length_eq {a b : List Combo} (h : SamePath a b) : a.length = b.length :=
  List.Forall₂.length_eq h

/-- If each of two paths is the same as an initial part of the other, they are the same. -/
theorem of_take {a b : List Combo} {m n : ℕ} (ha : SamePath a (b.take m))
    (hb : SamePath b (a.take n)) : SamePath a b := by
  have hab := ha.length_eq
  have hba := hb.length_eq
  rw [List.length_take] at hab hba
  rwa [List.take_of_length_le (by omega)] at ha

end SamePath

/-! ## Conflicts -/

/-- Two declarations overlap in their devices when they are meant for the same one, or when one of
them is meant for all. -/
def DevicesOverlap (a b : Option Device) : Prop :=
  a = b ∨ a = none ∨ b = none

/-- It does not matter which of two overlapping scopes is named first. -/
theorem DevicesOverlap.symm {a b : Option Device} (h : DevicesOverlap a b) : DevicesOverlap b a := by
  rcases h with h | h | h
  · exact Or.inl h.symm
  · exact Or.inr (Or.inr h)
  · exact Or.inr (Or.inl h)

namespace Claim

/-- The test for a shared device tells whether two scopes overlap. -/
theorem sharesDevice_iff {a b : Option Device} :
    sharesDevice a b = true ↔ DevicesOverlap a b := by
  cases a <;> cases b <;> simp [sharesDevice, DevicesOverlap]

/-- Two claims conflict when they want the same combination on the same path, and some device is
meant by both. -/
structure Conflict (a b : Claim) : Prop where
  combo : a.combo ≈ b.combo
  path : SamePath a.path b.path
  device : DevicesOverlap a.device b.device

/-- A conflict is mutual. -/
theorem Conflict.symm {a b : Claim} (h : a.Conflict b) : b.Conflict a :=
  ⟨Combo.equiv_symm h.combo, h.path.symm, h.device.symm⟩

/-- The comparison that the registry makes decides conflict. -/
theorem conflicts_iff {a b : Claim} : a.conflicts b = true ↔ a.Conflict b := by
  rw [conflicts, Bool.and_eq_true, Bool.and_eq_true, decide_eq_true_eq, decide_eq_true_eq,
    sharesDevice_iff]
  constructor
  · rintro ⟨⟨hcombo, hpath⟩, hdevice⟩
    exact ⟨hcombo, samePath_iff.mpr hpath, hdevice⟩
  · intro h
    exact ⟨⟨h.combo, samePath_iff.mp h.path⟩, h.device⟩

end Claim

end KeyRemap
