import KeyRemap.Document

/-!
# Parts of a document

The pieces from which the groups of a base are put together.
-/

namespace KeyRemap

/-- What a part of a base contributes: records that join the group around it, and groups of their
own. -/
structure Part where
  records : List Record := []
  groups : List Group := []
  deriving DecidableEq, Repr

namespace Part

/-- One part after another. -/
def append (a b : Part) : Part :=
  ⟨a.records ++ b.records, a.groups ++ b.groups⟩

instance : Append Part := ⟨append⟩

/-- The part in a group of its own, which comes before those that it holds. -/
def setApart (part : Part) (description : String) : Part :=
  ⟨[], ⟨description, part.records⟩ :: part.groups⟩

/-- The records of a part come before those of the part after it. -/
@[simp] theorem records_append (a b : Part) : (a ++ b).records = a.records ++ b.records := rfl

/-- The groups of a part come before those of the part after it. -/
@[simp] theorem groups_append (a b : Part) : (a ++ b).groups = a.groups ++ b.groups := rfl

/-- Parts one after another. -/
def join (parts : List Part) : Part :=
  parts.foldr (· ++ ·) {}

/-- Without parts there is nothing to join. -/
@[simp] theorem join_nil : join [] = {} := rfl

/-- The first part comes before the rest. -/
@[simp] theorem join_cons (part : Part) (parts : List Part) :
    join (part :: parts) = part ++ join parts := rfl

/-- The records of parts, one part after another. -/
theorem records_join (parts : List Part) : (join parts).records = parts.flatMap records := by
  induction parts with
  | nil => rfl
  | cons part rest ih => rw [join_cons, records_append, ih, List.flatMap_cons]

/-- The groups of parts, one part after another. -/
theorem groups_join (parts : List Part) : (join parts).groups = parts.flatMap groups := by
  induction parts with
  | nil => rfl
  | cons part rest ih => rw [join_cons, groups_append, ih, List.flatMap_cons]

end Part

end KeyRemap
