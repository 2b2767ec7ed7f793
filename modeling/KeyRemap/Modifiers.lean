import KeyRemap.Modifier

/-!
# Sets of modifiers

A set of modifiers remembers the order in which its members were added, because that is the order in
which they are written. Two sets are equivalent when they have the same members: `sorted` forgets
the order, and equivalence compares what is left.
-/

namespace KeyRemap

/-- Modifiers without repeats, in the order in which they were added. -/
structure Modifiers where
  toList : List Modifier
  nodup : toList.Nodup
  deriving DecidableEq, Repr

namespace Modifiers

/-- The set without modifiers. -/
def empty : Modifiers := ⟨[], .nil⟩

instance : EmptyCollection Modifiers := ⟨empty⟩

instance : Inhabited Modifiers := ⟨empty⟩

instance : Membership Modifier Modifiers := ⟨fun set modifier => modifier ∈ set.toList⟩

instance (modifier : Modifier) (set : Modifiers) : Decidable (modifier ∈ set) :=
  inferInstanceAs (Decidable (modifier ∈ set.toList))

/-- The members of a set are those that it lists. -/
theorem mem_iff {modifier : Modifier} {set : Modifiers} :
    modifier ∈ set ↔ modifier ∈ set.toList := Iff.rfl

/-- Adds a modifier at the end; one that is already there keeps its place. -/
def insert (set : Modifiers) (modifier : Modifier) : Modifiers :=
  if h : modifier ∈ set.toList then set
  else ⟨set.toList ++ [modifier], by
    have := set.nodup
    grind [List.nodup_append]⟩

/-- The set of the modifiers of a list, each at its first occurrence. -/
def ofList (modifiers : List Modifier) : Modifiers :=
  modifiers.foldl insert ∅

/-- The number of modifiers. -/
def size (set : Modifiers) : Nat := set.toList.length

/-- Has the set no modifier? -/
def isEmpty (set : Modifiers) : Bool := set.toList.isEmpty

/-- The modifiers that must be held, in order. -/
def mandatory (set : Modifiers) : List Modifier :=
  set.toList.filter (!·.optional)

/-- The modifiers that may be held, in order. -/
def optional (set : Modifiers) : List Modifier :=
  set.toList.filter (·.optional)

/-- No modifier is listed twice among all of them. -/
theorem nodup_all : Modifier.all.Nodup := by decide

/-- The set with its modifiers in the order in which modifiers are declared. -/
def sorted (set : Modifiers) : Modifiers :=
  ⟨Modifier.all.filter (· ∈ set), nodup_all.filter _⟩

/-- Two sets are equivalent when they have the same members, whatever the order. -/
instance : HasEquiv Modifiers := ⟨fun a b => a.sorted = b.sorted⟩

instance (a b : Modifiers) : Decidable (a ≈ b) :=
  inferInstanceAs (Decidable (a.sorted = b.sorted))

/-- What a hash of the set is made from: the number of its modifiers and then their places, in the
order in which modifiers are declared. -/
def hashInput (set : Modifiers) : List Nat :=
  set.sorted.size :: set.sorted.toList.map Modifier.index

/-- The names of the modifiers, joined by plus signs. -/
def text (set : Modifiers) : String :=
  "+".intercalate (set.toList.map Modifier.name)

/-! ## What each operation does to the list of members -/

/-- The empty set lists nothing. -/
@[simp] theorem toList_empty : (∅ : Modifiers).toList = [] := rfl

/-- Adding a modifier appends it, unless it is there. -/
theorem toList_insert (set : Modifiers) (modifier : Modifier) :
    (set.insert modifier).toList =
      if modifier ∈ set then set.toList else set.toList ++ [modifier] := by
  by_cases h : modifier ∈ set.toList <;> simp [insert, mem_iff, h]

/-- Inserting a modifier adds it and nothing else. -/
@[simp] theorem mem_insert {set : Modifiers} {modifier other : Modifier} :
    other ∈ set.insert modifier ↔ other ∈ set ∨ other = modifier := by
  by_cases h : modifier ∈ set.toList
  · simp only [insert, h, ↓reduceDIte]
    exact ⟨Or.inl, fun h' => h'.elim id (fun e => e ▸ h)⟩
  · simp [insert, mem_iff, h]

/-- A list and its set have the same members. -/
@[simp] theorem mem_ofList {modifiers : List Modifier} {modifier : Modifier} :
    modifier ∈ ofList modifiers ↔ modifier ∈ modifiers := by
  have key : ∀ (list : List Modifier) (set : Modifiers),
      modifier ∈ list.foldl insert set ↔ modifier ∈ set ∨ modifier ∈ list := by
    intro list
    induction list with
    | nil => simp
    | cons first rest ih =>
      intro set
      rw [List.foldl_cons, ih, mem_insert, List.mem_cons, or_assoc]
  rw [ofList, key]
  simp [mem_iff]

/-- Every modifier is listed among all of them. -/
theorem mem_all (modifier : Modifier) : modifier ∈ Modifier.all := by
  cases modifier <;> decide

/-- Sorting a set keeps its members. -/
@[simp] theorem mem_sorted {set : Modifiers} {modifier : Modifier} :
    modifier ∈ set.sorted ↔ modifier ∈ set := by
  simp [sorted, mem_iff, mem_all]

/-- Sorting leaves just what equivalence compares: two sets have the same sorted form exactly when
they have the same members. -/
theorem equiv_iff {a b : Modifiers} : a ≈ b ↔ ∀ modifier, modifier ∈ a ↔ modifier ∈ b := by
  constructor
  · intro h modifier
    have h : a.sorted = b.sorted := h
    rw [← @mem_sorted a modifier, h, mem_sorted]
  · intro h
    show a.sorted = b.sorted
    simp [sorted, h]

end Modifiers

end KeyRemap
