/-!
# Forests

A forest is a sequence of trees. Each tree is a root together with the forest nested in it, so a
forest is either empty or a first root, what is nested in that root, and the trees that follow.
-/

namespace KeyRemap

/-- A sequence of trees whose nodes carry values of type `α`. -/
inductive Forest (α : Type) where
  | nil
  | cons (root : α) (nested next : Forest α)
  deriving DecidableEq, Repr

namespace Forest

variable {α β ε : Type}

instance : EmptyCollection (Forest α) := ⟨nil⟩

instance : Inhabited (Forest α) := ⟨nil⟩

/-- The roots of the trees, in order. -/
def roots : Forest α → List α
  | nil => []
  | cons root _ next => root :: next.roots

/-- All nodes, each before those nested in it and those before the trees that follow. -/
def preorder : Forest α → List α
  | nil => []
  | cons root nested next => root :: (nested.preorder ++ next.preorder)

/-- The number of nodes. -/
def size : Forest α → Nat
  | nil => 0
  | cons _ nested next => nested.size + next.size + 1

/-- The forest followed by one more tree. -/
def push (forest : Forest α) (root : α) (nested : Forest α) : Forest α :=
  match forest with
  | nil => cons root nested nil
  | cons first inner next => cons first inner (next.push root nested)

/-- The forest with every node replaced. -/
def map (f : α → β) : Forest α → Forest β
  | nil => nil
  | cons root nested next => cons (f root) (nested.map f) (next.map f)

/-- The forest with every node replaced by what `f` makes of it, visiting the nodes in the order of
`preorder`. The first failure is the result. -/
def mapM (f : α → Except ε β) : Forest α → Except ε (Forest β)
  | nil => .ok nil
  | cons root nested next => do
    let root ← f root
    let nested ← nested.mapM f
    let next ← next.mapM f
    return cons root nested next

/-- The empty forest has no nodes. -/
@[simp] theorem preorder_nil : (nil : Forest α).preorder = [] := rfl

/-- In pre-order a root comes before what is nested in it, and that before the trees that follow. -/
@[simp] theorem preorder_cons (root : α) (nested next : Forest α) :
    (cons root nested next).preorder = root :: (nested.preorder ++ next.preorder) := rfl

/-- Replacing the nodes keeps their order. -/
@[simp] theorem preorder_map (f : α → β) (forest : Forest α) :
    (forest.map f).preorder = forest.preorder.map f := by
  induction forest with
  | nil => rfl
  | cons root nested next ihn ihs => simp [map, ihn, ihs]

/-- Changing the nodes of a forest changes its roots one by one. -/
@[simp] theorem roots_map (f : α → β) (forest : Forest α) :
    (forest.map f).roots = forest.roots.map f := by
  induction forest with
  | nil => rfl
  | cons root nested next _ ih => simp [map, roots, ih]

/-- A tree that is added comes last. -/
theorem preorder_push (forest : Forest α) (root : α) (nested : Forest α) :
    (forest.push root nested).preorder = forest.preorder ++ root :: nested.preorder := by
  induction forest with
  | nil => simp [push]
  | cons first inner next _ ih => simp [push, ih]

/-- The traversal visits every node once. -/
theorem length_preorder (forest : Forest α) : forest.preorder.length = forest.size := by
  induction forest with
  | nil => rfl
  | cons root nested next ihn ihs =>
    simp only [preorder_cons, List.length_cons, List.length_append, ihn, ihs, size]

end Forest

end KeyRemap
