import KeyRemap.Forest
import Mathlib.Data.List.Forall2

/-!
# Computations that may fail

A computation in several steps goes through exactly when every step does, and otherwise it fails as
the first step that fails. `fault?` keeps only the failure, and a traversal of a list or of a forest
fails as the first of its nodes in order (`fault?_mapM`, `fault?_forest_mapM`).
-/

namespace KeyRemap

variable {α β ε : Type}

/-- Two forests have the same shape, and the nodes at each place are related. -/
inductive Forest.Forall₂ (r : α → β → Prop) : Forest α → Forest β → Prop where
  | nil : Forall₂ r .nil .nil
  | cons {root : α} {nested next : Forest α} {image : β} {inner later : Forest β}
      (hroot : r root image) (hnested : Forall₂ r nested inner) (hnext : Forall₂ r next later) :
      Forall₂ r (.cons root nested next) (.cons image inner later)

/-- What is related to a list comes from some element of it. -/
theorem exists_of_mem_right {r : α → β → Prop} {l : List α} {images : List β}
    (h : List.Forall₂ r l images) {b : β} (hb : b ∈ images) : ∃ a ∈ l, r a b := by
  induction h with
  | nil => cases hb
  | cons hfirst _ ih =>
      rcases List.mem_cons.mp hb with rfl | hb
      · exact ⟨_, List.mem_cons_self, hfirst⟩
      · obtain ⟨a, ha, hr⟩ := ih hb
        exact ⟨a, List.mem_cons_of_mem _ ha, hr⟩

/-- A computation goes through exactly when its first step does, and then what is left. -/
theorem bind_eq_ok_iff {first : Except ε α} {rest : α → Except ε β} {result : β} :
    first >>= rest = .ok result ↔ ∃ middle, first = .ok middle ∧ rest middle = .ok result := by
  constructor
  · intro h
    cases first with
    | error fault => cases h
    | ok middle => exact ⟨middle, rfl, h⟩
  · rintro ⟨middle, rfl, h⟩
    exact h

/-- Changing the error of a result does not change its success. -/
theorem mapError_eq_ok_iff {δ : Type} {f : ε → δ} {x : Except ε α} {a : α} :
    x.mapError f = .ok a ↔ x = .ok a := by
  cases x <;> simp [Except.mapError]

/-- A traversal goes through exactly when every step does. -/
theorem mapM_eq_ok_iff {f : α → Except ε β} {l : List α} {results : List β} :
    l.mapM f = .ok results ↔ List.Forall₂ (fun a b => f a = .ok b) l results := by
  induction l generalizing results with
  | nil =>
      rw [List.mapM_nil, List.forall₂_nil_left_iff, eq_comm]
      exact ⟨fun h => Except.ok.inj h.symm ▸ rfl, fun h => h ▸ rfl⟩
  | cons a rest ih =>
      simp only [List.mapM_cons, bind_eq_ok_iff, ih, List.forall₂_cons_left_iff]
      constructor
      · rintro ⟨b, hfirst, others, hrest, h⟩
        exact ⟨b, others, hfirst, hrest, (Except.ok.inj h).symm⟩
      · rintro ⟨b, others, hfirst, hrest, rfl⟩
        exact ⟨b, hfirst, others, hrest, rfl⟩

/-- A value that may be missing is treated if it is there. -/
theorem option_mapM_eq_ok_iff {f : α → Except ε β} {o : Option α} {result : Option β} :
    o.mapM f = .ok result ↔ Option.Rel (fun a b => f a = .ok b) o result := by
  cases o with
  | none =>
      constructor
      · intro h
        cases h
        exact .none
      · rintro ⟨⟩
        rfl
  | some a =>
      constructor
      · intro h
        obtain ⟨b, hb, hresult⟩ := bind_eq_ok_iff.mp h
        cases hresult
        exact .some hb
      · rintro ⟨h⟩
        exact bind_eq_ok_iff.mpr ⟨_, h, rfl⟩

/-- A traversal of a forest goes through exactly when every step does, and keeps the shape. -/
theorem forest_mapM_eq_ok_iff {f : α → Except ε β} {forest : Forest α} {result : Forest β} :
    forest.mapM f = .ok result ↔ forest.Forall₂ (fun a b => f a = .ok b) result := by
  constructor
  · intro h
    induction forest generalizing result with
    | nil =>
        cases h
        exact .nil
    | cons root nested next ihn ihs =>
        obtain ⟨image, hroot, h⟩ := bind_eq_ok_iff.mp h
        obtain ⟨inner, hnested, h⟩ := bind_eq_ok_iff.mp h
        obtain ⟨later, hnext, h⟩ := bind_eq_ok_iff.mp h
        cases h
        exact .cons hroot (ihn hnested) (ihs hnext)
  · intro h
    induction h with
    | nil => rfl
    | cons hroot _ _ ihn ihs =>
        exact bind_eq_ok_iff.mpr ⟨_, hroot, bind_eq_ok_iff.mpr ⟨_, ihn,
          bind_eq_ok_iff.mpr ⟨_, ihs, rfl⟩⟩⟩

/-- A traversal in which no step fails makes every step. -/
theorem mapM_eq_ok {f : α → Except ε β} {g : α → β} {l : List α} (h : ∀ a ∈ l, f a = .ok (g a)) :
    l.mapM f = .ok (l.map g) := by
  rw [mapM_eq_ok_iff, List.forall₂_map_right_iff, List.forall₂_same]
  exact h

/-- A traversal goes through only if every step does. -/
theorem exists_of_mapM_eq_ok {f : α → Except ε β} {l : List α} {results : List β}
    (h : l.mapM f = .ok results) : ∀ a ∈ l, ∃ b, f a = .ok b := by
  have hall := mapM_eq_ok_iff.mp h
  clear h
  induction hall with
  | nil => exact List.forall_mem_nil _
  | cons hfirst _ ih => exact List.forall_mem_cons.mpr ⟨⟨_, hfirst⟩, ih⟩

/-- What every step keeps is kept by all of them together. -/
theorem foldlM_keeps {step : β → α → Except ε β} {kept : β → Prop}
    (hstep : ∀ b a b', kept b → step b a = .ok b' → kept b') {l : List α} {b result : β}
    (hb : kept b) (h : l.foldlM step b = .ok result) : kept result := by
  induction l generalizing b with
  | nil =>
      cases h
      exact hb
  | cons a rest ih =>
      rw [List.foldlM_cons, bind_eq_ok_iff] at h
      obtain ⟨b', hfirst, hrest⟩ := h
      exact ih (hstep b a b' hb hfirst) hrest

/-- Several steps together fail only as one of them does. -/
theorem exists_of_foldlM_eq_error {step : β → α → Except ε β} {l : List α} {b : β} {fault : ε}
    (h : l.foldlM step b = .error fault) : ∃ b' a, step b' a = .error fault := by
  induction l generalizing b with
  | nil => cases h
  | cons a rest ih =>
      rw [List.foldlM_cons] at h
      cases hfirst : step b a with
      | error earlier =>
          rw [hfirst] at h
          cases h
          exact ⟨b, a, hfirst⟩
      | ok b' =>
          rw [hfirst] at h
          exact ih h

/-! ## Failures -/

/-- The failure of a computation, if it fails. -/
def fault? : Except ε α → Option ε
  | .ok _ => none
  | .error fault => some fault

/-- There is no fault exactly where there is a result. -/
theorem fault?_eq_none_iff {x : Except ε α} : fault? x = none ↔ ∃ a, x = .ok a := by
  cases x <;> simp [fault?]

/-- The fault of a result is the error with which it ends. -/
theorem fault?_eq_some_iff {x : Except ε α} {fault : ε} : fault? x = some fault ↔ x = .error fault := by
  cases x <;> simp [fault?]

/-- The fault changes with the error. -/
theorem fault?_mapError {δ : Type} (f : ε → δ) (x : Except ε α) :
    fault? (x.mapError f) = (fault? x).map f := by
  cases x <;> rfl

/-- A step that fails ends the computation; if it goes through, what is left decides. -/
theorem fault?_bind {x : Except ε α} {f : α → Except ε β} {later : Option ε}
    (h : ∀ a, fault? (f a) = later) : fault? (x >>= f) = (fault? x).or later := by
  cases x with
  | error fault => rfl
  | ok a => exact h a

/-- A last step that cannot fail changes nothing about the failure. -/
theorem fault?_bind_pure (x : Except ε α) (f : α → β) :
    fault? (do return f (← x)) = fault? x := by
  cases x <;> rfl

/-- What is found in the first element counts before what is found in the rest. -/
theorem findSome?_cons_eq_or (f : α → Option β) (a : α) (l : List α) :
    (a :: l).findSome? f = (f a).or (l.findSome? f) := by
  rw [List.findSome?_cons]
  cases f a <;> rfl

/-- A search in lists one after another is a search in each of them. -/
theorem findSome?_flatMap (g : β → Option ε) (f : α → List β) (l : List α) :
    (l.flatMap f).findSome? g = l.findSome? fun a => (f a).findSome? g := by
  induction l with
  | nil => rfl
  | cons a rest ih => rw [List.flatMap_cons, List.findSome?_append, findSome?_cons_eq_or, ih]

/-- A traversal fails as the first of its steps that fails. -/
theorem fault?_mapM (f : α → Except ε β) (l : List α) :
    fault? (l.mapM f) = l.findSome? fun a => fault? (f a) := by
  induction l with
  | nil => rfl
  | cons a rest ih =>
      rw [List.mapM_cons, findSome?_cons_eq_or, ← ih]
      exact fault?_bind fun b => fault?_bind_pure _ _

/-- A traversal of a forest fails like one of the list of its nodes. -/
theorem fault?_forest_mapM (f : α → Except ε β) (forest : Forest α) :
    fault? (forest.mapM f) = fault? (forest.preorder.mapM f) := by
  rw [fault?_mapM]
  induction forest with
  | nil => rfl
  | cons root nested next ihn ihs =>
      rw [Forest.preorder_cons, findSome?_cons_eq_or, List.findSome?_append, ← ihn, ← ihs]
      exact fault?_bind fun root => fault?_bind fun nested => fault?_bind_pure _ _

/-- What is read only where it is given fails only there. -/
theorem fault?_option_mapM (f : α → Except ε β) (o : Option α) :
    fault? (o.mapM f) = o.bind fun a => fault? (f a) := by
  cases o with
  | none => rfl
  | some a => exact fault?_bind_pure (f a) some

/-- The failure of a traversal, with the steps before it that go through. -/
theorem mapM_eq_error_iff {f : α → Except ε β} {l : List α} {fault : ε} :
    l.mapM f = .error fault ↔ ∃ before a after, l = before ++ a :: after ∧
      f a = .error fault ∧ ∀ earlier ∈ before, ∃ b, f earlier = .ok b := by
  simp only [← fault?_eq_some_iff, fault?_mapM, List.findSome?_eq_some_iff, fault?_eq_none_iff]

end KeyRemap
