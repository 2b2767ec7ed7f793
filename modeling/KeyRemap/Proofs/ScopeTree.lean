import KeyRemap.Scope

/-!
# The tree of scopes

The scopes of a base are listed by one descent through its layers. Here they are opened again: what
holds of the base itself and passes from every scope to the layers declared directly in it holds of
every scope (`Base.scopes_induction`), every layer declared in a scope gives a scope
(`Base.enter_mem_scopes`), and every scope on the way to a scope is one (`Base.exists_ancestor`). If
bases and layers are replaced by others, the scopes stay where they are (`Base.scopes_map`).
-/

namespace KeyRemap

namespace Forest

variable {α : Type}

/-- The roots of the trees, each with the forest nested in it. -/
def trees : Forest α → List (α × Forest α)
  | nil => []
  | cons root nested next => (root, nested) :: next.trees

/-- The empty forest has no trees. -/
@[simp] theorem trees_nil : (nil : Forest α).trees = [] := rfl

/-- The first tree of a forest is a root with what is nested in it. -/
@[simp] theorem trees_cons (root : α) (nested next : Forest α) :
    (cons root nested next).trees = (root, nested) :: next.trees := rfl

end Forest

namespace Scope

/-- Entering a layer puts it at the end of the way. -/
@[simp] theorem layers_enter (scope : Scope) (layer : Layer) (nested : Forest Layer) :
    (scope.enter layer nested).layers = scope.layers ++ [layer] := rfl

/-- In a layer are the layers that are nested in it. -/
@[simp] theorem nested_enter (scope : Scope) (layer : Layer) (nested : Forest Layer) :
    (scope.enter layer nested).nested = nested := rfl

/-- The empty forest has no scopes. -/
@[simp] theorem within_nil (scope : Scope) : scope.within .nil = [] := rfl

/-- The scope of a layer comes before those in it, and these before the scopes of later layers. -/
@[simp] theorem within_cons (scope : Scope) (layer : Layer) (nested next : Forest Layer) :
    scope.within (.cons layer nested next) =
      scope.enter layer nested ::
        ((scope.enter layer nested).within nested ++ scope.within next) := rfl

/-- The path of a scope counts its base and the layers on the way. -/
theorem length_path (scope : Scope) : scope.path.length = scope.layers.length + 1 := by
  simp [path]

/-- A layer declared at the top of a forest gives a scope. -/
theorem enter_mem_within {scope : Scope} {forest : Forest Layer} {layer : Layer}
    {nested : Forest Layer} (h : (layer, nested) ∈ forest.trees) :
    scope.enter layer nested ∈ scope.within forest := by
  induction forest with
  | nil => simp at h
  | cons root inner next _ ih =>
      rw [Forest.trees_cons, List.mem_cons] at h
      rw [within_cons, List.mem_cons, List.mem_append]
      rcases h with h | h
      · obtain ⟨rfl, rfl⟩ := Prod.mk.inj h
        exact Or.inl rfl
      · exact Or.inr (Or.inr (ih h))

/-- A layer declared in a scope of a forest gives a scope of that forest. -/
theorem enter_mem_within_of_mem {outer scope : Scope} {forest : Forest Layer} {layer : Layer}
    {nested : Forest Layer} (hscope : scope ∈ outer.within forest)
    (h : (layer, nested) ∈ scope.nested.trees) :
    scope.enter layer nested ∈ outer.within forest := by
  induction forest generalizing outer with
  | nil => simp at hscope
  | cons root inner next ihn ihs =>
      rw [within_cons, List.mem_cons, List.mem_append] at hscope ⊢
      rcases hscope with rfl | hscope | hscope
      · exact Or.inr (Or.inl (enter_mem_within h))
      · exact Or.inr (Or.inl (ihn hscope))
      · exact Or.inr (Or.inr (ihs hscope))

/-- What passes from every scope to the layers declared directly in it, passes from a scope to all
scopes of a forest declared in it. -/
theorem within_induction {motive : Scope → Prop}
    (enter : ∀ scope layer nested, (layer, nested) ∈ scope.nested.trees → motive scope →
      motive (scope.enter layer nested))
    {outer : Scope} (houter : motive outer) {forest : Forest Layer}
    (hforest : ∀ tree ∈ forest.trees, tree ∈ outer.nested.trees) :
    ∀ scope ∈ outer.within forest, motive scope := by
  -- `outer` changes for the layers nested in the first and stays for those next to it
  induction forest generalizing outer with
  | nil => simp
  | cons root inner next ihn ihs =>
      rw [Forest.trees_cons, List.forall_mem_cons] at hforest
      obtain ⟨hroot, hnext⟩ := hforest
      have hown : motive (outer.enter root inner) := enter outer root inner hroot houter
      intro scope hscope
      rw [within_cons, List.mem_cons, List.mem_append] at hscope
      rcases hscope with rfl | hscope | hscope
      · exact hown
      · exact ihn hown (fun _ h => h) scope hscope
      · exact ihs houter hnext scope hscope

/-- The scopes of a forest are those of layers. -/
theorem layers_ne_nil_of_mem_within {outer scope : Scope} {forest : Forest Layer}
    (h : scope ∈ outer.within forest) : scope.layers ≠ [] := by
  induction forest generalizing outer with
  | nil => simp at h
  | cons root inner next ihn ihs =>
      rw [within_cons, List.mem_cons, List.mem_append] at h
      rcases h with rfl | h | h
      · simp
      · exact ihn h
      · exact ihs h

end Scope

namespace Base

/-- A base is itself one of its scopes. -/
theorem ofBase_mem_scopes (base : Base) : Scope.ofBase base ∈ base.scopes :=
  List.mem_cons_self

/-- A layer declared directly in a scope of a base gives a scope of that base. -/
theorem enter_mem_scopes {base : Base} {scope : Scope} {layer : Layer} {nested : Forest Layer}
    (hscope : scope ∈ base.scopes) (h : (layer, nested) ∈ scope.nested.trees) :
    scope.enter layer nested ∈ base.scopes := by
  refine List.mem_cons_of_mem _ ?_
  rcases List.mem_cons.mp hscope with rfl | hscope
  · exact Scope.enter_mem_within h
  · exact Scope.enter_mem_within_of_mem hscope h

/-- Induction over the scopes of a base: from the base itself to the layers declared in each. -/
@[elab_as_elim]
theorem scopes_induction {base : Base} {motive : (scope : Scope) → scope ∈ base.scopes → Prop}
    (root : motive (.ofBase base) base.ofBase_mem_scopes)
    (enter : ∀ scope layer nested (hscope : scope ∈ base.scopes)
      (htree : (layer, nested) ∈ scope.nested.trees), motive scope hscope →
        motive (scope.enter layer nested) (base.enter_mem_scopes hscope htree))
    {scope : Scope} (h : scope ∈ base.scopes) : motive scope h := by
  -- the descent carries along that it stays among the scopes of the base
  have both : ∃ h : scope ∈ base.scopes, motive scope h := by
    rcases List.mem_cons.mp h with rfl | hwithin
    · exact ⟨base.ofBase_mem_scopes, root⟩
    · refine Scope.within_induction (motive := fun scope => ∃ h : scope ∈ base.scopes, motive scope h)
        ?_ ⟨base.ofBase_mem_scopes, root⟩ (fun _ h => h) scope hwithin
      rintro outer layer nested htree ⟨houter, ih⟩
      exact ⟨base.enter_mem_scopes houter htree, enter outer layer nested houter htree ih⟩
  exact both.2

/-- The scopes of a base are those of that base and of no other. -/
theorem base_of_mem_scopes {base : Base} {scope : Scope} (h : scope ∈ base.scopes) :
    scope.base = base := by
  induction h using scopes_induction with
  | root => rfl
  | enter _ _ _ _ _ ih => exact ih

/-- The scopes of layers are the scopes other than the base itself. -/
theorem mem_layerScopes_iff {base : Base} {scope : Scope} :
    scope ∈ base.layerScopes ↔ scope ∈ base.scopes ∧ scope.layers ≠ [] := by
  constructor
  · intro h
    exact ⟨List.mem_cons_of_mem _ h, Scope.layers_ne_nil_of_mem_within h⟩
  · rintro ⟨hscope, hlayers⟩
    rcases List.mem_cons.mp hscope with rfl | h
    · exact absurd rfl hlayers
    · exact h

/-- Every scope on the way to a scope is a scope of the same base. -/
theorem exists_ancestor {base : Base} {scope : Scope} (h : scope ∈ base.scopes) {depth : Nat}
    (hdepth : depth ≤ scope.layers.length) :
    ∃ ancestor ∈ base.scopes, ancestor.layers = scope.layers.take depth := by
  induction h using scopes_induction with
  | root => exact ⟨_, base.ofBase_mem_scopes, by simp [Scope.ofBase]⟩
  | enter outer layer nested houter htree ih =>
      rw [Scope.layers_enter, List.length_append, List.length_singleton] at hdepth
      by_cases hle : depth ≤ outer.layers.length
      · obtain ⟨ancestor, hmem, hlayers⟩ := ih hle
        refine ⟨ancestor, hmem, ?_⟩
        rw [hlayers, Scope.layers_enter, List.take_append_of_le_length hle]
      · refine ⟨_, base.enter_mem_scopes houter htree, ?_⟩
        rw [List.take_of_length_le]
        rw [Scope.layers_enter, List.length_append, List.length_singleton]
        omega

end Base

/-! ## Other bases and layers in the same places -/

section Map

variable {onBase : Base → Base} {onLayer : Layer → Layer}
  {onBinding : ScopedBinding → ScopedBinding}

/-- The scope with its base and all layers on the way and in it replaced. -/
def Scope.map (onBase : Base → Base) (onLayer : Layer → Layer) (scope : Scope) : Scope :=
  ⟨onBase scope.base, scope.layers.map onLayer, scope.nested.map onLayer⟩

/-- The scopes of a forest are replaced one by one. -/
theorem Scope.within_map (scope : Scope) (forest : Forest Layer) :
    (scope.map onBase onLayer).within (forest.map onLayer) =
      (scope.within forest).map (Scope.map onBase onLayer) := by
  induction forest generalizing scope with
  | nil => rfl
  | cons layer nested next ihn ihs =>
      have henter : (scope.map onBase onLayer).enter (onLayer layer) (nested.map onLayer) =
          (scope.enter layer nested).map onBase onLayer := by
        simp [enter, Scope.map]
      rw [Forest.map, within_cons, henter, ihn, ihs, within_cons, List.map_cons, List.map_append]

/-- The scopes of the layers of a base are replaced one by one. -/
theorem Base.layerScopes_map (hlayers : ∀ base, (onBase base).layers = base.layers.map onLayer)
    (base : Base) :
    (onBase base).layerScopes = base.layerScopes.map (Scope.map onBase onLayer) := by
  have hroot : Scope.ofBase (onBase base) = (Scope.ofBase base).map onBase onLayer := by
    rw [Scope.ofBase, hlayers]
    rfl
  rw [layerScopes, hroot, hlayers, Scope.within_map, layerScopes]

/-- The scopes of a base are replaced one by one. -/
theorem Base.scopes_map (hlayers : ∀ base, (onBase base).layers = base.layers.map onLayer)
    (base : Base) : (onBase base).scopes = base.scopes.map (Scope.map onBase onLayer) := by
  rw [scopes, Base.layerScopes_map hlayers, scopes, List.map_cons, Scope.ofBase, hlayers]
  rfl

/-- The bindings of a scope are replaced with its base or its layer. -/
theorem Scope.bindings_map (hbase : ∀ base, (onBase base).bindings = base.bindings.map onBinding)
    (hlayer : ∀ layer, (onLayer layer).bindings = layer.bindings.map onBinding) (scope : Scope) :
    (scope.map onBase onLayer).bindings = scope.bindings.map onBinding := by
  rw [bindings, bindings, Scope.map, List.getLast?_map]
  cases scope.layers.getLast? with
  | none => exact hbase scope.base
  | some layer => exact hlayer layer

end Map

end KeyRemap
