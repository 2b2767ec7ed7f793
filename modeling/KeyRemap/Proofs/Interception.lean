import KeyRemap.Proofs.Arming
import KeyRemap.Proofs.Inventory

/-!
# Toggles that wait for the keys of an armed scope

While a scope is armed, its bindings and the layers declared in it wait for their keys, and so do
toggles elsewhere in the base: a toggle demands the scopes around its layer and forbids nothing. The
guards of a toggle are met in an armed scope just if its layer is declared in a scope with the path
of one on the way (`Config.Valid.meets_toggle_iff`). So what may come between a scope and its keys
are the toggles that are declared around the scope, and for the key of a binding those that are
declared where the path of the scope is declared again (`Compiler.rivals_of_armed_scope`).
-/

namespace KeyRemap

/-! ## Keys that a scope may bind -/

namespace Forest

variable {α : Type} {forest : Forest α} {root : α} {nested : Forest α}

/-- The root of a tree of a forest is a root of the forest. -/
theorem mem_roots_of_mem_trees (h : (root, nested) ∈ forest.trees) : root ∈ forest.roots := by
  induction forest with
  | nil => simp at h
  | cons first inner next _ ih =>
      rw [trees_cons, List.mem_cons] at h
      rw [roots, List.mem_cons]
      exact h.imp (fun heq => congrArg Prod.fst heq) ih

/-- The roots of a forest are among its nodes. -/
theorem mem_preorder_of_mem_roots (h : root ∈ forest.roots) : root ∈ forest.preorder := by
  induction forest with
  | nil => simp [roots] at h
  | cons first inner next _ ih =>
      rw [roots, List.mem_cons] at h
      rw [preorder_cons, List.mem_cons, List.mem_append]
      exact h.imp id fun hnext => Or.inr (ih hnext)

end Forest

/-- In a valid configuration no scope binds the key of a layer that is declared directly in it. -/
theorem Config.Valid.key_ne_of_mem_trees {config : Config} (h : config.Valid) {scope : Scope}
    (hscope : scope ∈ config.scopes) {binding : ScopedBinding} (hbinding : binding ∈ scope.bindings)
    {layer : Layer} {nested : Forest Layer} (htree : (layer, nested) ∈ scope.nested.trees) :
    binding.source.key ≠ layer.key := by
  have hroot := Forest.mem_roots_of_mem_trees htree
  obtain ⟨base, hbase, hmem⟩ := mem_scopes.mp hscope
  rcases List.mem_cons.mp hmem with rfl | hlayer
  · exact h.base_keys base hbase binding hbinding layer (Forest.mem_preorder_of_mem_roots hroot)
  · have hall := (base.forall_layerScopes_iff (motive := fun own inner => ∀ binding ∈ own.bindings,
      ∀ child ∈ inner.roots, binding.source.key ≠ child.key)).mpr
        fun node hnode binding hbinding => (h.layer_keys base hbase node hnode binding hbinding).2
    have hlast := List.getLast?_eq_some_getLast (Scope.layers_ne_nil_of_mem_within hlayer)
    rw [Scope.bindings, hlast] at hbinding
    exact hall scope hlayer _ hlast binding hbinding layer hroot

/-! ## Toggles in an armed scope -/

namespace Scope

/-- Scopes of one base whose paths begin alike have the keys of their first layers in common. -/
theorem map_key_of_samePath_take {outer scope : Scope} {depth : ℕ}
    (h : SamePath outer.path (scope.path.take (depth + 1))) :
    outer.layers.map Layer.key = (scope.layers.take depth).map Layer.key := by
  have hsorted := samePath_iff.mp h
  rw [path, path, List.take_succ_cons, List.map_cons, List.map_cons, ← List.map_take,
    List.map_map, List.map_map] at hsorted
  have hkeys := congrArg (List.map Combo.key) (List.cons.inj hsorted).2
  rwa [List.map_map, List.map_map] at hkeys

/-- The variables on the way to a scope are among those on the way to any scope of the base whose
path goes on from there. -/
theorem variableNames_subset_of_samePath_take {outer scope : Scope}
    (hbase : outer.base = scope.base) {depth : ℕ}
    (h : SamePath outer.path (scope.path.take depth)) :
    outer.variableNames ⊆ scope.variableNames := by
  cases depth with
  | zero => cases h
  | succ depth =>
      have hkeys := map_key_of_samePath_take h
      have hlength : outer.layers.length = min depth scope.layers.length := by
        simpa using congrArg List.length hkeys
      intro name hname
      obtain ⟨count, hcount, rfl⟩ := mem_variableNames.mp hname
      refine mem_variableNames.mpr ⟨count, by omega, ?_⟩
      rw [← hbase]
      refine variableNameOf_congr rfl ?_
      rw [List.map_take, List.map_take, hkeys, List.map_take, List.take_take,
        Nat.min_eq_left (by omega)]

end Scope

/-- In an armed scope the guards of a toggle of its base are met exactly if the layer is declared in
a scope with the path of one on the way. -/
theorem Config.Valid.meets_toggle_iff {config : Config} (h : config.Valid) {parent scope : Scope}
    (hparent : parent ∈ config.scopes) (hscope : scope ∈ config.scopes)
    (hbase : parent.base = scope.base) :
    scope.assignment.Meets (parent.toggleGuards config) ↔
      ∃ depth, SamePath parent.path (scope.path.take depth) := by
  rw [Assignment.meets_toggleGuards]
  constructor
  · intro hmet
    exact h.exists_samePath_take hparent hscope
      (Scope.assignment_eq_true_iff.mp (hmet _ parent.variableName_mem_variableNames))
  · rintro ⟨depth, hpath⟩ name hname
    exact Scope.assignment_eq_true_iff.mpr
      (Scope.variableNames_subset_of_samePath_take hbase hpath hname)

/-! ## Rivals -/

/-- What is declared directly in a scope: a binding, or a layer with the forest nested in it. -/
inductive Member where
  | binding (own : ScopedBinding)
  | layer (own : Layer) (nested : Forest Layer)

/-- The key for which a member waits. -/
def Member.key : Member → Key
  | .binding own => own.source.key
  | .layer own _ => own.key

/-- The path of a layer that is declared in a scope. A binding has no path of its own. -/
def Member.path? (scope : Scope) : Member → Option (List Combo)
  | .binding _ => none
  | .layer own nested => some (scope.enter own nested).path

namespace Scope

/-- The members of a scope. -/
def members (scope : Scope) : List Member :=
  scope.bindings.map .binding ++ scope.nested.trees.map fun tree => .layer tree.1 tree.2

/-- A layer declared in `parent` waits for the key of a member of a scope of the same base, and has
not the path of that member. -/
structure Rival (scope : Scope) (member : Member) (parent : Scope) (layer : Layer)
    (nested : Forest Layer) : Prop where
  base : parent.base = scope.base
  key : layer.key = member.key
  path : ∀ path ∈ member.path? scope, ¬ SamePath (parent.enter layer nested).path path

/-- A scope is around another when it has the path of one on the way to that, short of the last. -/
def Around (outer scope : Scope) : Prop :=
  ∃ depth < scope.path.length, SamePath outer.path (scope.path.take depth)

/-- A scope is declared again by another one with its path. -/
structure DeclaredAgain (scope other : Scope) : Prop where
  path : SamePath other.path scope.path
  ne : other ≠ scope

/-- Nothing is around a base. -/
theorem Around.layers_ne_nil {outer scope : Scope} (h : outer.Around scope) :
    scope.layers ≠ [] := by
  obtain ⟨depth, hdepth, hpath⟩ := h
  intro hlayers
  have hlength := hpath.length_eq
  rw [List.length_take, length_path] at hlength
  rw [length_path, hlayers, List.length_nil] at hdepth
  omega

/-- A base is the only scope without layers among its scopes, so it is not declared again there. -/
theorem DeclaredAgain.layers_ne_nil {scope other : Scope} (h : scope.DeclaredAgain other)
    (hbase : other.base = scope.base) (hscope : scope ∈ scope.base.scopes)
    (hother : other ∈ other.base.scopes) : scope.layers ≠ [] := by
  intro hlayers
  have hroot : ∀ own : Scope, own ∈ own.base.scopes → own.layers = [] → own = .ofBase own.base := by
    intro own hown hnone
    rcases List.mem_cons.mp hown with heq | hlayer
    · exact heq
    · exact absurd hnone (layers_ne_nil_of_mem_within hlayer)
  have hlength := h.path.length_eq
  rw [length_path, length_path, hlayers] at hlength
  have hnone : other.layers = [] := List.length_eq_zero_iff.mp (Nat.succ.inj hlength)
  refine h.ne ?_
  rw [hroot other hother hnone, hroot scope hscope hlayers, hbase]

/-- Layers of the same key have the same path in scopes of the same path. -/
theorem samePath_enter {a b : Scope} (h : SamePath a.path b.path) {first second : Layer}
    (hkey : first.key = second.key) (inner nested : Forest Layer) :
    SamePath (a.enter first inner).path (b.enter second nested).path := by
  have htrigger : first.trigger = second.trigger := by rw [Layer.trigger, Layer.trigger, hkey]
  have hpath : ∀ (scope : Scope) (layer : Layer) (nested : Forest Layer),
      (scope.enter layer nested).path = scope.path ++ [layer.trigger] := by
    intro scope layer nested
    rw [path, layers_enter, List.map_append, path]
    rfl
  rw [samePath_iff, hpath, hpath, List.map_append, List.map_append, samePath_iff.mp h, htrigger]

end Scope

/-- In a valid configuration a layer in a scope of the same path comes between a scope and the key
of a member only if the member is a binding and the scope is declared again. -/
theorem Config.Valid.declaredAgain_of_rival {config : Config} (h : config.Valid)
    {scope parent : Scope} (hscope : scope ∈ config.scopes) {member : Member}
    (hmember : member ∈ scope.members) {layer : Layer} {nested : Forest Layer}
    (htree : (layer, nested) ∈ parent.nested.trees)
    (hrival : scope.Rival member parent layer nested) (hpath : SamePath parent.path scope.path) :
    (∃ own, member = .binding own) ∧ scope.DeclaredAgain parent := by
  rw [Scope.members, List.mem_append, List.mem_map, List.mem_map] at hmember
  rcases hmember with ⟨own, hown, rfl⟩ | ⟨⟨own, inner⟩, -, rfl⟩
  · refine ⟨⟨own, rfl⟩, hpath, ?_⟩
    rintro rfl
    exact h.key_ne_of_mem_trees hscope hown htree hrival.key.symm
  · exact absurd (Scope.samePath_enter hpath hrival.key nested inner) (hrival.path _ rfl)

/-- What comes between an armed scope and the key of one of its members: the toggles of layers that
are declared around the scope, and no others, unless the member is a binding and the scope is
declared again. Nothing comes between a base and its keys. -/
theorem Compiler.rivals_of_armed_scope {compiler : Compiler} {config : Config}
    {document : Document} (h : (compiler.compile config).2 = .ok document) :
    document.records = config.origins.map (Origin.record config) ∧
      ∀ scope ∈ config.scopes, ∀ member ∈ scope.members, ∀ parent layer nested,
        .toggle parent layer nested ∈ config.origins → scope.Rival member parent layer nested →
          (parent.Around scope →
            scope.assignment.Meets ((Origin.toggle parent layer nested).record config).guards) ∧
          (scope.assignment.Meets ((Origin.toggle parent layer nested).record config).guards →
            scope.layers ≠ [] ∧ (parent.Around scope ∨
              (∃ own, member = .binding own) ∧ scope.DeclaredAgain parent)) := by
  obtain ⟨hvalid, rfl⟩ := compile_eq_ok_iff.mp h
  refine ⟨config.records_output, ?_⟩
  intro scope hscope member hmember parent layer nested horigin hrival
  obtain ⟨hparent, htree⟩ := Config.declaredIn_of_mem_origins horigin
  have hmeets : scope.assignment.Meets ((Origin.toggle parent layer nested).record config).guards ↔
      ∃ depth, SamePath parent.path (scope.path.take depth) :=
    hvalid.meets_toggle_iff hparent hscope hrival.base
  rw [hmeets]
  constructor
  · rintro ⟨depth, -, hpath⟩
    exact ⟨depth, hpath⟩
  · rintro ⟨depth, hpath⟩
    rcases Nat.lt_or_ge depth scope.path.length with hdepth | hdepth
    · have haround : parent.Around scope := ⟨depth, hdepth, hpath⟩
      exact ⟨haround.layers_ne_nil, Or.inl haround⟩
    · -- the whole path, so that scope is armed by the same keys as this one
      rw [List.take_of_length_le hdepth] at hpath
      obtain ⟨hbinding, hagain⟩ := hvalid.declaredAgain_of_rival hscope hmember htree hrival hpath
      exact ⟨hagain.layers_ne_nil hrival.base (Config.mem_base_scopes hscope).2
        (Config.mem_base_scopes hparent).2, Or.inr ⟨hbinding, hagain⟩⟩

/-! ## A key that a toggle takes -/

/-- A base with two layers, one of which binds the key of the other. -/
def Config.crossing : Config where
  bases := [{
    trigger := ⟨.f16, ∅⟩
    layers := .cons { key := .r } .nil (.cons
      { key := .w, bindings := [{ source := ⟨.r, ∅⟩, destinations := [⟨.key .a, ∅⟩] }] }
      .nil .nil) }]

/-- The base whose layer binds the key of another layer can be compiled. -/
theorem Compiler.compile_crossing :
    (({} : Compiler).compile .crossing).2 = .ok Config.crossing.output :=
  compile_of_passes (by decide +kernel)

/-- The layer of the base that is declared first is a rival of the binding in the other one. -/
theorem Config.exists_rival_crossing :
    ∃ scope ∈ Config.crossing.scopes, ∃ member ∈ scope.members,
      member.key ∉ scope.path.map Combo.key ∧ ∃ parent ∈ Config.crossing.scopes, ∃ layer nested,
        .toggle parent layer nested ∈ Config.crossing.origins ∧
        scope.Rival member parent layer nested ∧ parent.Around scope := by
  have hscope : Config.crossing.scopes[2] ∈ Config.crossing.scopes := List.getElem_mem _
  have hparent : Config.crossing.scopes[0] ∈ Config.crossing.scopes := List.getElem_mem _
  have hmember : Config.crossing.scopes[2].members[0] ∈ Config.crossing.scopes[2].members :=
    List.getElem_mem _
  have htoggle : Config.crossing.origins[1] ∈ Config.crossing.origins := List.getElem_mem _
  refine ⟨_, hscope, _, hmember, by decide, _, hparent, _, _, htoggle, ⟨rfl, rfl, ?_⟩, 1, by decide,
    SamePath.refl _⟩
  rintro path ⟨⟩

/-- While a layer is armed, the toggle of the layer beside it has its guards met and waits for the
key that the armed one binds. -/
theorem Compiler.toggle_takes_bound_key :
    (({} : Compiler).compile .crossing).2 = .ok Config.crossing.output ∧
      Config.crossing.output.records = Config.crossing.origins.map (Origin.record .crossing) ∧
      ∃ scope ∈ Config.crossing.scopes, ∃ member ∈ scope.members,
        member.key ∉ scope.path.map Combo.key ∧ ∃ parent layer nested,
          .toggle parent layer nested ∈ Config.crossing.origins ∧
          scope.Rival member parent layer nested ∧
          scope.assignment.Meets ((Origin.toggle parent layer nested).record .crossing).guards := by
  obtain ⟨hvalid, -⟩ := compile_eq_ok_iff.mp compile_crossing
  obtain ⟨scope, hscope, member, hmember, hkey, parent, hparent, layer, nested, htoggle, hrival,
    depth, -, hpath⟩ := Config.exists_rival_crossing
  exact ⟨compile_crossing, Config.crossing.records_output, scope, hscope, member, hmember, hkey,
    parent, layer, nested, htoggle, hrival,
    (hvalid.meets_toggle_iff hparent hscope hrival.base).mpr ⟨depth, hpath⟩⟩

/-- The toggle that takes the key is that of a layer declared around the armed one. -/
theorem Compiler.rivals_of_armed_scope_crossing :
    (({} : Compiler).compile .crossing).2 = .ok Config.crossing.output ∧
      ∃ scope ∈ Config.crossing.scopes, ∃ member ∈ scope.members, ∃ parent layer nested,
        .toggle parent layer nested ∈ Config.crossing.origins ∧
        scope.Rival member parent layer nested ∧ parent.Around scope ∧
        scope.assignment.Meets ((Origin.toggle parent layer nested).record .crossing).guards := by
  obtain ⟨scope, hscope, member, hmember, -, parent, -, layer, nested, htoggle, hrival, haround⟩ :=
    Config.exists_rival_crossing
  have hall := (rivals_of_armed_scope compile_crossing).2 scope hscope member hmember parent layer
    nested htoggle hrival
  exact ⟨compile_crossing, scope, hscope, member, hmember, parent, layer, nested, htoggle, hrival,
    haround, hall.1 haround⟩

end KeyRemap
