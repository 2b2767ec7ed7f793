import KeyRemap.Proofs.Interception

/-!
# Which scopes share a variable

A path is the same in whatever order modifiers are listed, but a variable spells out the modifiers
of its base as they are listed. The names of modifiers can be read back from such a spelling
(`Modifier.join_mark_injective`), so two scopes share their variable exactly if they have the same
path and their bases list the same modifiers in the same order (`Compiler.shared_variable_iff`).
Two bases that could list them differently are for different devices.
-/

namespace KeyRemap

/-! ## Modifiers spelled out -/

namespace Modifier

/-- The part of a variable that stands for a modifier. -/
def mark (modifier : Modifier) : String :=
  "_" ++ modifier.name

/-- No mark goes on from another one. -/
theorem eq_of_mark_isPrefix {a b : Modifier} (h : a.mark.toList <+: b.mark.toList) : a = b := by
  have hall : ∀ a ∈ all, ∀ b ∈ all, a.mark.toList <+: b.mark.toList → a = b := by decide +kernel
  exact hall a (Modifiers.mem_all a) b (Modifiers.mem_all b) h

/-- No mark is empty. -/
theorem mark_ne_nil (modifier : Modifier) : modifier.mark.toList ≠ [] := by
  simp [mark, String.toList_append]

/-- Marks in a row tell of which modifiers they are, and in which order. -/
theorem flatMap_mark_injective {a b : List Modifier}
    (h : (a.flatMap fun modifier => modifier.mark.toList) =
      b.flatMap fun modifier => modifier.mark.toList) : a = b := by
  induction a generalizing b with
  | nil => cases b with
    | nil => rfl
    | cons y ys => exact absurd (List.append_eq_nil_iff.mp h.symm).1 y.mark_ne_nil
  | cons x xs ih => cases b with
    | nil => exact absurd (List.append_eq_nil_iff.mp h).1 x.mark_ne_nil
    | cons y ys =>
        rw [List.flatMap_cons, List.flatMap_cons] at h
        -- both first marks begin the same text, so one of them begins the other
        have hx := List.prefix_append x.mark.toList (xs.flatMap fun other => other.mark.toList)
        rw [h] at hx
        have hxy : x = y := by
          rcases List.prefix_or_prefix_of_prefix hx (List.prefix_append _ _) with hprefix | hprefix
          · exact eq_of_mark_isPrefix hprefix
          · exact (eq_of_mark_isPrefix hprefix).symm
        subst hxy
        rw [ih (List.append_cancel_left h)]

/-- Marks that are joined to a text still tell of which modifiers they are, and in which order. -/
theorem join_mark_injective {a b : List Modifier}
    (h : String.join (a.map mark) = String.join (b.map mark)) : a = b := by
  have htext := congrArg String.toList h
  rw [String.toList_join, String.toList_join, List.flatMap_map, List.flatMap_map] at htext
  exact flatMap_mark_injective htext

end Modifier

/-- Bases of the same key have the same variable exactly if they have the same trigger, with its
modifiers in the same order. -/
theorem Base.variableName_eq_iff {a b : Base} (hkey : a.trigger.key = b.trigger.key) :
    a.variableName = b.variableName ↔ a.trigger.modifiers = b.trigger.modifiers := by
  constructor
  · intro h
    rw [variableName, variableName, hkey, String.append_right_inj] at h
    have hlist := Modifier.join_mark_injective h
    cases hmodifiers : a.trigger.modifiers
    cases hothers : b.trigger.modifiers
    rw [hmodifiers, hothers] at hlist
    congr
  · intro h
    rw [variableName, variableName, hkey, h]

/-! ## Scopes of the same path -/

namespace Scope

variable {a b : Scope}

/-- Scopes with the same path are reached by the same trigger, in whatever order its modifiers are
listed. -/
theorem trigger_equiv_of_samePath (h : SamePath a.path b.path) : a.base.trigger ≈ b.base.trigger :=
  (List.forall₂_cons.mp h).1

/-- Scopes with the same path are reached by the same keys. -/
theorem map_key_of_samePath (h : SamePath a.path b.path) :
    a.layers.map Layer.key = b.layers.map Layer.key := by
  have htake : b.path = b.path.take (b.layers.length + 1) := by rw [← length_path, List.take_length]
  rw [htake] at h
  rw [map_key_of_samePath_take h, List.take_length]

/-- The variable of a scope is what the variable of its base becomes by the keys on the way. -/
theorem variableName_eq_iff (h : SamePath a.path b.path) :
    a.variableName = b.variableName ↔
      a.base.trigger.modifiers = b.base.trigger.modifiers := by
  have hkey := (Combo.equiv_iff.mp (trigger_equiv_of_samePath h)).1
  have hkeys := map_key_of_samePath h
  have hbase : a.variableName = b.variableName ↔ a.base.variableName = b.base.variableName := by
    rw [variableName, variableName]
    cases hlayers : a.layers with
    | nil => cases hothers : b.layers with
      | nil => rfl
      | cons _ _ => simp [hlayers, hothers] at hkeys
    | cons first rest => cases hothers : b.layers with
      | nil => simp [hlayers, hothers] at hkeys
      | cons other others =>
          have hnames : (first :: rest).map (fun layer => "_" ++ layer.key.name) =
              (other :: others).map fun layer => "_" ++ layer.key.name := by
            have hmarks := congrArg (List.map fun key : Key => "_" ++ key.name) hkeys
            rwa [hlayers, hothers, List.map_map, List.map_map] at hmarks
          -- both names go on from that of the base with the same marks
          rw [variableNameOf, variableNameOf, hnames, String.append_left_inj,
            String.append_right_inj] <;> simp
  rw [hbase, Base.variableName_eq_iff hkey]

end Scope

/-- The claim of the trigger of a base. -/
def Base.triggerClaim (config : Config) (base : Base) : Claim :=
  ⟨base.trigger, [], config.device? base.device⟩

/-- In a valid configuration two bases with equivalent triggers that are for a common device are
one. -/
theorem Config.Valid.base_eq_of_equiv {config : Config} (h : config.Valid) {a b : Base}
    (ha : a ∈ config.bases) (hb : b ∈ config.bases) (htrigger : a.trigger ≈ b.trigger)
    (hdevice : DevicesOverlap (config.device? a.device) (config.device? b.device)) : a = b := by
  have hbases : (config.bases.flatMap (Base.claims config)).Pairwise fun c d => ¬ c.Conflict d :=
    (List.pairwise_append.mp (List.pairwise_append.mp h.claims).1).2.1
  have htriggers : config.bases.Pairwise fun a b =>
      ¬ (a.triggerClaim config).Conflict (b.triggerClaim config) :=
    (List.pairwise_flatMap.mp hbases).2.imp fun hclaims =>
      hclaims _ List.mem_cons_self _ List.mem_cons_self
  -- conflict is symmetric, so it does not matter which of the two is declared first
  have hone : config.bases.Pairwise fun a b =>
      (a.triggerClaim config).Conflict (b.triggerClaim config) → a = b :=
    htriggers.imp fun hnot hconflict => absurd hconflict hnot
  have hother : config.bases.Pairwise fun a b =>
      (b.triggerClaim config).Conflict (a.triggerClaim config) → b = a :=
    htriggers.imp fun hnot hconflict => absurd hconflict.symm hnot
  exact List.Pairwise.forall_of_forall_of_flip (fun base _ _ => rfl) hone hother ha hb
    ⟨htrigger, SamePath.refl [], hdevice⟩

/-! ## Sharing -/

/-- Two scopes share their variable exactly if they have the same path and their bases list the same
modifiers in the same order. Of scopes with the same path only those for different devices may have
bases that do not. -/
theorem Compiler.shared_variable_iff {compiler : Compiler} {config : Config} {document : Document}
    (h : (compiler.compile config).2 = .ok document) :
    ∀ a ∈ config.scopes, ∀ b ∈ config.scopes,
      (a.variableName = b.variableName ↔
        SamePath a.path b.path ∧ a.base.trigger.modifiers = b.base.trigger.modifiers) ∧
      (SamePath a.path b.path → DevicesOverlap (a.device? config) (b.device? config) →
        a.variableName = b.variableName) := by
  obtain ⟨hvalid, -⟩ := compile_eq_ok_iff.mp h
  intro a ha b hb
  refine ⟨⟨fun hname => ?_, fun ⟨hpath, hmodifiers⟩ => ?_⟩, fun hpath hdevice => ?_⟩
  · have hpath := hvalid.shared_variable a ha b hb hname
    exact ⟨hpath, (Scope.variableName_eq_iff hpath).mp hname⟩
  · exact (Scope.variableName_eq_iff hpath).mpr hmodifiers
  · -- on a common device there is only one base with this trigger
    have hbase := hvalid.base_eq_of_equiv (Config.mem_base_scopes ha).1
      (Config.mem_base_scopes hb).1 (Scope.trigger_equiv_of_samePath hpath) hdevice
    exact (Scope.variableName_eq_iff hpath).mpr (by rw [hbase])

/-- A base on either of two devices, with a layer of the same key. Their triggers may list their
modifiers in different orders. -/
def Config.mirrored (first second : List Modifier) : Config where
  devices := [⟨.product 1452 641, .onDevice, false⟩, ⟨.product 7504 24926, .onDevice, false⟩]
  bases := [
    { trigger := .ofList .f16 first, device := some ⟨0⟩, layers := .cons { key := .w } .nil .nil },
    { trigger := .ofList .f16 second, device := some ⟨1⟩, layers := .cons { key := .w } .nil .nil }]

/-- Bases that list their modifiers alike share the variables of their layers across devices. -/
theorem Compiler.shared_variable_mirrored :
    let config := Config.mirrored [.leftCommand, .leftShift] [.leftCommand, .leftShift]
    (({} : Compiler).compile config).2 = .ok config.output ∧
      ∃ a b, config.scopes[1]? = some a ∧ config.scopes[3]? = some b ∧
        a.variableName = b.variableName ∧ a.device? config ≠ b.device? config := by
  intro config
  have hcompile : (({} : Compiler).compile config).2 = .ok config.output :=
    compile_of_passes (by decide +kernel)
  have hshared := shared_variable_iff hcompile config.scopes[1] (List.getElem_mem _)
    config.scopes[3] (List.getElem_mem _)
  have hpath : SamePath config.scopes[1].path config.scopes[3].path :=
    samePath_iff.mpr (by decide +kernel)
  exact ⟨hcompile, _, _, rfl, rfl, hshared.1.mpr ⟨hpath, rfl⟩, by decide +kernel⟩

/-- Bases that list the same modifiers in different orders have the same paths, but their layers
have different variables. -/
theorem Compiler.variables_differ_mirrored :
    let config := Config.mirrored [.leftCommand, .leftShift] [.leftShift, .leftCommand]
    (({} : Compiler).compile config).2 = .ok config.output ∧
      ∃ a b, config.scopes[1]? = some a ∧ config.scopes[3]? = some b ∧ SamePath a.path b.path ∧
        a.variableName = "lay_var_f16_left_command_left_shift_w" ∧
        b.variableName = "lay_var_f16_left_shift_left_command_w" ∧
        a.variableName ≠ b.variableName := by
  intro config
  have hcompile : (({} : Compiler).compile config).2 = .ok config.output :=
    compile_of_passes (by decide +kernel)
  exact ⟨hcompile, _, _, rfl, rfl, samePath_iff.mpr (by decide +kernel), by decide +kernel,
    by decide +kernel, by decide +kernel⟩

end KeyRemap
