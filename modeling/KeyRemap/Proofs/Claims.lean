import KeyRemap.Proofs.Inventory

/-!
# The claims behind records

Every record but a toggle listens to a combination that its declaration has claimed. The records of
a document make no more claims than the configuration, so in a valid configuration no two of them
come from conflicting claims (`Config.Valid.pairwise_claim?`).
-/

namespace KeyRemap

namespace Origin

/-- The combination to which the record of an origin listens. -/
def combo : Origin → Combo
  | .trigger base => base.trigger
  | .toggle _ layer _ => layer.trigger
  | .content _ binding => binding.source
  | .ofRule _ binding => binding.source
  | .ofSubstitution substitution _ _ => substitution.source

/-- The device for which an origin is declared. -/
def deviceId : Origin → Option Device.Index
  | .trigger base => base.device
  | .toggle parent _ _ => parent.base.device
  | .content scope _ => scope.base.device
  | .ofRule rule _ => rule.device
  | .ofSubstitution _ id _ => some id

/-- The path on which an origin has claimed its combination. A layer claims no combination for its
toggle. -/
def path? : Origin → Option (List Combo)
  | .toggle .. => none
  | .content scope _ => some scope.path
  | .trigger _ | .ofRule .. | .ofSubstitution .. => some []

/-- The claim of an origin. -/
def claim? (config : Config) (origin : Origin) : Option Claim :=
  origin.path?.map fun path => ⟨origin.combo, path, config.device? origin.deviceId⟩

end Origin

/-! ## Claims, kind by kind -/

/-- The claims of the bindings of a scope that send something are among those of the scope. -/
theorem Scope.claims_bindingOrigins_sublist (config : Config) (scope : Scope) :
    (scope.bindingOrigins.filterMap (Origin.claim? config)).Sublist (scope.claims config) := by
  have hmap : scope.bindingOrigins.filterMap (Origin.claim? config) =
      scope.emitting.map fun binding => ⟨binding.source, scope.path, scope.device? config⟩ := by
    rw [bindingOrigins, List.filterMap_map]
    exact congrFun List.filterMap_eq_map _
  rw [hmap]
  exact List.filter_sublist.map _

/-- The toggles in a scope claim nothing of their own. -/
theorem Scope.claims_toggles (config : Config) (scope : Scope) :
    scope.toggles.filterMap (Origin.claim? config) = [] := by
  rw [toggles, List.filterMap_map]
  exact List.filterMap_eq_nil_iff.mpr fun _ _ => rfl

/-- The claims of the bindings of a rule that send or hold something are among those of the rule. -/
theorem Rule.claims_origins_sublist (config : Config) (rule : Rule) :
    (rule.origins.filterMap (Origin.claim? config)).Sublist (rule.claims config) := by
  rw [origins, List.filterMap_map, claims, ← List.filterMap_eq_map]
  exact List.filter_sublist.filterMap _

/-- The claims of the substitutions on single devices are among those of all substitutions. -/
theorem Config.claims_deviceOrigins_sublist (config : Config) :
    ((config.deviceOrigins.map Prod.snd).filterMap (Origin.claim? config)).Sublist
      (config.substitutions.map fun substitution =>
        ⟨substitution.source, [], config.device? substitution.device⟩) := by
  rw [deviceOrigins]
  induction config.substitutions with
  | nil => exact List.Sublist.slnil
  | cons substitution rest ih =>
      rw [List.filterMap_cons, List.map_cons, Substitution.origin?]
      cases hdevice : substitution.device with
      | none => exact ih.cons _
      | some id => cases substitution.destination with
        | none => exact ih.cons _
        | some destination => exact ih.cons_cons _

/-! ## The claims of all records -/

namespace Config

open scoped List

/-- The claims of a configuration, kind by kind. -/
theorem claims_perm (config : Config) :
    config.claims ~
      (config.bases.map fun base => ⟨base.trigger, [], config.device? base.device⟩) ++
        config.scopes.flatMap (Scope.claims config) ++ config.rules.flatMap (Rule.claims config) ++
        config.substitutions.map fun substitution =>
          ⟨substitution.source, [], config.device? substitution.device⟩ := by
  have hbases : config.bases.flatMap (Base.claims config) ~
      (config.bases.map fun base => ⟨base.trigger, [], config.device? base.device⟩) ++
        config.scopes.flatMap (Scope.claims config) := by
    rw [scopes, List.flatMap_assoc]
    exact (List.map_append_flatMap_perm _ _ _).symm
  rw [claims, List.append_assoc]
  exact List.perm_append_comm.trans ((hbases.append_right _).append_right _)

/-- The claims of the inventory are among those of the configuration. -/
theorem claims_inventory_sublist (config : Config) :
    config.inventory.filterMap (Origin.claim? config) <+
      (config.bases.map fun base => ⟨base.trigger, [], config.device? base.device⟩) ++
        config.scopes.flatMap (Scope.claims config) ++ config.rules.flatMap (Rule.claims config) ++
        config.substitutions.map fun substitution =>
          ⟨substitution.source, [], config.device? substitution.device⟩ := by
  have htriggers : (config.bases.map Origin.trigger).filterMap (Origin.claim? config) =
      config.bases.map fun base => ⟨base.trigger, [], config.device? base.device⟩ := by
    rw [List.filterMap_map]
    exact congrFun List.filterMap_eq_map _
  have hbindings : (config.scopes.flatMap Scope.bindingOrigins).filterMap (Origin.claim? config) <+
      config.scopes.flatMap (Scope.claims config) := by
    rw [List.filterMap_flatMap]
    exact List.Sublist.flatMap_right _ fun scope _ => scope.claims_bindingOrigins_sublist config
  have htoggles : (config.scopes.flatMap Scope.toggles).filterMap (Origin.claim? config) = [] := by
    rw [List.filterMap_flatMap, List.flatMap_eq_nil_iff]
    exact fun scope _ => scope.claims_toggles config
  have hrules : (config.rules.flatMap Rule.origins).filterMap (Origin.claim? config) <+
      config.rules.flatMap (Rule.claims config) := by
    rw [List.filterMap_flatMap]
    exact List.Sublist.flatMap_right _ fun rule _ => rule.claims_origins_sublist config
  -- bindings that send nothing claim their source and have no record, so there are more claims
  rw [inventory, List.filterMap_append, List.filterMap_append, List.filterMap_append,
    List.filterMap_append, htriggers, htoggles, List.append_nil]
  exact (((List.Sublist.refl _).append hbindings).append hrules).append
    config.claims_deviceOrigins_sublist

/-- In a valid configuration no two records come from conflicting claims. -/
theorem Valid.pairwise_claim? {config : Config} (h : config.Valid) :
    config.origins.Pairwise fun a b => ∀ c ∈ a.claim? config, ∀ d ∈ b.claim? config,
      ¬ c.Conflict d := by
  have hsymm : ∀ {c d : Claim}, ¬ c.Conflict d → ¬ d.Conflict c :=
    fun hnot hconflict => hnot hconflict.symm
  have hclaims := (config.claims_perm.pairwise_iff hsymm).mp h.claims
  have hinventory := List.pairwise_filterMap.mp (hclaims.sublist config.claims_inventory_sublist)
  -- conflict is symmetric, so it does not matter in which order the records stand
  refine (config.origins_perm_inventory.pairwise_iff ?_).mpr hinventory
  intro a b hab d hd c hc hconflict
  exact hab c hc d hd hconflict.symm

end Config

end KeyRemap
