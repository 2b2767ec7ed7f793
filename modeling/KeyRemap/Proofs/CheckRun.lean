import KeyRemap.Check
import KeyRemap.Proofs.ActivationPath

/-!
# Runs of checks

A run makes its checks one after another and stops at the first that fails, comparing each only with
what the state has kept. `Validation.Established` says what the state has kept of the checks made so
far; every check that passes keeps it. Hence a run passes exactly when its checks are compatible two
by two and none of them is a refusal (`Validation.run_passes_iff`).
-/

namespace KeyRemap

namespace Registry

/-- Every group holds claims on its own path, and no two groups are for the same path. -/
structure Grouped (groups : List (List Combo × List Claim)) : Prop where
  nodup : (groups.map Prod.fst).Nodup
  on_path : ∀ group ∈ groups, ∀ claim ∈ group.2, claim.sortedPath = group.1

/-- Without its first group a grouped registry is still grouped. -/
theorem Grouped.tail {group : List Combo × List Claim} {rest : List (List Combo × List Claim)}
    (h : Grouped (group :: rest)) : Grouped rest :=
  ⟨(List.nodup_cons.mp h.nodup).2, fun g hg => h.on_path g (List.mem_cons_of_mem _ hg)⟩

/-- The empty registry holds no claims. -/
@[simp] theorem claims_empty : (∅ : Registry).claims = [] := rfl

/-- The group of a path holds all claims on that path. -/
theorem Grouped.mem_lookup {groups : List (List Combo × List Claim)} (h : Grouped groups)
    {path : List Combo} {claim : Claim} :
    claim ∈ (groups.lookup path).getD [] ↔
      claim ∈ groups.flatMap Prod.snd ∧ claim.sortedPath = path := by
  induction groups with
  | nil => simp
  | cons group rest ih =>
      obtain ⟨p, claims⟩ := group
      have hhere : ∀ c ∈ claims, c.sortedPath = p := h.on_path _ List.mem_cons_self
      rw [List.flatMap_cons, List.mem_append]
      by_cases hp : path = p
      · subst hp
        -- a later group with a claim on this path would be a second group for it
        have hrest : ¬ (claim ∈ rest.flatMap Prod.snd ∧ claim.sortedPath = path) := by
          rintro ⟨hmem, hpath⟩
          obtain ⟨group, hgroup, hclaim⟩ := List.mem_flatMap.mp hmem
          refine (List.nodup_cons.mp h.nodup).1 (List.mem_map.mpr ⟨group, hgroup, ?_⟩)
          rw [← h.on_path group (List.mem_cons_of_mem _ hgroup) claim hclaim, hpath]
        rw [List.lookup_cons, beq_self_eq_true]
        constructor
        · intro hmem
          exact ⟨Or.inl hmem, hhere claim hmem⟩
        · rintro ⟨hmem | hmem, hpath⟩
          · exact hmem
          · exact absurd ⟨hmem, hpath⟩ hrest
      · rw [List.lookup_cons, beq_false_of_ne hp, ih h.tail]
        constructor
        · rintro ⟨hmem, hpath⟩
          exact ⟨Or.inr hmem, hpath⟩
        · rintro ⟨hmem | hmem, hpath⟩
          · exact absurd (hpath.symm.trans (hhere claim hmem)) hp
          · exact ⟨hmem, hpath⟩

/-- The paths of the groups after a claim is added: the new one comes last. -/
theorem map_fst_insertInto (path : List Combo) (claim : Claim)
    (groups : List (List Combo × List Claim)) :
    (insertInto path claim groups).map Prod.fst =
      if path ∈ groups.map Prod.fst then groups.map Prod.fst
      else groups.map Prod.fst ++ [path] := by
  induction groups with
  | nil => simp [insertInto]
  | cons group rest ih =>
      obtain ⟨p, claims⟩ := group
      by_cases hp : p = path
      · simp [insertInto, hp]
      · have hp' : path ≠ p := fun h => hp h.symm
        by_cases hmem : path ∈ rest.map Prod.fst
        · rw [if_pos hmem] at ih
          simp [insertInto, hp, ih, hmem]
        · rw [if_neg hmem] at ih
          simp [insertInto, hp, ih, hp', hmem]

/-- Where every group is on its own path, it still is when a claim is added to the group of its
path. -/
theorem on_path_insertInto {groups : List (List Combo × List Claim)}
    (h : ∀ group ∈ groups, ∀ claim ∈ group.2, claim.sortedPath = group.1) (claim : Claim) :
    ∀ group ∈ insertInto claim.sortedPath claim groups, ∀ held ∈ group.2,
      held.sortedPath = group.1 := by
  induction groups with
  | nil =>
      intro group hgroup c hc
      rw [insertInto, List.mem_singleton] at hgroup
      subst hgroup
      rw [List.mem_singleton.mp hc]
  | cons first rest ih =>
      obtain ⟨p, claims⟩ := first
      obtain ⟨hfirst, hrest⟩ := List.forall_mem_cons.mp h
      rw [insertInto]
      split
      · next hp =>
          refine List.forall_mem_cons.mpr ⟨?_, hrest⟩
          exact List.forall_mem_cons.mpr ⟨hp.symm, hfirst⟩
      · exact List.forall_mem_cons.mpr ⟨hfirst, ih hrest⟩

/-- A grouped registry stays grouped when a claim is added to the group of its path. -/
theorem Grouped.insertInto {groups : List (List Combo × List Claim)} (h : Grouped groups)
    (claim : Claim) : Grouped (insertInto claim.sortedPath claim groups) := by
  refine ⟨?_, ?_⟩
  · rw [map_fst_insertInto]
    split
    · exact h.nodup
    · next hnew =>
        refine List.nodup_append.mpr ⟨h.nodup, List.pairwise_singleton _ _, ?_⟩
        intro a ha b hb hab
        rw [List.mem_singleton.mp hb] at hab
        exact hnew (hab ▸ ha)
  · exact on_path_insertInto h.on_path claim

/-- A registry holds a claim against another exactly when some claim in it conflicts with that. -/
theorem contains_iff {registry : Registry} (h : Grouped registry.groups) {claim : Claim} :
    registry.contains claim = true ↔ ∃ held ∈ registry.claims, held.Conflict claim := by
  simp only [contains, claimsOn, claims, List.any_eq_true, h.mem_lookup, Bool.and_eq_true,
    decide_eq_true_eq, Claim.sharesDevice_iff]
  constructor
  · rintro ⟨held, ⟨hmem, hpath⟩, hcombo, hdevice⟩
    exact ⟨held, hmem, hcombo, samePath_iff.mpr hpath, hdevice⟩
  · rintro ⟨held, hmem, hconflict⟩
    exact ⟨held, ⟨hmem, samePath_iff.mp hconflict.path⟩, hconflict.combo, hconflict.device⟩

/-- A claim is accepted exactly when the registry holds none against it. -/
theorem register_eq_ok_iff {registry next : Registry} {claim : Claim} {context : String} :
    registry.register claim context = .ok next ↔
      registry.contains claim = false ∧ next = ⟨insertInto claim.sortedPath claim registry.groups⟩ := by
  rw [register]
  cases registry.contains claim with
  | true => simp
  | false => simp [eq_comm]

/-- A registry that accepts a claim holds it in addition to those before. -/
theorem claims_register {registry next : Registry} {claim : Claim} {context : String}
    (h : registry.register claim context = .ok next) :
    next.claims.Perm (claim :: registry.claims) := by
  obtain ⟨-, rfl⟩ := register_eq_ok_iff.mp h
  exact insertInto_perm _ _ _

/-- A grouped registry stays grouped when a claim is registered. -/
theorem Grouped.register {registry next : Registry} (h : Grouped registry.groups) {claim : Claim}
    {context : String} (hregister : registry.register claim context = .ok next) :
    Grouped next.groups := by
  obtain ⟨-, rfl⟩ := register_eq_ok_iff.mp hregister
  exact h.insertInto claim

end Registry

namespace Check

/-- The claim that a check makes. -/
def claim? : Check → Option Claim
  | .claim made _ => some made
  | _ => none

/-- The variable that a check gives to a path. -/
def owner? : Check → Option Owner
  | .own name path description => some ⟨name, path, description⟩
  | _ => none

/-- The violation with which a check refuses whatever came before. -/
def refusal? : Check → Option Violation
  | .refuse violation => some violation
  | _ => none

end Check

/-- Two owners agree when they have different variables or the same path. -/
def Owner.Agrees (a b : Owner) : Prop :=
  a.name = b.name → SamePath a.path b.path

/-- Two checks are compatible when their claims do not conflict and their variables agree. -/
structure Check.Compatible (a b : Check) : Prop where
  claims : ∀ c ∈ a.claim?, ∀ d ∈ b.claim?, ¬ c.Conflict d
  owners : ∀ x ∈ a.owner?, ∀ y ∈ b.owner?, x.Agrees y

namespace Validation

/-- What a state has kept of the checks made so far: their claims, and of every variable the owner
that was first. -/
structure Established (state : Validation) (done : List Check) : Prop where
  grouped : Registry.Grouped state.registry.groups
  claims : ∀ claim, claim ∈ state.registry.claims ↔ claim ∈ done.filterMap Check.claim?
  owners : ∀ owner ∈ done.filterMap Check.owner?,
    ∃ first, state.owners.find? (·.name == owner.name) = some first ∧ first.Agrees owner
  owned : ∀ owner ∈ state.owners, owner ∈ done.filterMap Check.owner?

/-- Before the first check the empty state is established. -/
theorem established_nil : Established {} [] where
  grouped := ⟨List.nodup_nil, by simp [EmptyCollection.emptyCollection, Registry.empty]⟩
  claims claim := by simp
  owners := by simp
  owned := by simp

/-- A claim passes exactly when no claim made before conflicts with it. -/
theorem Established.claim_passes_iff {state : Validation} {done : List Check}
    (h : Established state done) {claim : Claim} {context : String} :
    (∃ next, state.step (.claim claim context) = .ok next) ↔
      ∀ check ∈ done, ∀ held ∈ check.claim?, ¬ held.Conflict claim := by
  have hcontains : state.registry.contains claim = false ↔
      ∀ check ∈ done, ∀ held ∈ check.claim?, ¬ held.Conflict claim := by
    rw [Bool.eq_false_iff, ne_eq, Registry.contains_iff h.grouped]
    constructor
    · intro hnone check hcheck held hheld hconflict
      exact hnone ⟨held, (h.claims held).mpr (List.mem_filterMap.mpr ⟨check, hcheck, hheld⟩), hconflict⟩
    · rintro hall ⟨held, hmem, hconflict⟩
      obtain ⟨check, hcheck, hheld⟩ := List.mem_filterMap.mp ((h.claims held).mp hmem)
      exact hall check hcheck held hheld hconflict
  rw [← hcontains, step, Registry.register]
  cases state.registry.contains claim <;> simp [Except.map]

/-- A variable passes exactly when every path that was given it before is the same. -/
theorem Established.own_passes_iff {state : Validation} {done : List Check}
    (h : Established state done) {name : String} {path : List Combo} {description : String} :
    (∃ next, state.step (.own name path description) = .ok next) ↔
      ∀ check ∈ done, ∀ owner ∈ check.owner?, owner.Agrees ⟨name, path, description⟩ := by
  rw [step, own]
  split
  · next hnone =>
      refine iff_of_true ⟨_, rfl⟩ ?_
      intro check hcheck owner howner hname
      obtain ⟨first, hfirst, -⟩ :=
        h.owners owner (List.mem_filterMap.mpr ⟨check, hcheck, howner⟩)
      rw [hname, hnone] at hfirst
      cases hfirst
  · next first hfirst =>
      have hname : first.name = name := by simpa using List.find?_some hfirst
      have hmem := h.owned first (List.mem_of_find?_eq_some hfirst)
      -- all owners of the variable agree with the first, so the first stands for all of them
      split
      · next hpath =>
          refine iff_of_true ⟨_, rfl⟩ ?_
          intro check hcheck owner howner hsame
          obtain ⟨other, hother, hagrees⟩ :=
            h.owners owner (List.mem_filterMap.mpr ⟨check, hcheck, howner⟩)
          have hsame : owner.name = name := hsame
          rw [hsame, hfirst] at hother
          cases hother
          exact (hagrees (hname.trans hsame.symm)).symm.trans (samePath_iff.mpr hpath)
      · next hpath =>
          refine iff_of_false (by simp) ?_
          intro hall
          obtain ⟨check, hcheck, howner⟩ := List.mem_filterMap.mp hmem
          exact hpath (samePath_iff.mp (hall check hcheck first howner hname))

/-- A check passes exactly when it is compatible with all checks made before and no refusal. -/
theorem Established.step_passes_iff {state : Validation} {done : List Check}
    (h : Established state done) (check : Check) :
    (∃ next, state.step check = .ok next) ↔
      (∀ before ∈ done, before.Compatible check) ∧ check.refusal? = none := by
  cases check with
  | claim claim context =>
      rw [h.claim_passes_iff]
      constructor
      · intro hall
        refine ⟨fun before hbefore => ⟨fun c hc d hd => ?_, by simp [Check.owner?]⟩, rfl⟩
        obtain rfl : claim = d := by simpa [Check.claim?] using hd
        exact hall before hbefore c hc
      · rintro ⟨hall, -⟩ before hbefore held hheld
        exact (hall before hbefore).claims held hheld claim rfl
  | own name path description =>
      rw [h.own_passes_iff]
      constructor
      · intro hall
        refine ⟨fun before hbefore => ⟨by simp [Check.claim?], fun x hx y hy => ?_⟩, rfl⟩
        obtain rfl : ⟨name, path, description⟩ = y := by simpa [Check.owner?] using hy
        exact hall before hbefore x hx
      · rintro ⟨hall, -⟩ before hbefore owner howner
        exact (hall before hbefore).owners owner howner _ rfl
  | refuse violation => simp [step, Check.refusal?]

/-- A claim that passes is kept with those before. -/
theorem Established.claim {state next : Validation} {done : List Check} {claim : Claim}
    {context : String} (h : Established state done)
    (hstep : state.step (.claim claim context) = .ok next) :
    Established next (done ++ [.claim claim context]) := by
  rw [step] at hstep
  cases hregister : state.registry.register claim context with
  | error violation =>
      rw [hregister] at hstep
      cases hstep
  | ok registry =>
      rw [hregister] at hstep
      cases hstep
      refine ⟨h.grouped.register hregister, ?_, ?_, ?_⟩
      · -- the registry has one claim more, and so have the checks
        intro other
        rw [(Registry.claims_register hregister).mem_iff, List.mem_cons, h.claims other,
          List.filterMap_append, List.mem_append, or_comm]
        simp [Check.claim?]
      · simpa [Check.owner?] using h.owners
      · simpa [Check.owner?] using h.owned

/-- With a variable that had no owner, every owner claimed so far still agrees with the first of its
name. -/
theorem Established.owners_cons {state : Validation} {done : List Check} {new : Owner}
    (h : Established state done) (hnone : state.owners.find? (·.name == new.name) = none) :
    ∀ owner ∈ done.filterMap Check.owner? ++ [new],
      ∃ first, (new :: state.owners).find? (·.name == owner.name) = some first ∧
        first.Agrees owner := by
  intro owner howner
  by_cases hname : owner.name = new.name
  · refine ⟨new, by simp [hname], ?_⟩
    rcases List.mem_append.mp howner with hold | hnew
    · -- an owner of that name from before would have been found
      obtain ⟨first, hfirst, -⟩ := h.owners owner hold
      rw [hname, hnone] at hfirst
      cases hfirst
    · obtain rfl := List.mem_singleton.mp hnew
      exact fun _ => SamePath.refl owner.path
  · have hne : (new.name == owner.name) = false := beq_false_of_ne fun heq => hname heq.symm
    rcases List.mem_append.mp howner with hold | hnew
    · obtain ⟨first, hfirst, hagrees⟩ := h.owners owner hold
      exact ⟨first, by simpa [List.find?_cons, hne] using hfirst, hagrees⟩
    · exact absurd (congrArg Owner.name (List.mem_singleton.mp hnew)) hname

/-- A variable that passes is kept with those before, by its path or by the same path. -/
theorem Established.own {state next : Validation} {done : List Check} {name : String}
    {path : List Combo} {description : String} (h : Established state done)
    (hstep : state.step (.own name path description) = .ok next) :
    Established next (done ++ [.own name path description]) := by
  have hdone : (done ++ [Check.own name path description]).filterMap Check.owner? =
      done.filterMap Check.owner? ++ [⟨name, path, description⟩] := by
    simp [Check.owner?]
  have hclaims : (done ++ [Check.own name path description]).filterMap Check.claim? =
      done.filterMap Check.claim? := by
    simp [Check.claim?]
  rw [step, Validation.own] at hstep
  split at hstep
  · next hnone =>
      cases hstep
      refine ⟨h.grouped, by rw [hclaims]; exact h.claims, ?_, ?_⟩
      · rw [hdone]
        exact h.owners_cons hnone
      · rw [hdone]
        intro owner howner
        rcases List.mem_cons.mp howner with rfl | howner
        · exact List.mem_append_right _ (List.mem_singleton_self _)
        · exact List.mem_append_left _ (h.owned owner howner)
  · next first hfirst =>
      split at hstep
      · next hpath =>
          cases hstep
          refine ⟨h.grouped, by rw [hclaims]; exact h.claims, ?_, ?_⟩
          · rw [hdone]
            intro owner howner
            rcases List.mem_append.mp howner with hold | hnew
            · exact h.owners owner hold
            · obtain rfl := List.mem_singleton.mp hnew
              exact ⟨first, hfirst, fun _ => samePath_iff.mpr hpath⟩
          · rw [hdone]
            exact fun owner howner => List.mem_append_left _ (h.owned owner howner)
      · cases hstep

/-- A check that passes is kept with those before. -/
theorem Established.step {state next : Validation} {done : List Check} {check : Check}
    (h : Established state done) (hstep : state.step check = .ok next) :
    Established next (done ++ [check]) := by
  cases check with
  | claim claim context => exact h.claim hstep
  | own name path description => exact h.own hstep
  | refuse violation => cases hstep

/-- A run goes through exactly when its checks are compatible two by two, among themselves and with
those made before, and none of them is a refusal. -/
theorem Established.run_passes_iff {state : Validation} {done rest : List Check}
    (h : Established state done) (hdone : done.Pairwise Check.Compatible) :
    (state.run rest).2 = none ↔
      (done ++ rest).Pairwise Check.Compatible ∧ ∀ check ∈ rest, check.refusal? = none := by
  -- every check that passes moves from the checks that are left to those that are done
  induction rest generalizing state done with
  | nil => simp [hdone]
  | cons check rest ih =>
      rw [run]
      cases hstep : state.step check with
      | ok next =>
          obtain ⟨hbefore, hrefusal⟩ := (h.step_passes_iff check).mp ⟨next, hstep⟩
          have hdone' : (done ++ [check]).Pairwise Check.Compatible := by
            refine List.pairwise_append.mpr ⟨hdone, List.pairwise_singleton _ _, ?_⟩
            intro before hmem last hlast
            rw [List.mem_singleton.mp hlast]
            exact hbefore before hmem
          simp [ih (h.step hstep) hdone', hrefusal]
      | error violation =>
          have hfails : ¬ ∃ next, state.step check = .ok next := by simp [hstep]
          refine iff_of_false (by simp) ?_
          rintro ⟨hpairwise, hrefusals⟩
          refine hfails ((h.step_passes_iff check).mpr ⟨fun before hbefore => ?_, ?_⟩)
          · exact (List.pairwise_append.mp hpairwise).2.2 before hbefore check List.mem_cons_self
          · exact hrefusals check List.mem_cons_self

/-- A list of checks passes exactly when their claims do not conflict, their variables agree, and
none of them is a refusal. -/
theorem run_passes_iff (checks : List Check) :
    (({} : Validation).run checks).2 = none ↔
      (checks.filterMap Check.claim?).Pairwise (fun a b => ¬ a.Conflict b) ∧
      (checks.filterMap Check.owner?).Pairwise Owner.Agrees ∧
      checks.filterMap Check.refusal? = [] := by
  have hcompatible : checks.Pairwise Check.Compatible ↔
      (checks.filterMap Check.claim?).Pairwise (fun a b => ¬ a.Conflict b) ∧
      (checks.filterMap Check.owner?).Pairwise Owner.Agrees := by
    rw [List.pairwise_filterMap, List.pairwise_filterMap, ← List.pairwise_and_iff]
    refine List.Pairwise.iff fun a b => ?_
    exact ⟨fun h => ⟨h.claims, h.owners⟩, fun ⟨hclaims, howners⟩ => ⟨hclaims, howners⟩⟩
  rw [established_nil.run_passes_iff List.Pairwise.nil, List.nil_append, hcompatible,
    List.filterMap_eq_nil_iff, and_assoc]

/-- A run that goes through passes its first check and then goes through the others. -/
theorem exists_of_run_cons_passes {state last : Validation} {check : Check} {rest : List Check}
    (h : state.run (check :: rest) = (last, none)) :
    ∃ next, state.step check = .ok next ∧ next.run rest = (last, none) := by
  rw [run] at h
  cases hstep : state.step check with
  | error violation =>
      rw [hstep] at h
      cases h
  | ok next =>
      rw [hstep] at h
      exact ⟨next, rfl, h⟩

/-- A check that passes adds its claim, if it makes one, to the registry. -/
theorem claims_step {state next : Validation} {check : Check} (h : state.step check = .ok next) :
    next.registry.claims.Perm (check.claim?.toList ++ state.registry.claims) := by
  cases check with
  | claim claim context =>
      rw [step] at h
      cases hregister : state.registry.register claim context with
      | error violation =>
          rw [hregister] at h
          cases h
      | ok registry =>
          rw [hregister] at h
          cases h
          exact Registry.claims_register hregister
  | own name path description =>
      rw [step, own] at h
      split at h
      · cases h
        exact List.Perm.refl _
      · split at h
        · cases h
          exact List.Perm.refl _
        · cases h
  | refuse violation => cases h

/-- A run that goes through adds the claims of all its checks to the registry. -/
theorem claims_run {state last : Validation} {checks : List Check}
    (h : state.run checks = (last, none)) :
    last.registry.claims.Perm (checks.filterMap Check.claim? ++ state.registry.claims) := by
  induction checks generalizing state with
  | nil =>
      cases h
      exact List.Perm.refl _
  | cons check rest ih =>
      obtain ⟨next, hstep, hrest⟩ := exists_of_run_cons_passes h
      have hcons : (check :: rest).filterMap Check.claim? =
          check.claim?.toList ++ rest.filterMap Check.claim? := by
        rw [List.filterMap_cons]
        cases check.claim? <;> rfl
      rw [hcons]
      refine (ih hrest).trans (((claims_step hstep).append_left _).trans ?_)
      rw [List.append_assoc]
      exact List.perm_append_comm_assoc _ _ _

end Validation

end KeyRemap
