import KeyRemap.Proofs.Guards
import KeyRemap.Proofs.Lowering
import KeyRemap.Proofs.Sites

/-!
# The order of groups and records

The records of a base are gathered site by site: the record that opens a site and those of its
bindings that are not separate belong to the group of the home of the site, and every separate
binding has a group of its own (`Base.Arranged`). So both the groups of a base and the records in
each of them stand in pre-order. The document has the groups of the bases, then those of the rules,
and then those of the devices in the order in which substitutions name them
(`Compiler.document_arranged`).
-/

namespace KeyRemap

/-! ## What a site contributes -/

namespace Scope

/-- The origins of the bindings of a scope that join the group around them. -/
def joining (scope : Scope) : List Origin :=
  (scope.emitting.filter fun binding => !binding.separate).map (.content scope)

/-- The groups of the separate bindings of a scope. Each holds its binding alone. -/
def apart (scope : Scope) : List (String × List Origin) :=
  (scope.emitting.filter fun binding => binding.separate).map fun binding =>
    (scope.placeWithDescription binding.toBinding, [.content scope binding])

/-- The outline of the bindings of a scope holds those that join the group around them and, apart,
the separate ones. -/
theorem bindingsOutline_eq (scope : Scope) :
    scope.bindingsOutline = ⟨scope.joining, scope.apart⟩ := by
  rw [bindingsOutline, joining, apart, emitting]
  induction scope.bindings with
  | nil => rfl
  | cons binding rest ih =>
      rw [List.map_cons, Outline.join, List.foldr_cons, ← Outline.join, ih, bindingOutline]
      cases hempty : binding.destinations.isEmpty with
      | true =>
          rw [List.filter_cons_of_neg (by simp [hempty])]
          rfl
      | false =>
          rw [List.filter_cons_of_pos (by simp [hempty])]
          cases hseparate : binding.separate <;> simp [hseparate] <;> rfl

end Scope

namespace Site

/-- The origins that a site adds to the group in which it is at home: that of the record which opens
it, and then those of its bindings. -/
def joining (site : Site) : List Origin :=
  site.opening :: site.scope.joining

/-- What is gathered at an address: the origins of all sites that are at home there. -/
def gathered (sites : List Site) (address : List Nat) : List Origin :=
  (sites.filter fun site => site.home = address).flatMap joining

/-- The description of the group of a site. -/
def description (site : Site) : String :=
  if site.scope.layers.isEmpty then site.scope.base.groupDescription else site.scope.description

/-- The groups that stand at a site: its own with what is gathered there, if it is at home with
itself, and then those of its separate bindings. -/
def groups (sites : List Site) (site : Site) : List (String × List Origin) :=
  (if site.home = site.address then [(site.description, gathered sites site.address)] else []) ++
    site.scope.apart

/-- Of the first site what is gathered at an address is its own contribution, if it is at home
there. -/
theorem gathered_cons (site : Site) (rest : List Site) (address : List Nat) :
    gathered (site :: rest) address =
      (if site.home = address then site.joining else []) ++ gathered rest address := by
  rw [gathered, List.filter_cons, gathered]
  split <;> simp_all

/-- What is gathered from two lists of sites is gathered from the first and then from the second. -/
theorem gathered_append (a b : List Site) (address : List Nat) :
    gathered (a ++ b) address = gathered a address ++ gathered b address := by
  rw [gathered, List.filter_append, List.flatMap_append, gathered, gathered]

/-- Nothing is gathered where no site is at home. -/
theorem gathered_eq_nil {sites : List Site} {address : List Nat}
    (h : ∀ site ∈ sites, site.home ≠ address) : gathered sites address = [] := by
  rw [gathered, List.filter_eq_nil_iff.mpr fun site hsite => by simpa using h site hsite]
  rfl

/-- Sites that are at home elsewhere do not matter to the groups at a site. -/
theorem groups_append (before sites after : List Site) {site : Site}
    (hbefore : ∀ other ∈ before, other.home ≠ site.address)
    (hafter : ∀ other ∈ after, other.home ≠ site.address) :
    groups (before ++ (sites ++ after)) site = groups sites site := by
  rw [groups, gathered_append, gathered_append, gathered_eq_nil hbefore, gathered_eq_nil hafter,
    List.nil_append, List.append_nil, groups]

/-- The groups at a site that is at home with itself: what is gathered there comes from the site and
those in it. -/
theorem groups_of_home {own : Site} {later : List Site} (h : own.home = own.address)
    (hlater : gathered later own.address = []) :
    groups (own :: (own.inner ++ later)) own =
      (own.description, own.joining ++ gathered own.inner own.home) :: own.scope.apart := by
  rw [groups, if_pos h, gathered_cons, if_pos h, gathered_append, hlater, List.append_nil, ← h]
  rfl

/-- The groups at a site that is at home further out. -/
theorem groups_of_home_ne {own : Site} {sites : List Site} (h : own.home ≠ own.address) :
    groups sites own = own.scope.apart := by
  rw [groups, if_neg h, List.nil_append]

/-- What is gathered in a site comes from the sites in it, whatever else there is around it and
after it. -/
theorem groups_inner {own : Site} {later : List Site}
    (hlater : ∀ other ∈ later, ∀ address, own.address <+: address → other.home ≠ address) :
    own.inner.flatMap (groups (own :: (own.inner ++ later))) =
      own.inner.flatMap (groups own.inner) := by
  refine List.flatMap_congr fun site hsite => ?_
  have hthrough := Scope.leadsThrough_of_mem hsite
  refine groups_append [own] own.inner later ?_ ?_
  · rw [List.forall_mem_singleton]
    exact home_ne_of_length_lt hthrough.length_lt
  · intro other hother
    exact hlater other hother _ hthrough.isPrefix

end Site

/-! ## The groups of a base -/

namespace Scope

variable {scope : Scope} {address : List Nat}

/-- Nothing in a scope is gathered further out than where the scope is at home. -/
theorem gathered_outward (h : address.length = scope.layers.length) {outer : List Nat}
    (hlt : outer.length < (scope.home address).length) (first : Nat) (forest : Forest Layer) :
    Site.gathered (scope.sitesWithin address first forest) outer = [] := by
  refine Site.gathered_eq_nil fun site hsite heq => ?_
  have hle := (home_isPrefix_of_mem h hsite).length_le
  rw [heq] at hle
  exact absurd hlt (Nat.not_lt.mpr hle)

/-- What the layers of a forest add to the group around them is gathered at its home. -/
theorem own_layersOutline (h : address.length = scope.layers.length) (first : Nat)
    (forest : Forest Layer) :
    (scope.layersOutline forest).own =
      Site.gathered (scope.sitesWithin address first forest) (scope.home address) := by
  induction forest generalizing scope address first with
  | nil => rfl
  | cons layer nested next ihn ihs =>
      let own := scope.siteOf address first layer nested
      have hhere : own.address.length = own.scope.layers.length :=
        length_address_siteOf first layer nested h
      have hhome : own.home = if layer.separate then own.address else scope.home address :=
        home_siteOf first layer nested h
      rw [layersOutline, sitesWithin_cons, Site.gathered_cons, Site.gathered_append, ← ihs h,
        bindingsOutline_eq]
      cases hseparate : layer.separate with
      | true =>
          -- what is in a separate layer stays there
          rw [hseparate, if_pos rfl] at hhome
          have hlt : (scope.home address).length < own.home.length :=
            hhome ▸ scope.length_home_lt address first
          have hne : own.home ≠ scope.home address := fun heq => by simp [heq] at hlt
          have hinner : Site.gathered own.inner (scope.home address) = [] :=
            gathered_outward hhere hlt 0 nested
          rw [if_pos rfl, if_neg hne, hinner]
          rfl
      | false =>
          rw [hseparate, if_neg Bool.false_ne_true] at hhome
          have hinner : (own.scope.layersOutline nested).own =
              Site.gathered own.inner (scope.home address) :=
            (ihn hhere 0).trans (congrArg (Site.gathered own.inner) hhome)
          rw [if_neg Bool.false_ne_true, if_pos hhome, ← hinner]
          exact List.append_assoc own.joining _ _

/-- What is gathered in the later layers of a scope comes from them. -/
theorem groups_later {first : Nat} {next : Forest Layer} {earlier : List Site}
    (hearlier : ∀ other ∈ earlier, address ++ [first] <+: other.address) :
    (scope.sitesWithin address (first + 1) next).flatMap
        (Site.groups (earlier ++ scope.sitesWithin address (first + 1) next)) =
      (scope.sitesWithin address (first + 1) next).flatMap
        (Site.groups (scope.sitesWithin address (first + 1) next)) := by
  refine List.flatMap_congr fun site hsite => ?_
  have happend := Site.groups_append earlier (scope.sitesWithin address (first + 1) next) []
    (fun other hother =>
      Site.home_ne_of_earlier (hearlier other hother) (leadsThrough_of_mem hsite))
    (List.forall_mem_nil _)
  rwa [List.append_nil] at happend

/-- A layer has a group of its own if it is separate, and then with all that joins it. -/
theorem groups_siteOf (h : address.length = scope.layers.length) (first : Nat) (layer : Layer)
    (nested : Forest Layer) {later : List Site}
    (hlater : Site.gathered later (address ++ [first]) = []) :
    Site.groups (scope.siteOf address first layer nested ::
        ((scope.siteOf address first layer nested).inner ++ later))
        (scope.siteOf address first layer nested) =
      (if layer.separate then
        [((scope.enter layer nested).description,
          (scope.siteOf address first layer nested).joining ++
            ((scope.enter layer nested).layersOutline nested).own)]
      else []) ++ (scope.enter layer nested).apart := by
  let own := scope.siteOf address first layer nested
  have hhome : own.home = if layer.separate then own.address else scope.home address :=
    home_siteOf first layer nested h
  cases hseparate : layer.separate with
  | true =>
      rw [hseparate, if_pos rfl] at hhome
      have hdescription : own.description = own.scope.description := if_neg (by simp [own, siteOf])
      have hown : (own.scope.layersOutline nested).own = Site.gathered own.inner own.home :=
        own_layersOutline (length_address_siteOf first layer nested h) 0 nested
      rw [Site.groups_of_home hhome hlater, hdescription, if_pos rfl, ← hown]
      rfl
  | false =>
      rw [hseparate, if_neg Bool.false_ne_true] at hhome
      have hlt : (scope.home address).length < own.address.length :=
        scope.length_home_lt address first
      have hne : own.home ≠ own.address := fun heq => by simp [← hhome, heq] at hlt
      rw [Site.groups_of_home_ne hne, if_neg Bool.false_ne_true]
      rfl

/-- The groups that the layers of a forest set apart stand at its sites. -/
theorem groups_layersOutline (h : address.length = scope.layers.length) (first : Nat)
    (forest : Forest Layer) :
    (scope.layersOutline forest).groups =
      (scope.sitesWithin address first forest).flatMap
        (Site.groups (scope.sitesWithin address first forest)) := by
  induction forest generalizing scope address first with
  | nil => rfl
  | cons layer nested next ihn ihs =>
      let own := scope.siteOf address first layer nested
      let later := scope.sitesWithin address (first + 1) next
      have hhere := length_address_siteOf first layer nested h
      -- nothing in a later layer is at home in this one, and the other way round
      have hapart : ∀ other ∈ later, ∀ inward, own.address <+: inward → other.home ≠ inward :=
        fun other hother _ hinward => Site.home_ne_of_later (leadsThrough_of_mem hother) hinward
      have hnone : Site.gathered later own.address = [] :=
        Site.gathered_eq_nil fun other hother => hapart other hother _ (List.prefix_refl _)
      have hearlier : ∀ other ∈ own :: own.inner, own.address <+: other.address := by
        refine List.forall_mem_cons.mpr ⟨List.prefix_refl _, fun other hother => ?_⟩
        exact (leadsThrough_of_mem hother).isPrefix
      have hinner : own.inner.flatMap (Site.groups (own :: (own.inner ++ later))) =
          (own.scope.layersOutline nested).groups :=
        (Site.groups_inner hapart).trans (ihn hhere 0).symm
      have hlater : later.flatMap (Site.groups (own :: (own.inner ++ later))) =
          (scope.layersOutline next).groups :=
        (groups_later hearlier).trans (ihs h (first + 1)).symm
      rw [layersOutline, sitesWithin_cons, List.flatMap_cons, List.flatMap_append, hinner, hlater,
        groups_siteOf h first layer nested hnone, bindingsOutline_eq]
      cases layer.separate with
      | true => exact List.append_assoc (_ :: own.scope.apart) _ _
      | false => exact List.append_assoc own.scope.apart _ _

end Scope

namespace Base

/-- The groups of a base stand at its sites. -/
theorem outline_eq (base : Base) :
    base.outline = base.sites.flatMap (Site.groups base.sites) := by
  let root := base.rootSite
  have hown : (root.scope.layersOutline base.layers).own = Site.gathered root.inner root.home :=
    Scope.own_layersOutline rfl 0 base.layers
  have hinner : root.inner.flatMap (Site.groups (root :: (root.inner ++ []))) =
      (root.scope.layersOutline base.layers).groups :=
    (Site.groups_inner (by simp)).trans (Scope.groups_layersOutline rfl 0 base.layers).symm
  have hroot : Site.groups (root :: (root.inner ++ [])) root =
      (base.groupDescription, root.joining ++ Site.gathered root.inner root.home) ::
        root.scope.apart :=
    Site.groups_of_home rfl rfl
  rw [List.append_nil] at hinner hroot
  rw [outline, Scope.bindingsOutline_eq, sites, List.flatMap_cons, hroot, hinner, ← hown]
  rfl

/-- The groups of a base are arranged by its sites, and these are the scopes of the base in
pre-order. -/
structure Arranged (base : Base) (outline : List (String × List Origin)) : Prop where
  groups : outline = base.sites.flatMap (Site.groups base.sites)
  scopes : base.sites.map Site.scope = base.scopes
  ordered : base.sites.Pairwise fun a b => a.address < b.address
  homes : ∀ site ∈ base.sites, ∃ owner ∈ base.sites, owner.Houses site
  first : ∃ origins others, outline = (base.groupDescription, .trigger base :: origins) :: others

/-- The outline of a base is arranged by its sites. -/
theorem arranged_outline (base : Base) : base.Arranged base.outline where
  groups := base.outline_eq
  scopes := base.map_scope_sites
  ordered := base.sites_ordered
  homes _ := exists_houses
  first := ⟨_, _, rfl⟩

end Base

/-! ## The groups of devices -/

/-- A substitution stands for something on a device. -/
def Substitution.standsOn (substitution : Substitution) (id : Device.Index) : Bool :=
  substitution.device = some id && substitution.destination.isSome

/-- Only the substitution that stands for something on a device has an origin there. -/
theorem Substitution.map_origin?_eq_some_iff {substitution : Substitution} {id : Device.Index} :
    substitution.origin?.map Prod.fst = some id ↔ substitution.standsOn id = true := by
  rw [origin?, standsOn]
  cases substitution.device <;> cases substitution.destination <;> simp

/-- What is found first in a list is found first in what is taken from it. -/
theorem findIdx_lt_of_idxOf_lt {α β : Type} [BEq β] [LawfulBEq β] {f : α → Option β} {a b : β}
    {list : List α} (h : (list.filterMap f).idxOf a < (list.filterMap f).idxOf b) :
    list.findIdx (f · == some a) < list.findIdx (f · == some b) := by
  induction list with
  | nil => exact h
  | cons first rest ih =>
      rw [List.findIdx_cons, List.findIdx_cons]
      cases hfirst : f first with
      | none =>
          rw [List.filterMap_cons_none hfirst] at h
          simpa using ih h
      | some c =>
          rw [List.filterMap_cons_some hfirst, List.idxOf_cons, List.idxOf_cons] at h
          rw [Option.some_beq_some, Option.some_beq_some]
          cases hca : c == a <;> cases hcb : c == b <;> rw [hca, hcb] at h
          · exact Nat.succ_lt_succ (ih (Nat.lt_of_succ_lt_succ h))
          · exact absurd h (Nat.not_lt_zero _)
          · exact Nat.succ_pos _
          · exact absurd h (Nat.not_lt_zero _)

namespace Config

/-- The devices on which substitutions stand for something, in the order in which they first do. -/
structure DeviceOrder (config : Config) (ids : List Device.Index) : Prop where
  mem_iff : ∀ id, id ∈ ids ↔ ∃ substitution ∈ config.substitutions, substitution.standsOn id = true
  ordered : ids.Pairwise fun a b =>
    config.substitutions.findIdx (·.standsOn a) < config.substitutions.findIdx (·.standsOn b)

/-- The origins of the substitutions that stand for something on a device, in their order. -/
def originsOn (config : Config) (id : Device.Index) : List Origin :=
  (config.substitutions.filter (·.standsOn id)).filterMap fun substitution =>
    substitution.origin?.map Prod.snd

/-- The devices of the origins are those on which substitutions stand for something, in their
order. -/
theorem map_fst_deviceOrigins (config : Config) :
    config.deviceOrigins.map Prod.fst =
      config.substitutions.filterMap fun substitution => substitution.origin?.map Prod.fst := by
  rw [deviceOrigins, List.map_filterMap]

/-- The devices in the order of the groups are those in the order of the substitutions. -/
theorem deviceOrder_eraseDups (config : Config) :
    config.DeviceOrder (config.deviceOrigins.map Prod.fst).eraseDups := by
  have hstands : ∀ id, (fun substitution : Substitution =>
      substitution.origin?.map Prod.fst == some id) = (·.standsOn id) := by
    intro id
    funext substitution
    rw [Bool.eq_iff_iff, beq_iff_eq, Substitution.map_origin?_eq_some_iff]
  refine ⟨fun id => ?_, ?_⟩
  · rw [List.mem_eraseDups, map_fst_deviceOrigins, List.mem_filterMap]
    simp only [Substitution.map_origin?_eq_some_iff]
  · refine (pairwise_idxOf_eraseDups _).imp fun {a b} hlt => ?_
    rw [map_fst_deviceOrigins] at hlt
    rw [← hstands a, ← hstands b]
    exact findIdx_lt_of_idxOf_lt hlt

/-- Among the origins for devices, those for one device are the ones of its substitutions, in
order. -/
theorem originsOn_eq (config : Config) (id : Device.Index) :
    (config.deviceOrigins.filter (·.1 = id)).map Prod.snd = config.originsOn id := by
  rw [deviceOrigins, originsOn]
  induction config.substitutions with
  | nil => rfl
  | cons substitution rest ih =>
      rw [List.filterMap_cons, List.filter_cons, Substitution.standsOn]
      cases hdevice : substitution.device with
      | none => simpa [Substitution.origin?, hdevice] using ih
      | some other => cases hdestination : substitution.destination with
        | none => simpa [Substitution.origin?, hdevice, hdestination] using ih
        | some destination =>
            by_cases hother : other = id <;>
              simpa [Substitution.origin?, hdevice, hdestination, hother] using ih

/-- How the groups of a document stand: those of the bases, base by base, then those of the rules
and then those of the devices. -/
structure Arranged (config : Config) (document : Document)
    (outlines : List (List (String × List Origin))) (ids : List Device.Index) : Prop where
  bases : List.Forall₂ Base.Arranged config.bases outlines
  devices : config.DeviceOrder ids
  groups : document.groups =
    (outlines.flatten ++ config.rules.map (fun rule => (rule.fullDescription, rule.origins)) ++
      ids.map fun id => ("Device " ++ toString id.index ++ " simple maps", config.originsOn id)).map
        (Origin.group config)

end Config

/-- The groups of a document stand in the order of the declarations, and so do the records in every
group. -/
theorem Compiler.document_arranged {compiler : Compiler} {config : Config} {document : Document}
    (h : (compiler.compile config).2 = .ok document) :
    ∃ outlines ids, config.Arranged document outlines ids := by
  obtain ⟨-, rfl⟩ := compile_eq_ok_iff.mp h
  refine ⟨config.bases.map Base.outline, _, ?_, config.deviceOrder_eraseDups, ?_⟩
  · rw [List.forall₂_map_right_iff, List.forall₂_same]
    exact fun base _ => base.arranged_outline
  · rw [Config.output, Config.outline, List.flatten_eq_flatMap, List.flatMap_map]
    simp only [Config.originsOn_eq]
    rfl

/-- A base with a separate binding and with a separate layer, in which another layer is nested that
is not separate; and substitutions on two devices, of which the second is named first. -/
def Config.drawers : Config where
  devices := [⟨.product 7504 24926, .onDevice, false⟩, ⟨.builtIn, .onDevice, false⟩]
  substitutions := [
    { source := ⟨.capsLock, ∅⟩, device := some ⟨1⟩, destination := some ⟨.key .f16, ∅⟩ },
    { source := ⟨.leftCommand, ∅⟩, device := some ⟨0⟩, destination := some ⟨.key .leftOption, ∅⟩ },
    { source := ⟨.leftOption, ∅⟩, device := some ⟨1⟩, destination := some ⟨.key .leftCommand, ∅⟩ }]
  bases := [{
    trigger := ⟨.f16, ∅⟩
    bindings := [
      { source := ⟨.f, ∅⟩, destinations := [⟨.key .a, ∅⟩], separate := true },
      { source := ⟨.g, ∅⟩, destinations := [⟨.key .b, ∅⟩] }]
    layers := .cons
      { key := .w, separate := true,
        bindings := [{ source := ⟨.h, ∅⟩, destinations := [⟨.key .leftArrow, ∅⟩] }] }
      (.cons
        { key := .r, bindings := [{ source := ⟨.j, ∅⟩, destinations := [⟨.key .downArrow, ∅⟩] }] }
        .nil .nil)
      (.cons { key := .t } .nil .nil) }]

/-- The toggle of the last layer stands in the main group, that of the nested one with the layer
around it. -/
theorem Compiler.document_arranged_drawers :
    (({} : Compiler).compile .drawers).2 = .ok Config.drawers.output ∧
      (∃ outlines ids, Config.drawers.Arranged Config.drawers.output outlines ids) ∧
      Config.drawers.output.groups.map (fun group => group.records.map (·.source.key)) =
        [[.f16, .g, .t], [.f], [.w, .h, .r, .j], [.capsLock, .leftOption], [.leftCommand]] := by
  have hcompile : (({} : Compiler).compile .drawers).2 = .ok Config.drawers.output :=
    compile_eq_ok_iff.mpr ⟨Config.drawers.validate_passes_iff.mp (by decide +kernel), rfl⟩
  exact ⟨hcompile, document_arranged hcompile, by decide +kernel⟩

end KeyRemap
