import KeyRemap.Proofs.Origin
import KeyRemap.Proofs.ScopeTree
import Mathlib.Data.List.DropRight

/-!
# Sites

A site is a scope of a base at its place in the tree of layers. The place is given by an address,
and the address of a scope on the way is an initial part of it. The home of a site is the address of
the innermost scope on the way that has a group of its own (`Base.exists_houses`). Sites are listed
in pre-order, which is the order of their addresses (`Base.sites_ordered`).
-/

namespace KeyRemap

/-- A scope of a base, with the origin of the record that opens it. The address counts, for every
layer on the way, the layers declared before it in the same scope. -/
structure Site where
  address : List Nat
  opening : Origin
  scope : Scope

namespace Scope

/-- The layers on the way up to the innermost one that is separate; none if there is no such
layer. -/
def separatedLayers (scope : Scope) : List Layer :=
  scope.layers.rdropWhile fun layer => !layer.separate

/-- The address of the scope that is reached through those layers. -/
def home (scope : Scope) (address : List Nat) : List Nat :=
  address.take scope.separatedLayers.length

/-- The site of a layer that is declared directly in the scope at `address`, after `first`
others. -/
def siteOf (scope : Scope) (address : List Nat) (first : Nat) (layer : Layer)
    (nested : Forest Layer) : Site :=
  ⟨address ++ [first], .toggle scope layer nested, scope.enter layer nested⟩

/-- The sites of the layers of a forest that is declared directly in the scope at `address`, after
`first` layers that are declared there before it. -/
def sitesWithin (scope : Scope) (address : List Nat) (first : Nat) : Forest Layer → List Site
  | .nil => []
  | .cons layer nested next =>
    scope.siteOf address first layer nested ::
      ((scope.enter layer nested).sitesWithin (address ++ [first]) 0 nested ++
        scope.sitesWithin address (first + 1) next)

end Scope

/-- The address of the innermost scope on the way that has a group of its own. -/
def Site.home (site : Site) : List Nat :=
  site.scope.home site.address

/-- The sites of the layers in a site. -/
def Site.inner (site : Site) : List Site :=
  site.scope.sitesWithin site.address 0 site.scope.nested

/-- A site has a group of its own, and another site is at home there: its layers are those on the
way to the other up to the innermost separate one. -/
structure Site.Houses (owner site : Site) : Prop where
  own : owner.home = owner.address
  home : site.home = owner.address
  layers : site.scope.separatedLayers = owner.scope.layers

/-- The site of a base itself. -/
def Base.rootSite (base : Base) : Site :=
  ⟨[], .trigger base, .ofBase base⟩

/-- All sites of a base, in pre-order. -/
def Base.sites (base : Base) : List Site :=
  base.rootSite :: base.rootSite.inner

/-! ## Addresses -/

/-- An address leads through one of the layers of the scope at `outer`, after the first ones. -/
def LeadsThrough (outer : List Nat) (first : Nat) (address : List Nat) : Prop :=
  ∃ n, first ≤ n ∧ outer ++ [n] <+: address

namespace LeadsThrough

variable {outer address other : List Nat} {first n : Nat}

/-- An address that goes on from that of a layer leads through the layer. -/
theorem of_isPrefix (h : outer ++ [first] <+: address) : LeadsThrough outer first address :=
  ⟨first, Nat.le_refl _, h⟩

/-- What leads through a later layer leads through one after the first ones. -/
theorem mono (h : LeadsThrough outer n address) (hn : first ≤ n) :
    LeadsThrough outer first address :=
  h.imp fun _ hm => ⟨hn.trans hm.1, hm.2⟩

/-- What goes on from an address leads through the same layer. -/
theorem trans (h : LeadsThrough outer first address) (hother : address <+: other) :
    LeadsThrough outer first other :=
  h.imp fun _ hm => ⟨hm.1, hm.2.trans hother⟩

/-- Such an address lies within that of the scope. -/
theorem isPrefix (h : LeadsThrough outer first address) : outer <+: address := by
  obtain ⟨m, -, hm⟩ := h
  exact (List.prefix_append _ _).trans hm

/-- An address leads through one layer of a scope only. -/
theorem not_isPrefix (h : LeadsThrough outer (first + 1) address) :
    ¬ outer ++ [first] <+: address := by
  obtain ⟨m, hm, hprefix⟩ := h
  intro hfirst
  have hlength : (outer ++ [first]).length = (outer ++ [m]).length := by simp
  have hsame := (List.prefix_of_prefix_length_le hfirst hprefix hlength.le).eq_of_length hlength
  have heq : first = m := by simpa using hsame
  omega

/-- An address that leads through a layer is longer than that of the scope. -/
theorem length_lt (h : LeadsThrough outer first address) : outer.length < address.length := by
  obtain ⟨m, -, hm⟩ := h
  simpa [Nat.succ_le_iff] using hm.length_le

/-- An address comes before those that lead further. -/
theorem lt_of_outer (h : LeadsThrough outer first address) : outer < address := by
  obtain ⟨m, -, rest, rfl⟩ := h
  have hlt : outer ++ [] < outer ++ m :: rest := List.append_left_lt (List.nil_lt_cons _ _)
  simpa using hlt

/-- Addresses through a layer come before those through a later layer of the same scope. -/
theorem earlier_lt (h : LeadsThrough outer (first + 1) address)
    (hother : outer ++ [first] <+: other) : other < address := by
  obtain ⟨m, hm, rest, rfl⟩ := h
  obtain ⟨inner, rfl⟩ := hother
  have hlt : outer ++ first :: inner < outer ++ m :: rest :=
    List.append_left_lt (List.cons_lt_cons_iff.mpr (Or.inl hm))
  simpa using hlt

end LeadsThrough

namespace Scope

/-- The home of a scope lies on the way to it. -/
theorem home_isPrefix (scope : Scope) (address : List Nat) : scope.home address <+: address :=
  List.take_prefix _ _

/-- On entering a layer that is separate the way up to it counts, and else what counted before. -/
theorem separatedLayers_enter (scope : Scope) (layer : Layer) (nested : Forest Layer) :
    (scope.enter layer nested).separatedLayers =
      if layer.separate then scope.layers ++ [layer] else scope.separatedLayers := by
  rw [separatedLayers, layers_enter, List.rdropWhile_concat, separatedLayers]
  cases layer.separate <;> rfl

/-- A layer lies further in than the home of the scope around it. -/
theorem length_home_lt (scope : Scope) (address : List Nat) (first : Nat) :
    (scope.home address).length < (address ++ [first]).length :=
  Nat.lt_of_le_of_lt (scope.home_isPrefix address).length_le (by simp)

section siteOf

variable {scope : Scope} {address : List Nat} (first : Nat) (layer : Layer) (nested : Forest Layer)

/-- The site of the first layer comes before those in it, and these before the sites of later
layers. -/
theorem sitesWithin_cons (next : Forest Layer) :
    scope.sitesWithin address first (.cons layer nested next) =
      scope.siteOf address first layer nested ::
        ((scope.siteOf address first layer nested).inner ++
          scope.sitesWithin address (first + 1) next) := rfl

/-- The address of a layer counts the layers on the way to it. -/
theorem length_address_siteOf (h : address.length = scope.layers.length) :
    (scope.siteOf address first layer nested).address.length =
      (scope.siteOf address first layer nested).scope.layers.length := by
  simp [siteOf, h]

/-- A layer that is separate is at home with itself, any other where the scope around it is. -/
theorem home_siteOf (h : address.length = scope.layers.length) :
    (scope.siteOf address first layer nested).home =
      if layer.separate then address ++ [first] else scope.home address := by
  show (scope.enter layer nested).home (address ++ [first]) = _
  rw [home, separatedLayers_enter]
  cases layer.separate with
  | true =>
      refine List.take_of_length_le ?_
      simp [h]
  | false =>
      refine List.take_append_of_le_length ?_
      rw [h]
      exact (List.rdropWhile_prefix _ _).length_le

end siteOf

end Scope

namespace Site

variable {site : Site} {outer other : List Nat} {first : Nat}

/-- The home of a site lies on the way to it. -/
theorem home_isPrefix (site : Site) : site.home <+: site.address :=
  site.scope.home_isPrefix site.address

/-- A site is at home nowhere deeper than it is itself. -/
theorem home_ne_of_length_lt (h : site.address.length < other.length) : site.home ≠ other := by
  rintro rfl
  exact absurd h (Nat.not_lt.mpr site.home_isPrefix.length_le)

/-- A site in a later layer of a scope is not at home in an earlier one. -/
theorem home_ne_of_later (h : LeadsThrough outer (first + 1) site.address)
    (hother : outer ++ [first] <+: other) : site.home ≠ other := by
  rintro rfl
  exact h.not_isPrefix (hother.trans site.home_isPrefix)

/-- A site in an earlier layer of a scope is not at home in a later one. -/
theorem home_ne_of_earlier (h : outer ++ [first] <+: site.address)
    (hother : LeadsThrough outer (first + 1) other) : site.home ≠ other := by
  rintro rfl
  exact (hother.trans site.home_isPrefix).not_isPrefix h

end Site

namespace Scope

variable {scope : Scope} {address : List Nat} {first : Nat} {forest : Forest Layer}

/-- The sites of a forest lie in the scope in which it is declared. -/
theorem leadsThrough_of_mem {site : Site} (h : site ∈ scope.sitesWithin address first forest) :
    LeadsThrough address first site.address := by
  induction forest generalizing scope address first with
  | nil => cases h
  | cons layer nested next ihn ihs =>
      rw [sitesWithin, List.mem_cons, List.mem_append] at h
      rcases h with rfl | h | h
      · exact .of_isPrefix (List.prefix_refl _)
      · exact .of_isPrefix (ihn h).isPrefix
      · exact (ihs h).mono (Nat.le_succ first)

/-- Pre-order is the order of the addresses. -/
theorem sitesWithin_ordered (scope : Scope) (address : List Nat) (first : Nat)
    (forest : Forest Layer) :
    (scope.sitesWithin address first forest).Pairwise fun a b => a.address < b.address := by
  induction forest generalizing scope address first with
  | nil => exact List.Pairwise.nil
  | cons layer nested next ihn ihs =>
      rw [sitesWithin, List.pairwise_cons, List.pairwise_append]
      refine ⟨?_, ihn _ _ _, ihs _ _ _, ?_⟩
      · intro site hsite
        rcases List.mem_append.mp hsite with hsite | hsite
        · exact (leadsThrough_of_mem hsite).lt_of_outer
        · exact (leadsThrough_of_mem hsite).earlier_lt (List.prefix_refl _)
      · intro a ha b hb
        exact (leadsThrough_of_mem hb).earlier_lt (leadsThrough_of_mem ha).isPrefix

/-- The sites of a forest are the scopes within it, in pre-order. -/
theorem map_scope_sitesWithin (scope : Scope) (address : List Nat) (first : Nat)
    (forest : Forest Layer) :
    (scope.sitesWithin address first forest).map Site.scope = scope.within forest := by
  induction forest generalizing scope address first with
  | nil => rfl
  | cons layer nested next ihn ihs =>
      rw [sitesWithin, List.map_cons, List.map_append, ihn, ihs, within_cons, siteOf]

/-! ## Homes -/

/-- The home of a scope lies on the way to the homes of the scopes in it. -/
theorem home_isPrefix_of_mem (h : address.length = scope.layers.length) {site : Site}
    (hsite : site ∈ scope.sitesWithin address first forest) : scope.home address <+: site.home := by
  induction forest generalizing scope address first with
  | nil => cases hsite
  | cons layer nested next ihn ihs =>
      have hown : scope.home address <+: (scope.siteOf address first layer nested).home := by
        rw [home_siteOf first layer nested h]
        split
        · exact (scope.home_isPrefix address).trans (List.prefix_append _ _)
        · exact List.prefix_refl _
      rw [sitesWithin, List.mem_cons, List.mem_append] at hsite
      rcases hsite with rfl | hsite | hsite
      · exact hown
      · exact hown.trans (ihn (length_address_siteOf first layer nested h) hsite)
      · exact ihs h hsite

/-- A site of a forest is at home where the scope around the forest is, or at a site of the
forest. -/
theorem home_of_mem (h : address.length = scope.layers.length) {site : Site}
    (hsite : site ∈ scope.sitesWithin address first forest) :
    (site.home = scope.home address ∧ site.scope.separatedLayers = scope.separatedLayers) ∨
    ∃ owner ∈ scope.sitesWithin address first forest, owner.Houses site := by
  induction forest generalizing scope address first with
  | nil => cases hsite
  | cons layer nested next ihn ihs =>
      let own := scope.siteOf address first layer nested
      -- what is at home where the layer is, is at home in the layer or around it
      have hown : ∀ site : Site, site.home = own.home →
          site.scope.separatedLayers = own.scope.separatedLayers →
          (site.home = scope.home address ∧ site.scope.separatedLayers = scope.separatedLayers) ∨
            own.Houses site := by
        intro site hhome hlayers
        have hownHome : own.home = if layer.separate then own.address else scope.home address :=
          home_siteOf first layer nested h
        have hownLayers : own.scope.separatedLayers =
            if layer.separate then own.scope.layers else scope.separatedLayers :=
          separatedLayers_enter scope layer nested
        cases hseparate : layer.separate with
        | true =>
            rw [hseparate, if_pos rfl] at hownHome hownLayers
            exact Or.inr ⟨hownHome, hhome.trans hownHome, hlayers.trans hownLayers⟩
        | false =>
            rw [hseparate, if_neg Bool.false_ne_true] at hownHome hownLayers
            exact Or.inl ⟨hhome.trans hownHome, hlayers.trans hownLayers⟩
      rw [sitesWithin_cons, List.mem_cons, List.mem_append] at hsite
      rw [sitesWithin_cons]
      rcases hsite with rfl | hsite | hsite
      · exact (hown own rfl rfl).imp id fun howner => ⟨own, List.mem_cons_self, howner⟩
      · have hhere := length_address_siteOf first layer nested h
        rcases ihn hhere hsite with ⟨hhome, hlayers⟩ | ⟨owner, howner, hhouses⟩
        · exact (hown _ hhome hlayers).imp id fun howner => ⟨own, List.mem_cons_self, howner⟩
        · exact Or.inr ⟨owner, List.mem_cons_of_mem _ (List.mem_append_left _ howner), hhouses⟩
      · rcases ihs h hsite with heq | ⟨owner, howner, hhouses⟩
        · exact Or.inl heq
        · exact Or.inr ⟨owner, List.mem_cons_of_mem _ (List.mem_append_right _ howner), hhouses⟩

end Scope

namespace Base

/-- The sites of a base are its scopes, in pre-order. -/
theorem map_scope_sites (base : Base) : base.sites.map Site.scope = base.scopes := by
  rw [sites, List.map_cons, Site.inner, Scope.map_scope_sitesWithin]
  rfl

/-- The addresses of the sites of a base increase. -/
theorem sites_ordered (base : Base) : base.sites.Pairwise fun a b => a.address < b.address := by
  refine List.pairwise_cons.mpr ⟨?_, Scope.sitesWithin_ordered _ _ _ _⟩
  intro site hsite
  exact (Scope.leadsThrough_of_mem hsite).lt_of_outer

/-- Every site is at home at a site that has a group of its own. -/
theorem exists_houses {base : Base} {site : Site} (h : site ∈ base.sites) :
    ∃ owner ∈ base.sites, owner.Houses site := by
  rcases List.mem_cons.mp h with rfl | h
  · exact ⟨_, List.mem_cons_self, rfl, rfl, rfl⟩
  · have hroot : ([] : List Nat).length = (Scope.ofBase base).layers.length := rfl
    rcases Scope.home_of_mem hroot h with ⟨hhome, hlayers⟩ | ⟨owner, howner, hhouses⟩
    · exact ⟨base.rootSite, List.mem_cons_self, rfl, hhome, hlayers⟩
    · exact ⟨owner, List.mem_cons_of_mem _ howner, hhouses⟩

end Base

end KeyRemap
