import KeyRemap.Proofs.Assignment
import KeyRemap.Proofs.Claims

/-!
# Bindings of different scopes exclude each other

Two bindings that want the same combination on a common device are in force at different times: if
one assignment meets the guards of both, their scopes have the same path, and then their claims
conflict. Bindings of two different bases are left out, since the guards of a base say nothing of
other bases.
-/

namespace KeyRemap

/-! ## Claims of the records of bindings -/

/-- The claim of a binding in a scope. -/
def Scope.claimOf (config : Config) (content : Scope × ScopedBinding) : Claim :=
  ⟨content.2.source, content.1.path, content.1.device? config⟩

/-- In a valid configuration no two records of bindings come from conflicting claims. -/
theorem Config.Valid.pairwise_claimOf {config : Config} (h : config.Valid) :
    config.origins.Pairwise fun a b => ∀ s ∈ a.content?, ∀ t ∈ b.content?,
      ¬ (Scope.claimOf config s).Conflict (Scope.claimOf config t) := by
  have hclaim : ∀ origin : Origin, ∀ content ∈ origin.content?,
      Scope.claimOf config content ∈ origin.claim? config := by
    intro origin content hcontent
    cases origin with
    | content scope binding =>
        obtain rfl := Option.some.inj hcontent
        rfl
    | _ => cases hcontent
  refine h.pairwise_claim?.imp ?_
  intro a b hab s hs t ht
  exact hab _ (hclaim a s hs) _ (hclaim b t ht)

/-! ## Exclusion -/

/-- Two records compete when they are those of bindings of scopes which want the same combination on
a common device, and not of bindings of two different bases. -/
inductive Origin.Competes (config : Config) : Origin → Origin → Prop where
  | contents {s t : Scope} {a b : ScopedBinding} (source : a.source ≈ b.source)
      (device : DevicesOverlap (s.device? config) (t.device? config))
      (bases : ¬ (s.layers = [] ∧ t.layers = [] ∧ s.base ≠ t.base)) :
      Competes config (.content s a) (.content t b)

/-- No two records that compete have guards which one assignment meets. -/
theorem Compiler.competitors_exclude {compiler : Compiler} {config : Config} {document : Document}
    (h : (compiler.compile config).2 = .ok document) :
    config.Traced document config.origins ∧
      config.origins.Pairwise fun a b => a.Competes config b → ∀ assignment : Assignment,
        ¬ (assignment.Meets (a.record config).guards ∧
          assignment.Meets (b.record config).guards) := by
  obtain ⟨hvalid, rfl⟩ := compile_eq_ok_iff.mp h
  refine ⟨config.traced_output, hvalid.pairwise_claimOf.imp_of_mem ?_⟩
  rintro _ _ hs ht hclaims (@⟨s, t, a, b, hsource, hdevice, hbases⟩) assignment ⟨hsmet, htmet⟩
  have hsmem := (Config.content_mem_declared.mp (config.origins_perm_declared.subset hs)).1
  have htmem := (Config.content_mem_declared.mp (config.origins_perm_declared.subset ht)).1
  -- two bases are left only if they are one
  have hpath : SamePath s.path t.path := by
    rcases hvalid.samePath_of_meets hsmem htmem hsmet htmet with hpath | ⟨hsl, htl⟩
    · exact hpath
    · have hbase : s.base = t.base := by
        by_contra hne
        exact hbases ⟨hsl, htl, hne⟩
      rw [Scope.path, Scope.path, hsl, htl, hbase]
      exact SamePath.refl _
  exact hclaims (s, a) rfl (t, b) rfl ⟨hsource, hpath, hdevice⟩

/-- The layers of a base that bind the same key compete, and their records exclude each other. -/
theorem Compiler.competitors_exclude_arrows :
    (({} : Compiler).compile .arrows).2 = .ok Config.arrows.output ∧
      ∃ a b, Config.arrows.origins[3]? = some a ∧ Config.arrows.origins[5]? = some b ∧
        a.Competes .arrows b ∧ ∀ assignment : Assignment,
          ¬ (assignment.Meets (a.record .arrows).guards ∧
            assignment.Meets (b.record .arrows).guards) := by
  have hcompetes : Config.arrows.origins[3].Competes .arrows Config.arrows.origins[5] :=
    .contents rfl (Or.inl rfl) fun hbases => absurd hbases.1 (by decide)
  have hexclude := (competitors_exclude compile_arrows).2
  exact ⟨compile_arrows, _, _, rfl, rfl, hcompetes,
    List.pairwise_iff_getElem.mp hexclude 3 5 (by decide) (by decide) (by decide) hcompetes⟩

end KeyRemap
