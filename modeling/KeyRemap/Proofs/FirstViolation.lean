import KeyRemap.Proofs.FailedRun
import KeyRemap.Proofs.Lowering

/-!
# The first violation

Substitutions are checked before bases and bases before rules, each in the order of declaration, and
the first check that fails ends validation. So nothing that is declared after a violation, in this
order, changes with what a configuration fails or which claims are kept
(`Compiler.first_violation_decides`).
-/

namespace KeyRemap

namespace Config

/-- The configuration with more substitutions, bases and rules after those that are there. -/
def extend (config : Config) (substitutions : List Substitution) (bases : List Base)
    (rules : List Rule) : Config :=
  { config with
    substitutions := config.substitutions ++ substitutions
    bases := config.bases ++ bases
    rules := config.rules ++ rules }

/-- The configuration without its rules. -/
def withoutRules (config : Config) : Config :=
  { config with rules := [] }

/-- The configuration with none of its declarations but the substitutions. -/
def withSubstitutionsOnly (config : Config) : Config :=
  { config with bases := [], rules := [] }

variable (config : Config)

/-- Extending by nothing changes nothing. -/
theorem extend_nil : config.extend [] [] [] = config := by
  simp [extend]

/-! ## Which checks come first -/

/-- Checks of added rules come after all others. -/
theorem checks_isPrefix_extend (rules : List Rule) :
    config.checks <+: (config.extend [] [] rules).checks := by
  have hchecks : (config.extend [] [] rules).checks =
      config.checks ++ rules.flatMap fun rule => rule.bindings.flatMap (HoldBinding.checks config rule) := by
    simp only [checks, extend, List.append_nil, List.flatMap_append, List.append_assoc]
    rfl
  rw [hchecks]
  exact List.prefix_append _ _

/-- Checks of added bases come after those of substitutions and bases. -/
theorem checks_withoutRules_isPrefix_extend (bases : List Base) (rules : List Rule) :
    config.withoutRules.checks <+: (config.extend [] bases rules).checks := by
  have hchecks : config.withoutRules.checks =
      config.substitutions.flatMap (Substitution.checks config) ++
        config.bases.flatMap (Base.checks config) := List.append_nil _
  rw [hchecks, checks, extend, List.append_nil, List.flatMap_append, ← List.append_assoc,
    List.append_assoc]
  exact List.prefix_append _ _

/-- Checks of added substitutions come after those of substitutions. -/
theorem checks_withSubstitutionsOnly_isPrefix_extend (substitutions : List Substitution)
    (bases : List Base) (rules : List Rule) :
    config.withSubstitutionsOnly.checks <+: (config.extend substitutions bases rules).checks := by
  have hchecks : config.withSubstitutionsOnly.checks =
      config.substitutions.flatMap (Substitution.checks config) := by
    show config.substitutions.flatMap _ ++ [] ++ [] = _
    rw [List.append_nil, List.append_nil]
    rfl
  rw [hchecks, checks, extend, List.flatMap_append, List.append_assoc, List.append_assoc]
  exact List.prefix_append _ _

end Config

/-! ## What decides -/

/-- A configuration whose checks go on after those of one that fails compiles to the same violation,
and keeps the same claims. -/
theorem Compiler.compile_eq_of_isPrefix {compiler : Compiler} {a b : Config} {violation : Violation}
    (hchecks : a.checks <+: b.checks) (h : (compiler.compile a).2 = .error violation) :
    compiler.compile b = compiler.compile a := by
  have hfails : a.validate.2 = some violation := compile_eq_error_iff.mp h
  have hvalidate : b.validate = a.validate := by
    obtain ⟨later, hlater⟩ := hchecks
    rw [Config.validate, ← hlater]
    exact Validation.run_append_of_fails hfails later
  rw [compile, compile, hvalidate]
  rcases hrun : a.validate with ⟨state, _ | found⟩
  · rw [hrun] at hfails
    cases hfails
  · rfl

/-- The first violation decides. Rules that are added to a configuration that fails change nothing;
if it fails without its rules, then neither do bases that are added; and if it fails by its
substitutions alone, then neither do substitutions. -/
theorem Compiler.first_violation_decides {compiler : Compiler} {config : Config}
    {violation : Violation} (h : (compiler.compile config).2 = .error violation) :
    (∀ rules, compiler.compile (config.extend [] [] rules) = compiler.compile config) ∧
    ((compiler.compile config.withoutRules).2 = .error violation → ∀ bases rules,
      compiler.compile (config.extend [] bases rules) = compiler.compile config) ∧
    ((compiler.compile config.withSubstitutionsOnly).2 = .error violation →
      ∀ substitutions bases rules,
        compiler.compile (config.extend substitutions bases rules) = compiler.compile config) := by
  refine ⟨fun rules => compile_eq_of_isPrefix (config.checks_isPrefix_extend rules) h,
    fun hwithout bases rules => ?_, fun honly substitutions bases rules => ?_⟩
  · -- what is added and what was there both come after the checks that already fail
    have hconfig := config.checks_withoutRules_isPrefix_extend [] []
    have hextended := config.checks_withoutRules_isPrefix_extend bases rules
    rw [config.extend_nil] at hconfig
    rw [compile_eq_of_isPrefix hextended hwithout, compile_eq_of_isPrefix hconfig hwithout]
  · have hconfig := config.checks_withSubstitutionsOnly_isPrefix_extend [] [] []
    have hextended := config.checks_withSubstitutionsOnly_isPrefix_extend substitutions bases rules
    rw [config.extend_nil] at hconfig
    rw [compile_eq_of_isPrefix hextended honly, compile_eq_of_isPrefix hconfig honly]

/-- Two substitutions of the same key, a base with a layer that binds its own key, and a rule with a
blank command. -/
def Config.flawed : Config where
  substitutions := [
    { source := ⟨.capsLock, ∅⟩, destination := some ⟨.key .escape, ∅⟩ },
    { source := ⟨.capsLock, ∅⟩, destination := some ⟨.key .f16, ∅⟩ }]
  rules := [{ bindings := [{ source := ⟨.a, ∅⟩, hold := some ⟨.shell "", {}⟩ }] }]
  bases := [{
    trigger := ⟨.f16, ∅⟩
    layers := .cons
      { key := .w, bindings := [{ source := ⟨.w, ∅⟩, destinations := [⟨.key .a, ∅⟩] }] } .nil .nil }]

/-- The second substitution decides, whatever is wrong with what is there and with what is added, and
only the claim of the first one is kept. -/
theorem Compiler.first_violation_decides_flawed :
    let compiler : Compiler := {}
    let violation := Violation.duplicateKey ⟨.capsLock, ∅⟩ "Config.map(caps_lock)"
    (compiler.compile .flawed).2 = .error violation ∧
      (compiler.compile Config.flawed.withoutRules).2 = .error violation ∧
      (compiler.compile Config.flawed.withSubstitutionsOnly).2 = .error violation ∧
      (compiler.compile .flawed).1.registry.size = 1 ∧
      compiler.compile (Config.flawed.extend [] [] Config.flawed.rules) = compiler.compile .flawed ∧
      compiler.compile (Config.flawed.extend [] Config.flawed.bases Config.flawed.rules) =
        compiler.compile .flawed ∧
      compiler.compile (Config.flawed.extend Config.flawed.substitutions Config.flawed.bases
        Config.flawed.rules) = compiler.compile .flawed := by
  intro compiler violation
  have hflawed : (compiler.compile .flawed).2 = .error violation :=
    compile_eq_error_iff.mpr (by decide +kernel)
  have hwithout : (compiler.compile Config.flawed.withoutRules).2 = .error violation :=
    compile_eq_error_iff.mpr (by decide +kernel)
  have honly : (compiler.compile Config.flawed.withSubstitutionsOnly).2 = .error violation :=
    compile_eq_error_iff.mpr (by decide +kernel)
  obtain ⟨hrules, hbases, hsubstitutions⟩ := first_violation_decides hflawed
  exact ⟨hflawed, hwithout, honly, by decide +kernel, hrules _, hbases hwithout _ _,
    hsubstitutions honly _ _ _⟩

end KeyRemap
