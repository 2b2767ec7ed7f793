import KeyRemap.Base.Groups
import KeyRemap.Rule.Group
import KeyRemap.Substitution.Outcome

/-!
# The document of a configuration

The groups of the bases come first, each base with what it sets apart, then the groups of the rules,
and then one group for every device that has substitutions.
-/

namespace KeyRemap

/-- The document of a configuration. On a valid one this does not fail, since every destination can
be sent. -/
def Config.document (config : Config) : Except Violation Document := do
  let layerVariables := config.layerVariables
  let bases ← config.bases.mapM (Base.groups config layerVariables)
  let rules ← config.rules.mapM (Rule.group config)
  let outcomes := (← config.substitutions.mapM (Substitution.outcome config)).reduceOption
  return {
    showInMenuBar := config.showInMenuBar
    profile := config.profile
    devices := config.devices.map fun device => ⟨device.identifiers.forProfile, device.ignored⟩
    simpleModifications := Substitution.modifications outcomes
    groups := bases.flatten ++ rules ++
      Substitution.deviceGroups (Substitution.deviceRecords outcomes) }

end KeyRemap
