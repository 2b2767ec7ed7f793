import KeyRemap.Proofs.Inventory
import KeyRemap.Proofs.Variables

/-!
# Validation and the document

The document is made by traversals of their own, which resolve every destination again. They visit
nothing that validation has not looked at: a document is made exactly where everything that is
declared can be sent (`Config.document_isOk_iff`), and whatever passes its checks can be, whatever
has been claimed before (`Config.document_of_passes`).
-/

namespace KeyRemap

/-! ## What is sent where a document is made -/

/-- A binding that has its actions can be sent. -/
theorem Binding.sendable_of_actions {binding : Binding} {context : String} {actions : List Action}
    (h : binding.actions context = .ok actions) : binding.Sendable := by
  intro destination hdestination
  exact (destination.action_isOk_iff context).mp (exists_of_mapM_eq_ok h destination hdestination)

namespace Scope

variable {config : Config} {scope : Scope} {layerVariables : List String} {part : Part}

/-- A scope has a part only if its bindings can be sent. -/
theorem sendable_of_bindingsPart (h : scope.bindingsPart config layerVariables = .ok part) :
    ∀ binding ∈ scope.bindings, binding.toBinding.Sendable := by
  intro binding hbinding
  obtain ⟨parts, hparts, -⟩ := bind_eq_ok_iff.mp h
  obtain ⟨own, hown⟩ := exists_of_mapM_eq_ok hparts binding hbinding
  obtain ⟨actions, hactions, -⟩ := bind_eq_ok_iff.mp hown
  exact Binding.sendable_of_actions hactions

/-- The layers of a forest have a part only if the bindings of every layer, at any depth, can be
sent. -/
theorem sendable_of_layersPart {forest : Forest Layer}
    (h : scope.layersPart config layerVariables forest = .ok part) :
    ∀ inner ∈ scope.within forest, ∀ binding ∈ inner.bindings, binding.toBinding.Sendable := by
  induction forest generalizing scope part with
  | nil => simp
  | cons layer nested next ihn ihs =>
      rw [layersPart] at h
      obtain ⟨bindings, hbindings, h⟩ := bind_eq_ok_iff.mp h
      obtain ⟨inner, hinner, h⟩ := bind_eq_ok_iff.mp h
      obtain ⟨later, hlater, -⟩ := bind_eq_ok_iff.mp h
      rw [within_cons, List.forall_mem_cons, List.forall_mem_append]
      exact ⟨sendable_of_bindingsPart hbindings, ihn hinner, ihs hlater⟩

end Scope

/-- A base that has its groups has only bindings that can be sent. -/
theorem Base.sendable_of_groups {config : Config} {base : Base} {layerVariables : List String}
    {groups : List Group} (h : base.groups config layerVariables = .ok groups) :
    ∀ scope ∈ base.scopes, ∀ binding ∈ scope.bindings, binding.toBinding.Sendable := by
  rw [Base.groups] at h
  obtain ⟨bindings, hbindings, h⟩ := bind_eq_ok_iff.mp h
  obtain ⟨layers, hlayers, -⟩ := bind_eq_ok_iff.mp h
  rw [scopes, List.forall_mem_cons]
  exact ⟨Scope.sendable_of_bindingsPart hbindings, Scope.sendable_of_layersPart hlayers⟩

/-- A rule that has its group has only bindings that can be sent. -/
theorem Rule.sendable_of_group {config : Config} {rule : Rule} {group : Group}
    (h : rule.group config = .ok group) :
    ∀ binding ∈ rule.bindings, binding.toBinding.Sendable := by
  intro binding hbinding
  obtain ⟨records, hrecords, -⟩ := bind_eq_ok_iff.mp h
  obtain ⟨own, hown⟩ := exists_of_mapM_eq_ok hrecords binding hbinding
  obtain ⟨actions, hactions, -⟩ := bind_eq_ok_iff.mp hown
  exact Binding.sendable_of_actions hactions

/-- A substitution that has its outcome can be sent. -/
theorem Substitution.sendable_of_outcome {config : Config} {substitution : Substitution}
    {outcome : Option Outcome} (h : substitution.outcome config = .ok outcome) :
    substitution.Sendable := by
  intro destination hdestination
  rw [Substitution.outcome, Option.mem_def.mp hdestination] at h
  obtain ⟨press, hpress, -⟩ := bind_eq_ok_iff.mp h
  exact (destination.keyPress_isOk_iff substitution.context).mp ⟨press, hpress⟩

namespace Config

variable {config : Config}

/-- A configuration has a document exactly where everything that is declared can be sent. -/
theorem document_isOk_iff : (∃ document, config.document = .ok document) ↔ config.Sendable := by
  constructor
  · rintro ⟨document, h⟩
    rw [Config.document] at h
    obtain ⟨bases, hbases, h⟩ := bind_eq_ok_iff.mp h
    obtain ⟨rules, hrules, h⟩ := bind_eq_ok_iff.mp h
    obtain ⟨outcomes, houtcomes, -⟩ := bind_eq_ok_iff.mp h
    refine ⟨fun substitution hsubstitution => ?_, fun scope hscope => ?_, fun rule hrule => ?_⟩
    · obtain ⟨outcome, houtcome⟩ := exists_of_mapM_eq_ok houtcomes substitution hsubstitution
      exact Substitution.sendable_of_outcome houtcome
    · obtain ⟨base, hbase, hscope⟩ := mem_scopes.mp hscope
      obtain ⟨groups, hgroups⟩ := exists_of_mapM_eq_ok hbases base hbase
      exact Base.sendable_of_groups hgroups scope hscope
    · obtain ⟨group, hgroup⟩ := exists_of_mapM_eq_ok hrules rule hrule
      exact Rule.sendable_of_group hgroup
  · intro h
    exact ⟨config.output, document_eq h⟩

end Config

/-! ## What passes -/

/-- A run that goes through refuses nothing, whatever was established when it began. -/
theorem Validation.refusals_eq_nil_of_passes {state : Validation} {checks : List Check}
    (h : (state.run checks).2 = none) : checks.filterMap Check.refusal? = [] := by
  refine List.filterMap_eq_nil_iff.mpr fun check hcheck => ?_
  cases check with
  | refuse violation =>
      -- if the run gets to the refusal, that is where it ends
      obtain ⟨before, after, rfl⟩ := List.append_of_mem hcheck
      rw [run_append] at h
      rcases hrun : state.run before with ⟨next, _ | found⟩ <;> rw [hrun] at h <;> cases h
  | _ => rfl

/-- Once all checks have passed, the document is made without failure, whatever was claimed before
them. Destinations are what it depends on: there is a document exactly where all of them, of
substitutions, of bases and of layers at any depth, and of rules, can be sent to. -/
theorem Config.document_of_passes (config : Config) :
    (∀ state : Validation, (state.run config.checks).2 = none →
      config.document = .ok config.output) ∧
    ((∃ document, config.document = .ok document) ↔ config.Sendable) := by
  refine ⟨fun state h => ?_, document_isOk_iff⟩
  have hsound := config.refusals_checks.mp (Validation.refusals_eq_nil_of_passes h)
  exact document_eq hsound.sendable

/-- The desk has its document, whether its checks are the first or come after a claim. -/
theorem Config.document_of_passes_desk :
    let claimed : Validation := { registry := ⟨[([], [⟨⟨.z, ∅⟩, [], none⟩])]⟩ }
    Config.desk.validate.2 = none ∧ (claimed.run Config.desk.checks).2 = none ∧
      Config.desk.document = .ok Config.desk.output ∧ Config.desk.Sendable := by
  intro claimed
  have hfirst : Config.desk.validate.2 = none := by decide +kernel
  have hclaimed : (claimed.run Config.desk.checks).2 = none := by decide +kernel
  obtain ⟨hdocument, hsendable⟩ := Config.desk.document_of_passes
  exact ⟨hfirst, hclaimed, hdocument claimed hclaimed, hsendable.mp ⟨_, hdocument {} hfirst⟩⟩

end KeyRemap
