import KeyRemap.Proofs.CheckRun

/-!
# Runs that fail

A run that fails stops at the first check that does (`Validation.exists_of_run_fails`), whatever
checks follow (`Validation.run_append_of_fails`). `Check.Blames` says what that check finds wrong in
terms of the checks made before it, and `Validation.Established.exists_blames` finds it in the run.
-/

namespace KeyRemap

/-- What a check that fails finds wrong, where `done` are the checks made before it: a claim that
conflicts with a new one, an owner of the same variable with another path, or the refusal that the
check is. -/
inductive Check.Blames (done : List Check) : Check → Violation → Prop where
  | claim {held claim : Claim} {context : String} (before : held ∈ done.filterMap Check.claim?)
      (conflict : held.Conflict claim) :
      Blames done (.claim claim context) (.duplicateKey claim.combo context)
  | own {first : Owner} {name : String} {path : List Combo} {description : String}
      (before : first ∈ done.filterMap Check.owner?) (same : first.name = name)
      (differs : ¬ SamePath first.path path) :
      Blames done (.own name path description)
        (.variableCollision name first.description description)
  | refuse (violation : Violation) : Blames done (.refuse violation) violation

namespace Validation

/-- A run that fails makes none of the checks that follow. -/
theorem run_append_of_fails {state : Validation} {first : List Check}
    {violation : Violation} (h : (state.run first).2 = some violation) (second : List Check) :
    state.run (first ++ second) = state.run first := by
  rw [run_append]
  rcases hrun : state.run first with ⟨last, _ | found⟩
  · rw [hrun] at h
    cases h
  · rfl

/-- A check that fails does so because of what has been established. -/
theorem Established.blames {state : Validation} {done : List Check} {check : Check}
    {violation : Violation} (h : Established state done)
    (hstep : state.step check = .error violation) : check.Blames done violation := by
  cases check with
  | claim claim context =>
      rw [Validation.step, Registry.register] at hstep
      cases hcontains : state.registry.contains claim with
      | false =>
          rw [hcontains] at hstep
          cases hstep
      | true =>
          rw [hcontains] at hstep
          cases hstep
          obtain ⟨held, hmem, hconflict⟩ := (Registry.contains_iff h.grouped).mp hcontains
          exact .claim ((h.claims held).mp hmem) hconflict
  | own name path description =>
      rw [Validation.step, Validation.own] at hstep
      split at hstep
      · cases hstep
      · next first hfirst =>
          split at hstep
          · cases hstep
          · next hpath =>
              cases hstep
              refine .own (h.owned first (List.mem_of_find?_eq_some hfirst)) ?_ ?_
              · simpa using List.find?_some hfirst
              · exact fun hsame => hpath (samePath_iff.mp hsame)
  | refuse found =>
      cases hstep
      exact .refuse _

/-- A run that fails has passed all checks before the one at which it stops, and keeps what those have
established. -/
theorem exists_of_run_fails {state last : Validation} {checks : List Check} {violation : Violation}
    (h : state.run checks = (last, some violation)) :
    ∃ passed check later, checks = passed ++ check :: later ∧ state.run passed = (last, none) ∧
      last.step check = .error violation := by
  induction checks generalizing state with
  | nil => cases h
  | cons check rest ih =>
      rw [run] at h
      cases hstep : state.step check with
      | error found =>
          rw [hstep] at h
          cases h
          exact ⟨[], check, rest, rfl, rfl, hstep⟩
      | ok next =>
          rw [hstep] at h
          obtain ⟨passed, failed, later, rfl, hpassed, hfailed⟩ := ih h
          exact ⟨check :: passed, failed, later, rfl, by rw [run, hstep]; exact hpassed, hfailed⟩

/-- What a run that goes through has checked is established with what was before. -/
theorem Established.run {state last : Validation} {done checks : List Check}
    (h : Established state done) (hrun : state.run checks = (last, none)) :
    Established last (done ++ checks) := by
  induction checks generalizing state done with
  | nil =>
      cases hrun
      rwa [List.append_nil]
  | cons check rest ih =>
      obtain ⟨next, hstep, hrest⟩ := exists_of_run_cons_passes hrun
      rw [List.append_cons]
      exact ih (h.step hstep) hrest

/-- A run that fails has a first check that fails, and blames what that check does. -/
theorem Established.exists_blames {state : Validation} {done rest : List Check}
    {violation : Violation} (h : Established state done)
    (hrun : (state.run rest).2 = some violation) :
    ∃ passed check later, rest = passed ++ check :: later ∧
      check.Blames (done ++ passed) violation := by
  have hfails : state.run rest = ((state.run rest).1, some violation) := Prod.ext rfl hrun
  obtain ⟨passed, check, later, hrest, hpassed, hstep⟩ := exists_of_run_fails hfails
  exact ⟨passed, check, later, hrest, (h.run hpassed).blames hstep⟩

end Validation

end KeyRemap
