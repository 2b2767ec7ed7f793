import KeyRemap.Proofs.CheckRun
import Mathlib.Data.List.DropRight
import Mathlib.Data.List.Induction

/-!
# The history of a registry

A registry is used step by step: claims are made and looked for, and now and then all of them are
forgotten. A transcript holds every step with what it reported, and `Registry.standing` reads off a
transcript which claims were accepted since the last reset. After any history the registry reports
what that list alone decides (`Registry.reflects_standing`); so a fresh registry accepts a list of
claims in full exactly when no two of them conflict, in whatever order they are made.
-/

namespace KeyRemap

namespace Registry

/-! ## Steps and transcripts -/

/-- A step in the use of a registry. -/
inductive Step where
  | register (claim : Claim) (context : String)
  | contains (claim : Claim)
  | reset
  deriving DecidableEq, Repr

/-- What a step reports. -/
inductive Answer where
  | accepted
  | refused (violation : Violation)
  | found (conflict : Bool)
  | forgotten
  deriving DecidableEq, Repr

/-- Takes one step. A claim that is refused leaves the registry as it was. -/
def step (registry : Registry) : Step → Registry × Answer
  | .register claim context =>
    match registry.register claim context with
    | .ok next => (next, .accepted)
    | .error violation => (registry, .refused violation)
  | .contains claim => (registry, .found (registry.contains claim))
  | .reset => (∅, .forgotten)

/-- Takes steps one after another and writes down what each of them reports. -/
def run (registry : Registry) : List Step → Registry × List (Step × Answer)
  | [] => (registry, [])
  | step :: rest =>
    let (next, answer) := registry.step step
    let (last, transcript) := next.run rest
    (last, (step, answer) :: transcript)

/-- The claim that was accepted, if one was. -/
def accepted? : Step × Answer → Option Claim
  | (.register claim _, .accepted) => some claim
  | _ => none

/-- The claims that were accepted since the last reset, or since the beginning if there was none. -/
def standing (transcript : List (Step × Answer)) : List Claim :=
  (transcript.rtakeWhile fun entry => entry.1 ≠ .reset).filterMap accepted?

/-- A run takes the first step, and then the rest from where that step leads. -/
theorem run_cons (registry : Registry) (first : Step) (rest : List Step) :
    registry.run (first :: rest) =
      (((registry.step first).1.run rest).1,
        (first, (registry.step first).2) :: ((registry.step first).1.run rest).2) := rfl

/-- The last step is taken on the registry that the steps before it have left. -/
theorem run_concat (registry : Registry) (steps : List Step) (last : Step) :
    registry.run (steps ++ [last]) =
      (((registry.run steps).1.step last).1,
        (registry.run steps).2 ++ [(last, ((registry.run steps).1.step last).2)]) := by
  induction steps generalizing registry with
  | nil => rfl
  | cons first rest ih => rw [List.cons_append, run_cons, run_cons, ih, List.cons_append]

/-- After a reset no claim stands. -/
theorem standing_reset (transcript : List (Step × Answer)) (answer : Answer) :
    standing (transcript ++ [(.reset, answer)]) = [] := by
  rw [standing, List.rtakeWhile_concat_neg _ _ _ (by simp)]
  rfl

/-- After any other step the same claims stand, and the one that the step had accepted. -/
theorem standing_concat (transcript : List (Step × Answer)) {step : Step} (h : step ≠ .reset)
    (answer : Answer) :
    standing (transcript ++ [(step, answer)]) =
      standing transcript ++ (accepted? (step, answer)).toList := by
  rw [standing, List.rtakeWhile_concat_pos _ _ _ (by simpa using h), List.filterMap_append,
    standing]
  rfl

/-! ## What a registry holds -/

/-- A registry holds the claims of a list, each in the group of its path. -/
structure Holds (registry : Registry) (claims : List Claim) : Prop where
  grouped : Grouped registry.groups
  perm : registry.claims.Perm claims

/-- The empty registry holds no claims. -/
theorem holds_empty : Holds ∅ [] :=
  ⟨⟨List.nodup_nil, by simp [EmptyCollection.emptyCollection, empty]⟩, List.Perm.refl _⟩

/-- A registry that holds claims finds a conflict exactly with what conflicts with one of them. -/
theorem Holds.contains_iff {registry : Registry} {claims : List Claim} (h : Holds registry claims)
    {claim : Claim} :
    registry.contains claim = true ↔ ∃ held ∈ claims, held.Conflict claim := by
  simp only [Registry.contains_iff h.grouped, h.perm.mem_iff]

/-- Every step keeps the registry at the claims that stand. -/
theorem Holds.step {registry : Registry} {transcript : List (Step × Answer)}
    (h : Holds registry (standing transcript)) (step : Step) :
    Holds (registry.step step).1 (standing (transcript ++ [(step, (registry.step step).2)])) := by
  cases step with
  | register claim context =>
      rw [standing_concat _ (by simp), Registry.step]
      cases hregister : registry.register claim context with
      | ok next =>
          refine ⟨h.grouped.register hregister, (claims_register hregister).trans ?_⟩
          -- the registry holds the new claim first, the transcript last
          exact (h.perm.cons claim).trans (List.perm_append_singleton _ _).symm
      | error violation =>
          have hnone : accepted? (.register claim context, .refused violation) = none := rfl
          rw [hnone, Option.toList_none, List.append_nil]
          exact h
  | contains claim =>
      have hnone : accepted? (.contains claim, .found (registry.contains claim)) = none := rfl
      rw [standing_concat _ (by simp), Registry.step, hnone, Option.toList_none, List.append_nil]
      exact h
  | reset =>
      rw [standing_reset]
      exact holds_empty

/-- After any history a registry holds the claims that stand. -/
theorem holds_run (steps : List Step) : Holds (run ∅ steps).1 (standing (run ∅ steps).2) := by
  induction steps using List.reverseRecOn with
  | nil => exact holds_empty
  | append_singleton steps last ih =>
      rw [run_concat]
      exact ih.step last

/-! ## What a registry reports -/

/-- A registry reports what a list of claims decides. -/
structure Reflects (registry : Registry) (claims : List Claim) : Prop where
  /-- Its size is the number of the claims. -/
  size : registry.size = claims.length
  /-- It finds a conflict exactly if some claim of the list conflicts, and stays as it was. -/
  contains : ∀ claim, ∃ conflict, registry.step (.contains claim) = (registry, .found conflict) ∧
    (conflict = true ↔ ∃ held ∈ claims, held.Conflict claim)
  /-- A claim that conflicts with one of the list is refused as a duplicate and changes nothing. -/
  refuses : ∀ claim context, (∃ held ∈ claims, held.Conflict claim) →
    registry.step (.register claim context) =
      (registry, .refused (.duplicateKey claim.combo context))
  /-- Any other claim is accepted, and the size grows by one. -/
  accepts : ∀ claim context, (∀ held ∈ claims, ¬ held.Conflict claim) →
    ∃ next, registry.step (.register claim context) = (next, .accepted) ∧
      next.size = registry.size + 1

/-- A registry that holds claims reports what they decide. -/
theorem Holds.reflects {registry : Registry} {claims : List Claim} (h : Holds registry claims) :
    Reflects registry claims where
  size := h.perm.length_eq
  contains claim := ⟨registry.contains claim, rfl, h.contains_iff⟩
  refuses claim context hconflict := by
    rw [Registry.step, register, if_pos (h.contains_iff.mpr hconflict)]
  accepts claim context hfree := by
    have hnew : ¬ registry.contains claim = true := by
      rw [h.contains_iff]
      rintro ⟨held, hheld, hconflict⟩
      exact hfree held hheld hconflict
    have hregister : registry.register claim context =
        .ok ⟨insertInto claim.sortedPath claim registry.groups⟩ := by
      rw [register, if_neg hnew]
    refine ⟨_, by rw [Registry.step, hregister], ?_⟩
    exact (claims_register hregister).length_eq

/-- A claim is accepted exactly when it conflicts with none that is held. -/
theorem Reflects.accepted_iff {registry : Registry} {claims : List Claim}
    (h : Reflects registry claims) {claim : Claim} {context : String} :
    (registry.step (.register claim context)).2 = .accepted ↔
      ∀ held ∈ claims, ¬ held.Conflict claim := by
  by_cases hconflict : ∃ held ∈ claims, held.Conflict claim
  · rw [h.refuses claim context hconflict]
    refine iff_of_false (by simp) ?_
    obtain ⟨held, hheld, hconflict⟩ := hconflict
    exact fun hfree => hfree held hheld hconflict
  · have hfree : ∀ held ∈ claims, ¬ held.Conflict claim :=
      fun held hheld hc => hconflict ⟨held, hheld, hc⟩
    obtain ⟨next, hnext, -⟩ := h.accepts claim context hfree
    rw [hnext]
    exact iff_of_true rfl hfree

/-! ## Lists of claims -/

/-- The steps that make the claims of a list, each with the context that a refusal names. -/
def registrations (entries : List (Claim × String)) : List Step :=
  entries.map fun entry => .register entry.1 entry.2

/-- A fresh registry accepts all claims of a list. -/
def AcceptsAll (entries : List (Claim × String)) : Prop :=
  ∀ entry ∈ (run ∅ (registrations entries)).2, entry.2 = .accepted

/-- Claims are all accepted exactly when all but the last are, and then the last is too. -/
theorem acceptsAll_concat {entries : List (Claim × String)} {last : Claim × String} :
    AcceptsAll (entries ++ [last]) ↔ AcceptsAll entries ∧
      ((run ∅ (registrations entries)).1.step (.register last.1 last.2)).2 = .accepted := by
  have hsteps : registrations (entries ++ [last]) =
      registrations entries ++ [.register last.1 last.2] := List.map_append
  rw [AcceptsAll, hsteps, run_concat, List.forall_mem_append, List.forall_mem_singleton, AcceptsAll]

/-- Of a list that is accepted in full all claims stand. -/
theorem standing_of_acceptsAll {entries : List (Claim × String)} (h : AcceptsAll entries) :
    standing (run ∅ (registrations entries)).2 = entries.map Prod.fst := by
  induction entries using List.reverseRecOn with
  | nil => rfl
  | append_singleton entries last ih =>
      obtain ⟨hbefore, hlast⟩ := acceptsAll_concat.mp h
      have hsteps : registrations (entries ++ [last]) =
          registrations entries ++ [.register last.1 last.2] := List.map_append
      rw [hsteps, run_concat, standing_concat _ (by simp), hlast, ih hbefore, List.map_append]
      rfl

/-- A fresh registry accepts a list in full exactly when no two of its claims conflict. -/
theorem acceptsAll_iff_pairwise {entries : List (Claim × String)} :
    AcceptsAll entries ↔ (entries.map Prod.fst).Pairwise fun a b => ¬ a.Conflict b := by
  induction entries using List.reverseRecOn with
  | nil => simp [AcceptsAll, registrations, run]
  | append_singleton entries last ih =>
      rw [acceptsAll_concat, List.map_append, List.pairwise_append, ← ih]
      refine and_congr_right fun hbefore => ?_
      -- the last claim is held against those before it, which all stand
      rw [(holds_run (registrations entries)).reflects.accepted_iff, standing_of_acceptsAll hbefore]
      simp

/-- After any history a registry reports what the claims that stand decide: those accepted since the
last reset. So a fresh registry accepts a list of claims in full exactly when no two of them
conflict, and the order in which they are made does not matter. -/
theorem reflects_standing :
    (∀ steps, Reflects (run ∅ steps).1 (standing (run ∅ steps).2)) ∧
      ∀ entries,
        (AcceptsAll entries ↔ (entries.map Prod.fst).Pairwise fun a b => ¬ a.Conflict b) ∧
          ∀ order, order.Perm entries → (AcceptsAll order ↔ AcceptsAll entries) := by
  refine ⟨fun steps => (holds_run steps).reflects, fun entries => ⟨acceptsAll_iff_pairwise, ?_⟩⟩
  intro order hperm
  have hsymm : ∀ {a b : Claim}, ¬ a.Conflict b → ¬ b.Conflict a :=
    fun hnot hconflict => hnot hconflict.symm
  rw [acceptsAll_iff_pairwise, acceptsAll_iff_pairwise]
  exact (hperm.map Prod.fst).pairwise_iff hsymm

/-- A claim of the key `a` on one product of a vendor, or on all devices. -/
def claimOn (product : Option Nat) : Claim where
  combo := ⟨.a, ∅⟩
  device := product.map fun product => ⟨.product 7504 product, .onDevice, false⟩

/-- The claims of one key on two products. -/
def twoProducts : List (Claim × String) :=
  [(claimOn (some 1), "first"), (claimOn (some 2), "second")]

/-- Two products may claim one key, in either order. The key is then refused to all devices, until
the claims are forgotten. -/
theorem reflects_standing_twoProducts :
    AcceptsAll twoProducts ∧ AcceptsAll twoProducts.reverse ∧
      (run ∅ (registrations twoProducts)).1.size = 2 ∧
      (run ∅ (registrations twoProducts)).1.step (.register (claimOn none) "all") =
        ((run ∅ (registrations twoProducts)).1, .refused (.duplicateKey ⟨.a, ∅⟩ "all")) ∧
      ∃ next, (run ∅ (registrations twoProducts ++ [.reset])).1.step
        (.register (claimOn none) "all") = (next, .accepted) := by
  obtain ⟨hreflects, haccepts⟩ := reflects_standing
  obtain ⟨hpairwise, horder⟩ := haccepts twoProducts
  have hall : AcceptsAll twoProducts := hpairwise.mpr (by
    simp only [← Claim.conflicts_iff]
    decide)
  have hstanding := standing_of_acceptsAll hall
  have hafter := hreflects (registrations twoProducts)
  refine ⟨hall, (horder _ (List.reverse_perm _)).mpr hall, ?_, ?_, ?_⟩
  · rw [hafter.size, hstanding]
    rfl
  · refine hafter.refuses (claimOn none) "all" ⟨claimOn (some 1), ?_, ?_⟩
    · rw [hstanding]
      exact List.mem_cons_self
    · exact Claim.conflicts_iff.mp (by decide)
  · obtain ⟨next, hnext, -⟩ := (hreflects (registrations twoProducts ++ [.reset])).accepts
      (claimOn none) "all" (by
        rw [run_concat, standing_reset]
        exact fun held hheld => absurd hheld List.not_mem_nil)
    exact ⟨next, hnext⟩

end Registry

end KeyRemap
