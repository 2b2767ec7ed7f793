import Mathlib.Data.List.Basic

/-!
# Lists without their repetitions

Erasing repetitions keeps every element at its first occurrence: what is left stands in the order in
which it first occurs (`pairwise_idxOf_eraseDups`), and nothing is erased where nothing repeats
(`eraseDups_eq_self`).
-/

namespace KeyRemap

variable {α : Type} [BEq α] [LawfulBEq α]

/-- Leaving out others keeps the order in which two elements first occur. -/
theorem idxOf_lt_of_filter {p : α → Bool} {a b : α} (ha : p a = true) (hb : p b = true)
    {list : List α} (h : (list.filter p).idxOf a < (list.filter p).idxOf b) :
    list.idxOf a < list.idxOf b := by
  induction list with
  | nil => exact h
  | cons first rest ih =>
      by_cases hfirst : p first = true
      · rw [List.filter_cons_of_pos hfirst, List.idxOf_cons, List.idxOf_cons] at h
        rw [List.idxOf_cons, List.idxOf_cons]
        cases hna : first == a <;> cases hnb : first == b <;> simp_all
      · have hna : (first == a) = false := beq_false_of_ne fun heq => hfirst (heq ▸ ha)
        have hnb : (first == b) = false := beq_false_of_ne fun heq => hfirst (heq ▸ hb)
        rw [List.filter_cons_of_neg hfirst] at h
        rw [List.idxOf_cons, List.idxOf_cons, hna, hnb]
        simpa using ih h

/-- Erasing repetitions leaves the elements in the order of their first occurrence. -/
theorem pairwise_idxOf_eraseDups (list : List α) :
    list.eraseDups.Pairwise fun a b => list.idxOf a < list.idxOf b := by
  cases list with
  | nil => exact List.Pairwise.nil
  | cons first rest =>
      have hkept : ∀ other ∈ (rest.filter fun other => !other == first).eraseDups,
          (!other == first) = true :=
        fun other hother => (List.mem_filter.mp (List.mem_eraseDups.mp hother)).2
      have hne : ∀ other ∈ (rest.filter fun other => !other == first).eraseDups,
          (first == other) = false :=
        fun other hother => beq_false_of_ne fun heq => by simpa [heq] using hkept other hother
      -- the first has index zero, and all others are found in the rest, one place later
      rw [List.eraseDups_cons, List.pairwise_cons]
      constructor
      · intro other hother
        rw [List.idxOf_cons, List.idxOf_cons, beq_self_eq_true, hne other hother]
        simp
      · refine (pairwise_idxOf_eraseDups _).imp_of_mem ?_
        intro a b ha hb hab
        have hlt :=
          idxOf_lt_of_filter (p := fun other => !other == first) (hkept a ha) (hkept b hb) hab
        rw [List.idxOf_cons, List.idxOf_cons, hne a ha, hne b hb]
        simpa using hlt
termination_by list.length
decreasing_by
  have hle := List.length_filter_le (fun other => !other == first) rest
  simp only [List.length_cons]
  omega

/-- Nothing is dropped from a list without repeats. -/
theorem eraseDups_eq_self {list : List α} (h : list.Nodup) : list.eraseDups = list := by
  induction list with
  | nil => rfl
  | cons a rest ih =>
      obtain ⟨hfresh, hrest⟩ := List.nodup_cons.mp h
      have hkeep : rest.filter (fun b => !b == a) = rest :=
        List.filter_eq_self.mpr fun b hb => by
          rw [Bool.not_eq_true', beq_eq_false_iff_ne]
          exact fun heq => hfresh (heq ▸ hb)
      rw [List.eraseDups_cons, hkeep, ih hrest]

end KeyRemap
