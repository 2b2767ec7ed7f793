import KeyRemap.Combo
import KeyRemap.Proofs.Repetitions
import Mathlib.Data.List.Induction
import Mathlib.Data.List.Sort

/-!
# Sets of modifiers as sets

However modifiers get into a set, whether they are collected from a list, added to the set or added
to a combination that has it, the set is that of their list (`Modifiers.Inserted.eq_ofList`). So it
lists them in the order in which they came, each once, while two sets are equivalent exactly if the
same modifiers have been inserted, and then a hash is made from the same numbers
(`Modifiers.set_of_insertions`).
-/

namespace KeyRemap

/-- Different modifiers have different places in the order of all modifiers. -/
theorem Modifier.index_injective : Function.Injective Modifier.index := by
  intro a b h
  exact (List.idxOf_inj (Modifiers.mem_all a)).mp h

namespace Modifiers

/-! ## Insertion -/

/-- The last modifier of a list is inserted last. -/
theorem ofList_concat (modifiers : List Modifier) (last : Modifier) :
    ofList (modifiers ++ [last]) = (ofList modifiers).insert last := by
  rw [ofList, List.foldl_append]
  rfl

/-- A set lists the modifiers of a list in the order in which they first occur. -/
theorem toList_ofList (modifiers : List Modifier) :
    (ofList modifiers).toList = modifiers.eraseDups := by
  induction modifiers using List.reverseRecOn with
  | nil => rfl
  | append_singleton rest last ih =>
      rw [ofList_concat, toList_insert, ih, List.eraseDups_append]
      have hone : [last].eraseDups = [last] := rfl
      by_cases hmem : last ∈ rest <;> simp [List.removeAll, hmem, hone]

/-- The modifiers of a list have been inserted one after another, and have made a set: collected
from the list, added to a set or added to a combination. -/
inductive Inserted : List Modifier → Modifiers → Prop where
  | collected (modifiers : List Modifier) : Inserted modifiers (ofList modifiers)
  | added {modifiers : List Modifier} {set : Modifiers} (last : Modifier)
      (earlier : Inserted modifiers set) : Inserted (modifiers ++ [last]) (set.insert last)
  | combined {modifiers : List Modifier} {combo : Combo} (last : Modifier)
      (earlier : Inserted modifiers combo.modifiers) :
      Inserted (modifiers ++ [last]) (combo.insert last).modifiers

/-- In whichever way modifiers are inserted, the set is that of their list. -/
theorem Inserted.eq_ofList {modifiers : List Modifier} {set : Modifiers}
    (h : Inserted modifiers set) : set = ofList modifiers := by
  induction h with
  | collected modifiers => rfl
  | added last _ ih => rw [ofList_concat, ih]
  | combined last _ ih => rw [ofList_concat, ← ih]; rfl

/-- A set lists what has been inserted, each modifier once, in the order of first insertion. -/
structure Lists (set : Modifiers) (inserted : List Modifier) : Prop where
  mem_iff : ∀ modifier, modifier ∈ set.toList ↔ modifier ∈ inserted
  nodup : set.toList.Nodup
  ordered : set.toList.Pairwise fun a b => inserted.idxOf a < inserted.idxOf b

/-- The set of a list lists what has been inserted. -/
theorem lists_ofList (modifiers : List Modifier) : (ofList modifiers).Lists modifiers where
  mem_iff := fun _ => mem_ofList
  nodup := (ofList modifiers).nodup
  ordered := by
    rw [toList_ofList]
    exact pairwise_idxOf_eraseDups modifiers

/-! ## Equivalence -/

/-- The sorted form of a set holds its modifiers in the order of their places. -/
theorem pairwise_index_sorted (set : Modifiers) :
    set.sorted.toList.Pairwise fun a b => a.index < b.index := by
  have hall : Modifier.all.Pairwise fun a b => a.index < b.index := by decide
  show (Modifier.all.filter (· ∈ set)).Pairwise _
  exact hall.filter _

/-- What equivalence compares is the list of a set, sorted by the places of modifiers. -/
theorem toList_sorted (set : Modifiers) :
    set.sorted.toList = set.toList.mergeSort fun a b => a.index ≤ b.index := by
  have hperm : set.sorted.toList.Perm (set.toList.mergeSort fun a b => a.index ≤ b.index) := by
    refine List.Perm.trans ?_ (List.mergeSort_perm _ _).symm
    exact (List.perm_ext_iff_of_nodup set.sorted.nodup set.nodup).mpr fun _ => mem_sorted
  have hmerged : (set.toList.mergeSort fun a b => a.index ≤ b.index).Pairwise
      fun a b => a.index ≤ b.index := by
    let le : Modifier → Modifier → Bool := fun a b => a.index ≤ b.index
    have htrans : ∀ a b c, le a b → le b c → le a c := by
      simp only [le, decide_eq_true_eq]
      omega
    have htotal : ∀ a b, le a b || le b a := by
      simp only [le, Bool.or_eq_true, decide_eq_true_eq]
      omega
    have hpairwise := List.pairwise_mergeSort htrans htotal set.toList
    simpa only [le, decide_eq_true_eq] using hpairwise
  refine hperm.eq_of_pairwise ?_ (set.pairwise_index_sorted.imp Nat.le_of_lt) hmerged
  intro a b _ _ hab hba
  exact Modifier.index_injective (Nat.le_antisymm hab hba)

/-- A hash is made from the same numbers exactly if two sets are equivalent. -/
theorem hashInput_eq_iff {a b : Modifiers} : a.hashInput = b.hashInput ↔ a ≈ b := by
  constructor
  · intro h
    have hlist : a.sorted.toList = b.sorted.toList :=
      Modifier.index_injective.list_map (List.cons.inj h).2
    show a.sorted = b.sorted
    rw [mk.injEq]
    exact hlist
  · intro h
    have hsorted : a.sorted = b.sorted := h
    rw [hashInput, hashInput, hsorted]

/-! ## What must be held and what may be -/

/-- The modifiers that must be held are those of the set that are not optional. -/
theorem mem_mandatory {set : Modifiers} {modifier : Modifier} :
    modifier ∈ set.mandatory ↔ modifier ∈ set ∧ modifier.optional = false := by
  simp [mandatory, mem_iff]

/-- The modifiers that may be held are those of the set that are optional. -/
theorem mem_optional {set : Modifiers} {modifier : Modifier} :
    modifier ∈ set.optional ↔ modifier ∈ set ∧ modifier.optional = true := by
  simp [optional, mem_iff]

/-- The modifiers of a set are parted into those that must be held and those that may be. Both keep
their order, and every modifier is on one side, once. -/
structure Parted (set : Modifiers) : Prop where
  mandatory : set.mandatory.Sublist set.toList
  optional : set.optional.Sublist set.toList
  perm : (set.mandatory ++ set.optional).Perm set.toList
  ne_any : ∀ modifier ∈ set.mandatory, modifier ≠ .any
  eq_any : ∀ modifier ∈ set.optional, modifier = .any

/-- Every set is parted. -/
theorem parted (set : Modifiers) : set.Parted where
  mandatory := List.filter_sublist
  optional := List.filter_sublist
  perm := List.perm_append_comm.trans (List.filter_append_perm _ _)
  ne_any := by
    rintro modifier hmodifier rfl
    cases (mem_mandatory.mp hmodifier).2
  eq_any := by
    intro modifier hmodifier
    have hoptional := (mem_optional.mp hmodifier).2
    cases modifier with
    | any => rfl
    | _ => cases hoptional

/-- Inserting a modifier that is there changes nothing. -/
theorem insert_eq_self {set : Modifiers} {modifier : Modifier} (h : modifier ∈ set) :
    set.insert modifier = set := by
  rw [insert, dif_pos (mem_iff.mp h)]

end Modifiers

/-! ## Combinations -/

namespace Combo

/-- A modifier that is added again changes nothing. -/
theorem insert_insert_self (combo : Combo) (modifier : Modifier) :
    (combo.insert modifier).insert modifier = combo.insert modifier := by
  have hmem : modifier ∈ combo.modifiers.insert modifier := Modifiers.mem_insert.mpr (Or.inr rfl)
  rw [insert, insert, Modifiers.insert_eq_self hmem]

/-- It does not matter which of two modifiers is added first. -/
theorem insert_insert_equiv (combo : Combo) (first second : Modifier) :
    (combo.insert first).insert second ≈ (combo.insert second).insert first := by
  rw [equiv_iff]
  refine ⟨rfl, Modifiers.equiv_iff.mpr fun modifier => ?_⟩
  simp only [insert, Modifiers.mem_insert]
  tauto

end Combo

/-- Modifiers that are inserted make a set. It lists them in the order of first insertion, each once,
and is parted into what must be held and what may be. Two sets are equivalent, and their sorted lists
and the inputs of their hashes are equal, exactly if the same modifiers have been inserted, in
whatever order and however often. To a combination a modifier may be added again without effect, and
two may be added in any order. -/
theorem Modifiers.set_of_insertions {ms ns : List Modifier} {a b : Modifiers}
    (ha : Inserted ms a) (hb : Inserted ns b) :
    a.Lists ms ∧ a.Parted ∧
      (a ≈ b ↔ ∀ modifier, modifier ∈ ms ↔ modifier ∈ ns) ∧
      (a.toList.mergeSort (fun m n => m.index ≤ n.index) =
        b.toList.mergeSort (fun m n => m.index ≤ n.index) ↔ a ≈ b) ∧
      (a.hashInput = b.hashInput ↔ a ≈ b) ∧
      ∀ (combo : Combo) (m n : Modifier),
        (combo.insert m).insert m = combo.insert m ∧
          (combo.insert m).insert n ≈ (combo.insert n).insert m := by
  refine ⟨ha.eq_ofList ▸ lists_ofList ms, a.parted, ?_, ?_, hashInput_eq_iff,
    fun combo m n => ⟨combo.insert_insert_self m, combo.insert_insert_equiv m n⟩⟩
  · rw [ha.eq_ofList, hb.eq_ofList]
    simp only [equiv_iff, mem_ofList]
  · rw [← toList_sorted, ← toList_sorted]
    show _ ↔ a.sorted = b.sorted
    rw [mk.injEq]

/-- Shift and command, collected from a list with a repetition, and command and shift, of which the
second is added to a combination. -/
theorem Modifiers.set_of_insertions_mirrored :
    let collected := ofList [.leftShift, .leftCommand, .leftShift]
    let combo := (Combo.ofList .a [.leftCommand]).insert .leftShift
    Inserted [.leftShift, .leftCommand, .leftShift] collected ∧
      Inserted [.leftCommand, .leftShift] combo.modifiers ∧
      collected.toList ≠ combo.modifiers.toList ∧ collected ≈ combo.modifiers ∧
      collected.hashInput = combo.modifiers.hashInput := by
  intro collected combo
  have hcollected : Inserted [.leftShift, .leftCommand, .leftShift] collected := .collected _
  have hcombo : Inserted ([.leftCommand] ++ [.leftShift]) combo.modifiers :=
    .combined .leftShift (.collected [.leftCommand])
  obtain ⟨-, -, hequiv, -, hhash, -⟩ := set_of_insertions hcollected hcombo
  have hsame : collected ≈ combo.modifiers := hequiv.mpr (by simp [or_comm])
  exact ⟨hcollected, hcombo, by decide, hsame, hhash.mpr hsame⟩

end KeyRemap
