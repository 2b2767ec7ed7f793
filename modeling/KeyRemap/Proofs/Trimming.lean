import KeyRemap.Text.Blank
import Mathlib.Data.List.TakeWhile

/-!
# Trimming

What is left of a text without the blanks around it. `TrimsTo` says so by naming the blanks on both
sides, with no search from either end, and it leaves no choice: every text is trimmed to exactly one
(`Text.trim_eq_iff`).
-/

namespace KeyRemap.Text

/-- All characters of a text are blank. -/
def Blank (s : List Char) : Prop := ∀ c ∈ s, isBlank c = true

instance (s : List Char) : Decidable (Blank s) :=
  List.decidableBAll (fun c => isBlank c = true) s

/-- A text is `rest` with blanks around it, and `rest` neither begins nor ends with a blank. -/
structure TrimsTo (s rest : List Char) : Prop where
  around : ∃ before after, Blank before ∧ Blank after ∧ s = before ++ rest ++ after
  first : ∀ c ∈ rest.head?, isBlank c = false
  last : ∀ c ∈ rest.getLast?, isBlank c = false

/-- Neither of the characters that separate names occurs in a text that is not empty. -/
structure IsWord (s : List Char) : Prop where
  ne_nil : s ≠ []
  noBlank : ∀ c ∈ s, isBlank c = false
  noPlus : '+' ∉ s

-- the list is searched, and not the type of all characters
instance (s : List Char) : Decidable (IsWord s) :=
  haveI := List.decidableBAll (fun c => isBlank c = false) s
  decidable_of_iff (s ≠ [] ∧ (∀ c ∈ s, isBlank c = false) ∧ '+' ∉ s)
    ⟨fun ⟨hne, hblank, hplus⟩ => ⟨hne, hblank, hplus⟩, fun ⟨hne, hblank, hplus⟩ => ⟨hne, hblank, hplus⟩⟩

/-- Blanks at the end do not matter to trimming the end. -/
theorem trimEnd_append {after : List Char} (h : Blank after) (s : List Char) :
    trimEnd (s ++ after) = trimEnd s := by
  have hreverse : ∀ c ∈ after.reverse, isBlank c = true :=
    fun c hc => h c (List.mem_reverse.mp hc)
  rw [trimEnd, List.reverse_append, List.dropWhile_append_of_pos hreverse, trimEnd]

/-- Blanks at the beginning do not matter to trimming. -/
theorem trim_append_left {before : List Char} (h : Blank before) (s : List Char) :
    trim (before ++ s) = trim s := by
  rw [trim, List.dropWhile_append_of_pos h, trim]

/-- Blanks at the end do not matter to trimming. -/
theorem trim_append_right {after : List Char} (h : Blank after) (s : List Char) :
    trim (s ++ after) = trim s := by
  rw [trim, trim, List.dropWhile_append]
  split
  · next hnil =>
      -- nothing but blanks, so nothing is left with those at the end or without them
      rw [List.isEmpty_iff.mp hnil, List.dropWhile_eq_nil_iff.mpr h]
  · exact trimEnd_append h _

/-- A text that neither begins nor ends with a blank is left as it is. -/
theorem trim_eq_self {s : List Char} (hfirst : ∀ c ∈ s.head?, isBlank c = false)
    (hlast : ∀ c ∈ s.getLast?, isBlank c = false) : trim s = s := by
  have hkeep : ∀ t : List Char, (∀ c ∈ t.head?, isBlank c = false) → t.dropWhile isBlank = t := by
    intro t ht
    cases t with
    | nil => rfl
    | cons c rest => rw [List.dropWhile_cons, ht c rfl, if_neg Bool.false_ne_true]
  rw [trim, hkeep s hfirst, trimEnd, hkeep, List.reverse_reverse]
  rwa [List.head?_reverse]

/-- What `trimEnd` leaves begins as before and does not end with a blank. -/
theorem exists_eq_trimEnd_append (s : List Char) :
    ∃ after, Blank after ∧ s = trimEnd s ++ after ∧ ∀ c ∈ (trimEnd s).getLast?, isBlank c = false := by
  refine ⟨(s.reverse.takeWhile isBlank).reverse, ?_, ?_, ?_⟩
  · intro c hc
    exact List.mem_takeWhile_imp (List.mem_reverse.mp hc)
  · rw [trimEnd, ← List.reverse_append, List.takeWhile_append_dropWhile, List.reverse_reverse]
  · intro c hc
    rw [trimEnd, List.getLast?_reverse] at hc
    have hhead := List.head?_dropWhile_not isBlank s.reverse
    rwa [hc] at hhead

/-- Trimming removes the blanks around a text and nothing else. -/
theorem trimsTo_trim (s : List Char) : TrimsTo s (trim s) := by
  obtain ⟨after, hafter, heq, hlast⟩ := exists_eq_trimEnd_append (s.dropWhile isBlank)
  refine ⟨⟨s.takeWhile isBlank, after, fun c hc => List.mem_takeWhile_imp hc, hafter, ?_⟩, ?_, hlast⟩
  · rw [List.append_assoc, trim, ← heq, List.takeWhile_append_dropWhile]
  · intro c hc
    have hhead := List.head?_dropWhile_not isBlank s
    have hc : c ∈ (trimEnd (s.dropWhile isBlank)).head? := hc
    rw [heq, List.head?_append, Option.mem_def.mp hc] at hhead
    exact hhead

/-- Trimming gives the one text that is left without the blanks around it. -/
theorem trim_eq_iff {s rest : List Char} : trim s = rest ↔ TrimsTo s rest := by
  constructor
  · rintro rfl
    exact trimsTo_trim s
  · rintro ⟨⟨before, after, hbefore, hafter, rfl⟩, hfirst, hlast⟩
    rw [trim_append_right hafter, trim_append_left hbefore, trim_eq_self hfirst hlast]

/-- The trimmed text is the one that is left without the blanks around it. -/
theorem trimmed_eq_iff {text name : String} :
    trimmed text = name ↔ TrimsTo text.toList name.toList := by
  rw [← trim_eq_iff, trimmed]
  constructor
  · rintro rfl
    rw [String.toList_ofList]
  · intro h
    rw [h, String.ofList_toList]

/-- Nothing is left of just those texts that are blank. -/
theorem trimsTo_nil_iff {s : List Char} : TrimsTo s [] ↔ Blank s := by
  constructor
  · rintro ⟨⟨before, after, hbefore, hafter, rfl⟩, -, -⟩ c hc
    rw [List.append_nil, List.mem_append] at hc
    exact hc.elim (hbefore c) (hafter c)
  · intro h
    exact ⟨⟨s, [], h, List.forall_mem_nil _, by simp⟩, by simp, by simp⟩

/-- A text is trimmed to nothing exactly when all its characters are blank. -/
theorem trimmed_eq_empty_iff (text : String) : trimmed text = "" ↔ allBlank text = true := by
  rw [trimmed_eq_iff, allBlank, List.all_eq_true]
  exact trimsTo_nil_iff

namespace IsWord

variable {word : List Char}

/-- A word with blanks around it trims to the word. -/
theorem trimsTo (h : IsWord word) {before after : List Char} (hbefore : Blank before)
    (hafter : Blank after) : TrimsTo (before ++ word ++ after) word where
  around := ⟨before, after, hbefore, hafter, rfl⟩
  first c hc := h.noBlank c (List.mem_of_mem_head? hc)
  last c hc := h.noBlank c (List.mem_of_getLast? hc)

/-- What is left of a text whose last characters but for blanks are a word ends with that word. -/
theorem exists_trim_eq_append (h : IsWord word) (front : List Char) {after : List Char}
    (hafter : Blank after) : ∃ start, trim (front ++ word ++ after) = start ++ word := by
  refine ⟨front.dropWhile isBlank, ?_⟩
  have hskip : Blank (front.takeWhile isBlank) := fun c hc => List.mem_takeWhile_imp hc
  have hfront : front ++ word = front.takeWhile isBlank ++ (front.dropWhile isBlank ++ word) := by
    rw [← List.append_assoc, List.takeWhile_append_dropWhile]
  rw [trim_append_right hafter, hfront, trim_append_left hskip]
  refine trim_eq_self ?_ ?_
  · intro c hc
    have hhead := List.head?_dropWhile_not isBlank front
    -- the first character is the word's where nothing but blanks comes before it
    cases hstart : front.dropWhile isBlank with
    | nil =>
        rw [hstart, List.nil_append] at hc
        exact h.noBlank c (List.mem_of_mem_head? hc)
    | cons first rest =>
        rw [hstart] at hc hhead
        cases hc
        exact hhead
  · intro c hc
    rw [List.getLast?_append, List.getLast?_eq_some_getLast h.ne_nil, Option.some_or] at hc
    cases hc
    exact h.noBlank _ (List.getLast_mem h.ne_nil)

end IsWord

end KeyRemap.Text
