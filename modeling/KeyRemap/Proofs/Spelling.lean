import KeyRemap.Destination
import KeyRemap.Proofs.Trimming

/-!
# Spellings

No two keys share a spelling, and neither do two modifiers or two buttons. A key that is spelled like
a modifier acts as that modifier, so it does not matter whether a modifier is looked for among the
modifiers or among the keys first. Hence the search for a name finds just what the name is a spelling
of (`Key.ofName?_eq_some_iff`, `Modifier.ofText?_eq_some_iff`, `Button.ofName?_eq_some_iff`). All
spellings of keys and modifiers are words: no blank and no plus sign occurs in them.
-/

namespace KeyRemap

namespace Key

/-- All spellings of a key. -/
def spellings (key : Key) : List String := key.name :: key.alias?.toList

/-- The texts that spell a key are its spellings. -/
theorem spelled_iff {key : Key} {text : String} : key.spelled text ↔ text ∈ key.spellings := by
  rw [spelled, spellings, List.mem_cons, Option.mem_toList, Bool.or_eq_true, beq_iff_eq, beq_iff_eq,
    eq_comm (a := key.name)]

/-- Every key is listed among all of them. -/
theorem mem_all (key : Key) : key ∈ all := by
  cases key <;> decide

/-- A key is found under each of its spellings. -/
theorem ofName?_of_spelled {key : Key} {text : String} (h : key.spelled text) :
    ofName? text = some key := by
  have hall : ∀ key ∈ all, ∀ text ∈ key.spellings, ofName? text = some key := by decide +kernel
  exact hall key key.mem_all text (spelled_iff.mp h)

/-- A text is the name of a key exactly if it is one of its spellings, so no text spells two
keys. -/
theorem ofName?_eq_some_iff {key : Key} {text : String} :
    ofName? text = some key ↔ key.spelled text := by
  refine ⟨fun h => ?_, ofName?_of_spelled⟩
  rw [ofName?] at h
  simpa using List.find?_some h

/-- A text is the name of no key exactly if it spells none. -/
theorem ofName?_eq_none_iff {text : String} : ofName? text = none ↔ ∀ key : Key, ¬ key.spelled text := by
  simp only [Option.eq_none_iff_forall_ne_some, ne_eq, ofName?_eq_some_iff]

/-- All spellings of keys are words. -/
theorem isWord_of_spelled {key : Key} {text : String} (h : key.spelled text) :
    Text.IsWord text.toList := by
  have hall : ∀ key ∈ all, ∀ text ∈ key.spellings, Text.IsWord text.toList := by decide +kernel
  exact hall key key.mem_all text (spelled_iff.mp h)

end Key

namespace Modifier

/-- All spellings of a modifier as such. -/
def spellings (modifier : Modifier) : List String := modifier.name :: modifier.aliases

/-- The texts that spell a modifier are its spellings. -/
theorem spelled_iff {modifier : Modifier} {text : String} :
    modifier.spelled text ↔ text ∈ modifier.spellings := by
  rw [spelled, spellings, List.mem_cons, Bool.or_eq_true, beq_iff_eq, eq_comm, List.contains_iff_mem]

/-- A text names a modifier when it spells it, or spells a key that acts as it. -/
def NamedBy (modifier : Modifier) (text : String) : Prop :=
  modifier.spelled text ∨ ∃ key : Key, key.spelled text ∧ ofKey? key = some modifier

/-- A modifier is found under each of its own spellings. -/
theorem ofName?_of_spelled {modifier : Modifier} {text : String} (h : modifier.spelled text) :
    ofName? text = some modifier := by
  have hall : ∀ modifier ∈ Modifier.all, ∀ text ∈ modifier.spellings,
      ofName? text = some modifier := by decide +kernel
  exact hall modifier (Modifiers.mem_all modifier) text (spelled_iff.mp h)

/-- A key that acts as a modifier is found as that modifier under each of its spellings. -/
theorem ofText?_of_key {key : Key} {modifier : Modifier} {text : String} (h : key.spelled text)
    (hkey : ofKey? key = some modifier) : ofText? text = some modifier := by
  have hall : ∀ key ∈ Key.all, ∀ text ∈ key.spellings, (ofKey? key).isSome →
      ofText? text = ofKey? key := by decide +kernel
  rw [hall key key.mem_all text (Key.spelled_iff.mp h) (by rw [hkey]; rfl), hkey]

/-- A text is read as a modifier exactly if it names it, so no text names two modifiers. -/
theorem ofText?_eq_some_iff {modifier : Modifier} {text : String} :
    ofText? text = some modifier ↔ modifier.NamedBy text := by
  constructor
  · intro h
    rw [ofText?, Option.orElse_eq_orElse, Option.orElse_eq_or, Option.or_eq_some_iff] at h
    rcases h with h | ⟨-, h⟩
    · rw [ofName?] at h
      exact Or.inl (by simpa using List.find?_some h)
    · obtain ⟨key, hkey, hmodifier⟩ := Option.bind_eq_some_iff.mp h
      exact Or.inr ⟨key, Key.ofName?_eq_some_iff.mp hkey, hmodifier⟩
  · rintro (h | ⟨key, hkey, hmodifier⟩)
    · rw [ofText?, ofName?_of_spelled h]
      rfl
    · exact ofText?_of_key hkey hmodifier

/-- A text is read as no modifier exactly if it names none. -/
theorem ofText?_eq_none_iff {text : String} :
    ofText? text = none ↔ ∀ modifier : Modifier, ¬ modifier.NamedBy text := by
  simp only [Option.eq_none_iff_forall_ne_some, ne_eq, ofText?_eq_some_iff]

/-- All names of modifiers are words. -/
theorem NamedBy.isWord {modifier : Modifier} {text : String} (h : modifier.NamedBy text) :
    Text.IsWord text.toList := by
  have hall : ∀ modifier ∈ Modifier.all, ∀ text ∈ modifier.spellings,
      Text.IsWord text.toList := by decide +kernel
  rcases h with h | ⟨key, hkey, -⟩
  · exact hall modifier (Modifiers.mem_all modifier) text (spelled_iff.mp h)
  · exact Key.isWord_of_spelled hkey

end Modifier

namespace Button

/-- All spellings of a button. -/
def spellings (button : Button) : List String := button.name :: button.alias?.toList

/-- The texts that spell a button are its spellings. -/
theorem spelled_iff {button : Button} {text : String} :
    button.spelled text ↔ text ∈ button.spellings := by
  rw [spelled, spellings, List.mem_cons, Option.mem_toList, Bool.or_eq_true, beq_iff_eq, beq_iff_eq,
    eq_comm (a := button.name)]

/-- Every button is listed among all of them. -/
theorem mem_all (button : Button) : button ∈ all := by
  cases button <;> decide

/-- A text is the name of a button exactly if it is one of its spellings, so no text spells two
buttons. -/
theorem ofName?_eq_some_iff {button : Button} {text : String} :
    ofName? text = some button ↔ button.spelled text := by
  constructor
  · intro h
    rw [ofName?] at h
    simpa using List.find?_some h
  · intro h
    have hall : ∀ button ∈ all, ∀ text ∈ button.spellings, ofName? text = some button := by
      decide +kernel
    exact hall button button.mem_all text (spelled_iff.mp h)

/-- A text is the name of no button exactly if it spells none. -/
theorem ofName?_eq_none_iff {text : String} :
    ofName? text = none ↔ ∀ button : Button, ¬ button.spelled text := by
  simp only [Option.eq_none_iff_forall_ne_some, ne_eq, ofName?_eq_some_iff]

/-- Every button has a name. -/
theorem ne_empty_of_spelled {button : Button} {text : String} (h : button.spelled text) :
    text ≠ "" := by
  have hall : ∀ button ∈ all, ∀ text ∈ button.spellings, text ≠ "" := by decide +kernel
  exact hall button button.mem_all text (spelled_iff.mp h)

end Button

end KeyRemap
