import KeyRemap.Proofs.ComboGrammar

/-!
# Destinations as scripts write them

The destination that a script writes is looked at twice. It is first read as a combination, and where
that fails it is kept as a text, which is looked at again when the destination is resolved. The two
looks agree on what names a key: a text without a plus sign is a combination just when it names a key,
so that no text that was kept does (`Destination.not_spelled_of_unparsed`). Hence every text sends one
thing, the one that the rules of `Destination.Sends` name, and those rules leave no other choice
(`Destination.resolve_eq_iff`).
-/

namespace KeyRemap

namespace Combo

open Text (TrimsTo)

variable {text name : String} {key : Key}

/-- The name of a key is a combination, with blanks around it or without. -/
theorem parse_of_spelled (htrim : TrimsTo text.toList name.toList) (hkey : key.spelled name) :
    parse text = .ok ⟨key, ∅⟩ := by
  have hpadded : List.Forall₂ Padded ([] ++ [name]) [text] := .cons htrim.around .nil
  have hparse := parse_intercalate hkey .nil hpadded
  rwa [String.intercalate_singleton] at hparse

/-- A text without a plus sign holds one name, and no name before it. -/
theorem Holds.single {names : List String} {last : String} (h : Holds text names last)
    (hplus : '+' ∉ text.toList) : names = [] ∧ TrimsTo text.toList last.toList := by
  obtain ⟨s, htrim, -, -, hjoined⟩ := h
  have hs : '+' ∉ s := by
    intro hmem
    obtain ⟨before, after, -, -, heq⟩ := htrim.around
    rw [heq] at hplus
    exact hplus (List.mem_append_left _ (List.mem_append_right _ hmem))
  have hself : TrimsTo s (String.ofList s).toList := by
    rw [String.toList_ofList, ← Text.trim_eq_iff]
    exact Text.trim_eq_self htrim.first htrim.last
  have hone : Joined s [String.ofList s] :=
    ⟨[s], List.cons_ne_nil _ _, List.forall_mem_singleton.mpr hs, by simp, .cons hself .nil⟩
  -- a text is joined in one way only, so the one piece is the last
  have hnames : [] ++ [String.ofList s] = names ++ [last] :=
    (pieces_eq_iff.mpr hone).symm.trans (pieces_eq_iff.mpr hjoined)
  obtain ⟨rfl, hlast⟩ := List.append_inj' hnames rfl
  obtain rfl : String.ofList s = last := List.head_eq_of_cons_eq hlast
  refine ⟨rfl, ?_⟩
  rwa [String.toList_ofList]

/-- A combination without a plus sign is the name of a key, and has no modifiers. -/
theorem exists_spelled_of_parse {combo : Combo} (h : parse text = .ok combo)
    (hplus : '+' ∉ text.toList) :
    ∃ name, TrimsTo text.toList name.toList ∧ combo.key.spelled name ∧ combo.modifiers = ∅ := by
  have hreads := parse_eq_iff.mp h
  cases hreads with
  | combo hholds hknown hnamed =>
      obtain ⟨rfl, htrim⟩ := hholds.single hplus
      obtain rfl := List.forall₂_nil_left_iff.mp hnamed
      exact ⟨_, htrim, hknown, rfl⟩

end Combo

namespace Destination

open Text (TrimsTo)

variable {text name : String}

/-- A text that is no combination. -/
def Unparsed (text : String) : Prop := ∀ combo, Combo.parse text ≠ .ok combo

/-- What a text sends as a destination of a script. A combination goes before everything else. A text
that is none is blank, or names a button and no key, or is a command, kept with the blanks around
it. -/
inductive Sends (text : String) : Except Fault Action → Prop where
  | combo {combo : Combo} (parsed : Combo.parse text = .ok combo) :
      Sends text (.ok (.key combo.key combo.modifiers))
  | blank (unparsed : Unparsed text) (blank : TrimsTo text.toList []) : Sends text (.error .blank)
  | button {name : String} {button : Button} (unparsed : Unparsed text)
      (trimmed : TrimsTo text.toList name.toList) (named : button.spelled name)
      (noKey : ∀ key : Key, ¬ key.spelled name) : Sends text (.ok (.button button))
  | shell {name : String} (unparsed : Unparsed text)
      (trimmed : TrimsTo text.toList name.toList) (notBlank : name ≠ "")
      (noButton : ∀ button : Button, button.spelled name → ∃ key : Key, key.spelled name) :
      Sends text (.ok (.shell text))

/-- A text that fails to be read as a combination is unparsed. -/
theorem unparsed_of_error {fault : Combo.ParseError} (h : Combo.parse text = .error fault) :
    Unparsed text := by
  intro combo hparse
  rw [h] at hparse
  cases hparse

/-- A text that is a combination is sent as its key with its modifiers. -/
theorem ofText_of_parse {combo : Combo} (h : Combo.parse text = .ok combo) :
    ofText text = ⟨.key combo.key, combo.modifiers⟩ := by
  rw [ofText, h]

/-- An unparsed text is taken as it stands. -/
theorem ofText_of_unparsed (h : Unparsed text) : ofText text = ⟨.text text, ∅⟩ := by
  unfold ofText
  split
  · next combo hparse => exact absurd hparse (h combo)
  · rfl

/-- No text that is kept names a key. -/
theorem not_spelled_of_unparsed (h : Unparsed text) (htrim : TrimsTo text.toList name.toList)
    (key : Key) : ¬ key.spelled name :=
  fun hkey => h _ (Combo.parse_of_spelled htrim hkey)

/-- A text without modifiers, resolved by its name. -/
theorem resolve_text_of_trimsTo (htrim : TrimsTo text.toList name.toList) :
    (⟨.text text, ∅⟩ : Destination).resolve =
      if name = "" then .error .blank
      else match Key.ofName? name, Button.ofName? name with
        | some key, _ => .ok (.key key ∅)
        | none, some button => .ok (.button button)
        | none, none => .ok (.shell text) := by
  show resolveText text ∅ = _
  simp only [resolveText, Text.trimmed_eq_iff.mpr htrim, String.isEmpty_iff]
  rfl

/-- A text that spells a key is that key, without modifiers. -/
theorem resolve_text_of_key {key : Key} (htrim : TrimsTo text.toList name.toList)
    (hkey : key.spelled name) : (⟨.text text, ∅⟩ : Destination).resolve = .ok (.key key ∅) := by
  have hne : name ≠ "" := by
    rintro rfl
    exact (Key.isWord_of_spelled hkey).ne_nil rfl
  rw [resolve_text_of_trimsTo htrim, if_neg hne, Key.ofName?_of_spelled hkey]

/-- The rules exclude each other: a text sends what the rule that applies to it says. -/
theorem Sends.resolve_eq {result : Except Fault Action} (h : Sends text result) :
    (ofText text).resolve = result := by
  cases h with
  | combo hparsed =>
      rw [ofText_of_parse hparsed]
      rfl
  | blank hunparsed hblank =>
      have hempty : TrimsTo text.toList "".toList := hblank
      rw [ofText_of_unparsed hunparsed, resolve_text_of_trimsTo hempty, if_pos rfl]
  | button hunparsed htrim hnamed hnoKey =>
      have hne := Button.ne_empty_of_spelled hnamed
      rw [ofText_of_unparsed hunparsed, resolve_text_of_trimsTo htrim, if_neg hne,
        Key.ofName?_eq_none_iff.mpr hnoKey, Button.ofName?_eq_some_iff.mpr hnamed]
  | shell hunparsed htrim hne hnoButton =>
      have hnoKey := not_spelled_of_unparsed hunparsed htrim
      have hnone : ∀ button : Button, ¬ button.spelled _ := fun button hbutton =>
        (hnoButton button hbutton).elim hnoKey
      rw [ofText_of_unparsed hunparsed, resolve_text_of_trimsTo htrim, if_neg hne,
        Key.ofName?_eq_none_iff.mpr hnoKey, Button.ofName?_eq_none_iff.mpr hnone]

/-- Some rule applies to every text, and names what it sends. -/
theorem sends_resolve (text : String) : Sends text (ofText text).resolve := by
  by_cases hparse : ∃ combo, Combo.parse text = .ok combo
  · obtain ⟨combo, hparse⟩ := hparse
    exact Sends.resolve_eq (.combo hparse) ▸ .combo hparse
  have hunparsed : Unparsed text := fun combo h => hparse ⟨combo, h⟩
  have htrim : TrimsTo text.toList (Text.trimmed text).toList := Text.trimmed_eq_iff.mp rfl
  generalize Text.trimmed text = name at htrim
  by_cases hne : name = ""
  · subst hne
    exact Sends.resolve_eq (.blank hunparsed htrim) ▸ .blank hunparsed htrim
  have hnoKey := not_spelled_of_unparsed hunparsed htrim
  by_cases hbutton : ∃ button : Button, button.spelled name
  · obtain ⟨button, hbutton⟩ := hbutton
    have hsends : Sends text _ := .button hunparsed htrim hbutton hnoKey
    exact hsends.resolve_eq ▸ hsends
  · have hsends : Sends text _ :=
      .shell hunparsed htrim hne fun button h => absurd ⟨button, h⟩ hbutton
    exact hsends.resolve_eq ▸ hsends

/-- What a written text sends is told by its spelling alone. -/
theorem resolve_eq_iff {result : Except Fault Action} :
    (ofText text).resolve = result ↔ Sends text result :=
  ⟨fun h => h ▸ sends_resolve text, Sends.resolve_eq⟩

/-- A text sends a key with modifiers just when it is the combination of these. -/
theorem resolve_eq_key_iff {key : Key} {modifiers : Modifiers} :
    (ofText text).resolve = .ok (.key key modifiers) ↔ Combo.parse text = .ok ⟨key, modifiers⟩ := by
  rw [resolve_eq_iff]
  constructor
  · rintro ⟨hparsed⟩
    exact hparsed
  · exact fun hparsed => .combo hparsed

/-- A text without a plus sign may be resolved as it stands, without reading it as a combination
first. -/
theorem resolve_text_of_noPlus (hplus : '+' ∉ text.toList) :
    (⟨.text text, ∅⟩ : Destination).resolve = (ofText text).resolve := by
  by_cases hparse : ∃ combo, Combo.parse text = .ok combo
  · obtain ⟨combo, hparse⟩ := hparse
    obtain ⟨name, htrim, hkey, hmodifiers⟩ := Combo.exists_spelled_of_parse hparse hplus
    rw [resolve_text_of_key htrim hkey, ofText_of_parse hparse, hmodifiers]
    rfl
  · rw [ofText_of_unparsed fun combo h => hparse ⟨combo, h⟩]

/-- The destinations of scripts. A text sends what the rules say and nothing else, and in particular
a key with modifiers just when it is the combination of these; a text that was kept is the one that
was written, and is no key; the one fault is to be blank, since no modifiers stand beside a text; and
without a plus sign it makes no difference whether the text is read as a combination first. -/
theorem resolve_ofText :
    (∀ (text : String) (result : Except Fault Action),
      (ofText text).resolve = result ↔ Sends text result) ∧
    (∀ (text : String) (combo : Combo),
      (ofText text).resolve = .ok (.key combo.key combo.modifiers) ↔
        Combo.parse text = .ok combo) ∧
    (∀ text kept : String, (ofText text).target = .text kept →
      kept = text ∧ ∀ key modifiers, (ofText text).resolve ≠ .ok (.key key modifiers)) ∧
    (∀ (text : String) (fault : Fault), (ofText text).resolve = .error fault → fault = .blank) ∧
    ∀ text : String, '+' ∉ text.toList →
      (⟨.text text, ∅⟩ : Destination).resolve = (ofText text).resolve := by
  refine ⟨fun _ _ => resolve_eq_iff, fun _ _ => resolve_eq_key_iff, ?_, ?_,
    fun _ => resolve_text_of_noPlus⟩
  · intro text kept hkept
    have hunparsed : Unparsed text := by
      intro combo hparse
      rw [ofText_of_parse hparse] at hkept
      exact Target.noConfusion hkept
    rw [ofText_of_unparsed hunparsed] at hkept
    refine ⟨(Target.text.inj hkept).symm, fun key modifiers hkey => ?_⟩
    exact hunparsed _ (resolve_eq_key_iff.mp hkey)
  · intro text fault hfault
    cases resolve_eq_iff.mp hfault
    rfl

/-- A name that is a key's and a button's, the name of a button after a blank, a command that ends
with a plus sign, and a text that is blank. -/
theorem resolve_ofText_corners :
    (⟨.text " left ", ∅⟩ : Destination).resolve = .ok (.key .leftArrow ∅) ∧
      (ofText "\tbutton2").resolve = .ok (.button .right) ∧
      (ofText " say a+").resolve = .ok (.shell " say a+") ∧
      (∀ key modifiers, (ofText " say a+").resolve ≠ .ok (.key key modifiers)) ∧
      ∃ fault, (ofText "\t ").resolve = .error fault ∧ fault = .blank := by
  obtain ⟨hsends, hcombo, hkept, hfault, hdirect⟩ := resolve_ofText
  have hbutton : Combo.parse "\tbutton2" = .error (.unknownKey "button2") := by decide
  have hcommand : Combo.parse " say a+" = .error .trailingSeparator := by decide
  have hblank : Combo.parse "\t " = .error .emptyInput := by decide
  have hsendsBlank := (hsends "\t " _).mpr
    (.blank (unparsed_of_error hblank) (Text.trim_eq_iff.mp (by decide)))
  refine ⟨?left, ?button, ?command, (hkept _ " say a+" (by decide)).2, _, hsendsBlank,
    hfault _ _ hsendsBlank⟩
  case left =>
    exact (hdirect _ (by decide)).trans ((hcombo _ ⟨.leftArrow, ∅⟩).mpr (by decide))
  case button =>
    exact (hsends _ _).mpr (.button (unparsed_of_error hbutton) (Text.trimmed_eq_iff.mp rfl)
      (by decide) (Key.ofName?_eq_none_iff.mp (by decide)))
  case command =>
    exact (hsends _ _).mpr (.shell (unparsed_of_error hcommand) (Text.trimmed_eq_iff.mp rfl)
      (by decide) fun button h => absurd h (Button.ofName?_eq_none_iff.mp (by decide) button))

end Destination

end KeyRemap
