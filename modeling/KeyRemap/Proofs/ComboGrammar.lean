import KeyRemap.Proofs.ModifierSets
import KeyRemap.Proofs.Spelling
import KeyRemap.Proofs.Traversals

/-!
# The grammar of combinations

`Combo.Reads` says in five rules how a text is taken as a combination, with no search: a text is
blanks around what it holds, and what it holds is joined from pieces by plus signs. The rules exclude
each other and one of them always applies, so the reader computes just this relation
(`Combo.parse_eq_iff`). Whatever is written from spellings, with blanks anywhere around them, is read
back (`Combo.parse_intercalate`).
-/

namespace KeyRemap

namespace Combo

open Text (TrimsTo Blank IsWord)

/-! ## Pieces -/

/-- A text is joined by plus signs from pieces that hold none, and `names` are the pieces without
the blanks around them. -/
def Joined (s : List Char) (names : List String) : Prop :=
  ∃ pieces : List (List Char), pieces ≠ [] ∧ (∀ piece ∈ pieces, '+' ∉ piece) ∧
    s = ['+'].intercalate pieces ∧
    List.Forall₂ (fun piece name => TrimsTo piece name.toList) pieces names

/-- The pieces between plus signs hold no plus sign. -/
theorem not_mem_of_mem_splitOn {s piece : List Char} (h : piece ∈ s.splitOn '+') : '+' ∉ piece := by
  induction s generalizing piece with
  | nil =>
      rw [List.splitOn_nil, List.mem_singleton] at h
      exact h ▸ List.not_mem_nil
  | cons c rest ih =>
      obtain ⟨first, others, hsplit⟩ := List.exists_cons_of_ne_nil (List.splitOn_ne_nil '+' rest)
      rw [List.splitOn_cons_eq_if_modifyHead, hsplit] at h
      rw [hsplit] at ih
      split at h
      · rcases List.mem_cons.mp h with rfl | h
        · exact List.not_mem_nil
        · exact ih h
      · next hc =>
          rcases List.mem_cons.mp h with rfl | h
          · rw [List.mem_cons, not_or]
            exact ⟨fun heq => hc (beq_iff_eq.mpr heq.symm), ih List.mem_cons_self⟩
          · exact ih (List.mem_cons_of_mem _ h)

/-- The pieces of a text are the one way in which it is joined. -/
theorem pieces_eq_iff {s : List Char} {names : List String} :
    pieces s = names ↔ Joined s names := by
  constructor
  · rintro rfl
    refine ⟨s.splitOn '+', List.splitOn_ne_nil _ _, fun piece => not_mem_of_mem_splitOn,
      (List.intercalate_splitOn '+').symm, ?_⟩
    rw [pieces, List.forall₂_map_right_iff, List.forall₂_same]
    intro piece _
    rw [String.toList_ofList]
    exact Text.trimsTo_trim piece
  · rintro ⟨pieces, hne, hplus, rfl, hnames⟩
    rw [Combo.pieces, List.splitOn_intercalate '+' hplus hne]
    clear hne hplus
    induction hnames with
    | nil => rfl
    | cons hfirst _ ih =>
        rw [List.map_cons, ih, Text.trim_eq_iff.mpr hfirst, String.ofList_toList]

/-! ## The rules -/

/-- A text holds names joined by plus signs, the last of them `last`: it is not blank, and what is
left without the blanks around it does not end with a plus sign. -/
def Holds (text : String) (names : List String) (last : String) : Prop :=
  ∃ s, TrimsTo text.toList s ∧ s ≠ [] ∧ s.getLast? ≠ some '+' ∧ Joined s (names ++ [last])

/-- How a text is taken as a combination. The key counts before the modifiers, and of these the
leftmost that is unknown. -/
inductive Reads (text : String) : Except ParseError Combo → Prop where
  | blank (blank : TrimsTo text.toList []) : Reads text (.error .emptyInput)
  | trailing {s : List Char} (trimmed : TrimsTo text.toList (s ++ ['+'])) :
      Reads text (.error .trailingSeparator)
  | unknownKey {names : List String} {last : String} (holds : Holds text names last)
      (unknown : ∀ key : Key, ¬ key.spelled last) : Reads text (.error (.unknownKey last))
  | unknownModifier {before after : List String} {culprit last : String} {key : Key}
      (holds : Holds text (before ++ culprit :: after) last) (known : key.spelled last)
      (unknown : ∀ modifier : Modifier, ¬ modifier.NamedBy culprit)
      (earlier : ∀ name ∈ before, ∃ modifier : Modifier, modifier.NamedBy name) :
      Reads text (.error (.unknownModifier culprit))
  | combo {names : List String} {last : String} {key : Key} {modifiers : List Modifier}
      (holds : Holds text names last) (known : key.spelled last)
      (named : List.Forall₂ (fun name modifier => modifier.NamedBy name) names modifiers) :
      Reads text (.ok (.ofList key modifiers.eraseDups))

/-- The modifiers that were read, without repeats, are those of the combination, in the same
order. -/
theorem toList_ofList_eraseDups (key : Key) (modifiers : List Modifier) :
    (ofList key modifiers.eraseDups).modifiers.toList = modifiers.eraseDups := by
  have hnodup : modifiers.eraseDups.Nodup :=
    Modifiers.toList_ofList modifiers ▸ (Modifiers.ofList modifiers).nodup
  rw [ofList, Modifiers.toList_ofList, eraseDups_eq_self hnodup]

/-- It does not matter how often a modifier is written. -/
theorem ofList_eraseDups (key : Key) (modifiers : List Modifier) :
    ofList key modifiers.eraseDups = ofList key modifiers := by
  have hlist := toList_ofList_eraseDups key modifiers
  rw [ofList] at hlist ⊢
  rw [ofList, mk.injEq, Modifiers.mk.injEq, hlist, Modifiers.toList_ofList]
  exact ⟨rfl, rfl⟩

/-- The modifier that a piece before the key names. -/
def readModifier (name : String) : Except ParseError Modifier :=
  match Modifier.ofText? name with
  | some modifier => .ok modifier
  | none => .error (.unknownModifier name)

/-- Modifiers are read name by name. -/
theorem parseModifiers_eq (names : List String) :
    parseModifiers names = names.mapM readModifier := rfl

/-- A name is read as the modifier that it names. -/
theorem readModifier_eq_ok_iff {name : String} {modifier : Modifier} :
    readModifier name = .ok modifier ↔ modifier.NamedBy name := by
  rw [← Modifier.ofText?_eq_some_iff, readModifier]
  cases Modifier.ofText? name <;> simp

/-- A name that names no modifier is reported, and no other is. -/
theorem readModifier_eq_error_iff {name : String} {fault : ParseError} :
    readModifier name = .error fault ↔
      fault = .unknownModifier name ∧ ∀ modifier : Modifier, ¬ modifier.NamedBy name := by
  rw [← Modifier.ofText?_eq_none_iff, readModifier]
  cases Modifier.ofText? name <;> simp [eq_comm]

/-- A text that holds names is read from its last name, which must be a key, and then from the
others, left to right. -/
theorem parse_of_holds {text : String} {names : List String} {last : String}
    (h : Holds text names last) :
    parse text =
      match Key.ofName? last with
      | none => .error (.unknownKey last)
      | some key => (names.mapM readModifier).map (ofList key) := by
  obtain ⟨s, htrim, hne, hlast, hjoined⟩ := h
  simp only [parse, Text.trim_eq_iff.mpr htrim, List.isEmpty_iff, if_neg hne, if_neg hlast,
    pieces_eq_iff.mpr hjoined, List.getLastD_concat, List.dropLast_concat, parseModifiers_eq]
  rfl

/-- The rules exclude each other: a text is read as the rule that applies to it says. -/
theorem Reads.parse_eq {text : String} {result : Except ParseError Combo} (h : Reads text result) :
    parse text = result := by
  cases h with
  | blank hblank =>
      rw [parse, Text.trim_eq_iff.mpr hblank]
      rfl
  | trailing htrimmed =>
      rw [parse, Text.trim_eq_iff.mpr htrimmed, if_neg (by simp), if_pos List.getLast?_concat]
  | unknownKey hholds hunknown =>
      rw [parse_of_holds hholds, Key.ofName?_eq_none_iff.mpr hunknown]
  | @unknownModifier before after culprit _ _ hholds hknown hunknown hearlier =>
      have hmodifiers : (before ++ culprit :: after).mapM readModifier =
          .error (.unknownModifier culprit) :=
        mapM_eq_error_iff.mpr
          ⟨before, culprit, after, rfl, readModifier_eq_error_iff.mpr ⟨rfl, hunknown⟩,
            fun name hname => (hearlier name hname).imp fun _ => readModifier_eq_ok_iff.mpr⟩
      rw [parse_of_holds hholds, Key.ofName?_of_spelled hknown, hmodifiers]
      rfl
  | combo hholds hknown hnamed =>
      have hmodifiers := mapM_eq_ok_iff.mpr (hnamed.imp fun _ _ => readModifier_eq_ok_iff.mpr)
      rw [parse_of_holds hholds, Key.ofName?_of_spelled hknown, hmodifiers, ofList_eraseDups]
      rfl

/-- Some rule applies to every text, and gives what is read. -/
theorem reads_parse (text : String) : Reads text (parse text) := by
  have htrim := Text.trimsTo_trim text.toList
  generalize Text.trim text.toList = s at htrim
  -- the rules are tried in the order in which they count
  by_cases hnil : s = []
  · subst hnil
    exact Reads.parse_eq (.blank htrim) ▸ .blank htrim
  by_cases hlast : s.getLast? = some '+'
  · obtain ⟨front, rfl⟩ := List.getLast?_eq_some_iff.mp hlast
    exact Reads.parse_eq (.trailing htrim) ▸ .trailing htrim
  have hpieces : pieces s ≠ [] := by
    rw [pieces, ne_eq, List.map_eq_nil_iff]
    exact List.splitOn_ne_nil _ _
  obtain ⟨names, last, hnames⟩ := (List.eq_nil_or_concat' _).resolve_left hpieces
  have hholds : Holds text names last := ⟨s, htrim, hnil, hlast, pieces_eq_iff.mp hnames⟩
  rw [parse_of_holds hholds]
  cases hkey : Key.ofName? last with
  | none => exact .unknownKey hholds (Key.ofName?_eq_none_iff.mp hkey)
  | some key =>
      have hknown := Key.ofName?_eq_some_iff.mp hkey
      cases hmodifiers : names.mapM readModifier with
      | error fault =>
          obtain ⟨before, culprit, after, rfl, hculprit, hearlier⟩ := mapM_eq_error_iff.mp hmodifiers
          obtain ⟨rfl, hunknown⟩ := readModifier_eq_error_iff.mp hculprit
          exact .unknownModifier hholds hknown hunknown fun name hname =>
            (hearlier name hname).imp fun _ => readModifier_eq_ok_iff.mp
      | ok modifiers =>
          have hnamed := (mapM_eq_ok_iff.mp hmodifiers).imp fun _ _ => readModifier_eq_ok_iff.mp
          show Reads text (.ok (ofList key modifiers))
          rw [← ofList_eraseDups]
          exact .combo hholds hknown hnamed

/-- A text is taken as a combination just as the grammar says. -/
theorem parse_eq_iff {text : String} {result : Except ParseError Combo} :
    parse text = result ↔ Reads text result :=
  ⟨fun h => h ▸ reads_parse text, Reads.parse_eq⟩

/-! ## Writing -/

/-- A name is written with blanks around it. -/
def Padded (name text : String) : Prop :=
  ∃ before after, Blank before ∧ Blank after ∧ text.toList = before ++ name.toList ++ after

/-- Blanks are no plus signs. -/
theorem not_mem_of_blank {s : List Char} (h : Blank s) : '+' ∉ s :=
  fun hmem => absurd (h '+' hmem) (by decide)

/-- A name with blanks around it holds no plus sign if the name is a word. -/
theorem Padded.not_mem {name text : String} (h : Padded name text) (hname : IsWord name.toList) :
    '+' ∉ text.toList := by
  obtain ⟨before, after, hbefore, hafter, heq⟩ := h
  rw [heq, List.mem_append, List.mem_append]
  rintro ((hmem | hmem) | hmem)
  · exact not_mem_of_blank hbefore hmem
  · exact hname.noPlus hmem
  · exact not_mem_of_blank hafter hmem

/-- Without the blanks around it a padded name is the name. -/
theorem Padded.trimsTo {name text : String} (h : Padded name text) (hname : IsWord name.toList) :
    TrimsTo text.toList name.toList := by
  obtain ⟨before, after, hbefore, hafter, heq⟩ := h
  rw [heq]
  exact hname.trimsTo hbefore hafter

/-- Words that are written with blanks around them and plus signs in between are joined from these
words. -/
theorem joined_intercalate {names texts : List String} (hne : names ≠ [])
    (hwords : ∀ name ∈ names, IsWord name.toList) (htexts : List.Forall₂ Padded names texts) :
    Joined ("+".intercalate texts).toList names := by
  have hpieces : (∀ piece ∈ texts.map String.toList, '+' ∉ piece) ∧
      List.Forall₂ (fun piece name => TrimsTo piece name.toList) (texts.map String.toList) names := by
    clear hne
    induction htexts with
    | nil => exact ⟨List.forall_mem_nil _, .nil⟩
    | cons hfirst _ ih =>
        obtain ⟨hword, hwords⟩ := List.forall_mem_cons.mp hwords
        obtain ⟨hplus, htrims⟩ := ih hwords
        exact ⟨List.forall_mem_cons.mpr ⟨hfirst.not_mem hword, hplus⟩,
          .cons (hfirst.trimsTo hword) htrims⟩
  have htexts_ne : texts ≠ [] := by
    rintro rfl
    exact hne (List.forall₂_nil_right_iff.mp htexts)
  exact ⟨texts.map String.toList, by simpa using htexts_ne, hpieces.1, String.toList_intercalate,
    hpieces.2⟩

/-- What stands before the first piece can be joined with it first. -/
theorem intercalate_append_cons (before piece : List Char) (rest : List (List Char)) :
    ['+'].intercalate ((before ++ piece) :: rest) = before ++ ['+'].intercalate (piece :: rest) := by
  cases rest with
  | nil => simp
  | cons next rest => simp [List.intercalate_cons_cons]

/-- What stands before the last piece does not depend on it. -/
theorem exists_intercalate_concat (pieces : List (List Char)) :
    ∃ front, ∀ last, ['+'].intercalate (pieces ++ [last]) = front ++ last := by
  induction pieces with
  | nil => exact ⟨[], fun last => by simp⟩
  | cons first rest ih =>
      obtain ⟨front, hfront⟩ := ih
      refine ⟨first ++ ['+'] ++ front, fun last => ?_⟩
      have hne : rest ++ [last] ≠ [] := List.concat_ne_nil last rest
      rw [List.cons_append, List.intercalate_cons_of_ne_nil hne, hfront, List.append_assoc _ front]

/-- Blanks before a text leave its pieces as they are. -/
theorem pieces_append_left {before : List Char} (h : Blank before) (s : List Char) :
    pieces (before ++ s) = pieces s := by
  obtain ⟨first, rest, hsplit⟩ := List.exists_cons_of_ne_nil (List.splitOn_ne_nil '+' s)
  have hplus : ∀ piece ∈ (before ++ first) :: rest, '+' ∉ piece := by
    have hall : ∀ piece ∈ first :: rest, '+' ∉ piece :=
      fun piece hpiece => not_mem_of_mem_splitOn (hsplit ▸ hpiece)
    obtain ⟨hfirst, hrest⟩ := List.forall_mem_cons.mp hall
    refine List.forall_mem_cons.mpr ⟨?_, hrest⟩
    rw [List.mem_append, not_or]
    exact ⟨not_mem_of_blank h, hfirst⟩
  have hjoin : before ++ s = ['+'].intercalate ((before ++ first) :: rest) := by
    rw [intercalate_append_cons, ← hsplit, List.intercalate_splitOn]
  rw [pieces, pieces, hjoin, List.splitOn_intercalate '+' hplus (List.cons_ne_nil _ _), hsplit,
    List.map_cons, List.map_cons, Text.trim_append_left h]

/-- Blanks after a text leave its pieces as they are. -/
theorem pieces_append_right {after : List Char} (h : Blank after) (s : List Char) :
    pieces (s ++ after) = pieces s := by
  obtain ⟨rest, last, hsplit⟩ := (List.eq_nil_or_concat' _).resolve_left (List.splitOn_ne_nil '+' s)
  obtain ⟨front, hfront⟩ := exists_intercalate_concat rest
  have hplus : ∀ piece ∈ rest ++ [last ++ after], '+' ∉ piece := by
    have hall : ∀ piece ∈ rest ++ [last], '+' ∉ piece :=
      fun piece hpiece => not_mem_of_mem_splitOn (hsplit ▸ hpiece)
    obtain ⟨hrest, hlast⟩ := List.forall_mem_append.mp hall
    refine List.forall_mem_append.mpr ⟨hrest, List.forall_mem_singleton.mpr ?_⟩
    rw [List.mem_append, not_or]
    exact ⟨hlast last List.mem_cons_self, not_mem_of_blank h⟩
  have hjoin : s ++ after = ['+'].intercalate (rest ++ [last ++ after]) := by
    rw [hfront, ← List.append_assoc, ← hfront, ← hsplit, List.intercalate_splitOn]
  rw [pieces, pieces, hjoin, List.splitOn_intercalate '+' hplus (List.concat_ne_nil _ _), hsplit,
    List.map_append, List.map_append, List.map_singleton, List.map_singleton,
    Text.trim_append_right h]

/-- A text is joined from the same names as what is left of it without the blanks around it. -/
theorem Joined.trim {s : List Char} {names : List String} (h : Joined s names) :
    Joined (Text.trim s) names := by
  obtain ⟨before, after, hbefore, hafter, heq⟩ := (Text.trimsTo_trim s).around
  rw [← pieces_eq_iff] at h ⊢
  calc pieces (Text.trim s)
    _ = pieces (before ++ (Text.trim s ++ after)) := by
        rw [pieces_append_left hbefore, pieces_append_right hafter]
    _ = names := by rw [← List.append_assoc, ← heq, h]

/-- A text that ends in a word, with blanks after it, is neither blank nor does it end with a plus
sign. -/
theorem holds_of_joined {text : String} {names : List String} {last : String} {front after : List Char}
    (hword : IsWord last.toList) (hafter : Blank after)
    (htext : text.toList = front ++ last.toList ++ after)
    (hjoined : Joined text.toList (names ++ [last])) : Holds text names last := by
  refine ⟨Text.trim text.toList, Text.trimsTo_trim _, ?_, ?_, hjoined.trim⟩ <;>
    obtain ⟨start, hstart⟩ := hword.exists_trim_eq_append front hafter <;> rw [htext, hstart]
  · exact List.append_ne_nil_of_right_ne_nil _ hword.ne_nil
  · rw [List.getLast?_append, List.getLast?_eq_some_getLast hword.ne_nil, Option.some_or, ne_eq,
      Option.some_inj]
    exact fun heq => hword.noPlus (heq ▸ List.getLast_mem hword.ne_nil)

/-- A key and modifiers are read back from any of their spellings, whatever blanks stand around
them. A modifier that is repeated, in whatever spelling, counts once. -/
theorem parse_intercalate {key : Key} {modifiers : List Modifier} {last : String}
    {names texts : List String} (hkey : key.spelled last)
    (hnames : List.Forall₂ (fun name modifier => Modifier.NamedBy modifier name) names modifiers)
    (htexts : List.Forall₂ Padded (names ++ [last]) texts) :
    parse ("+".intercalate texts) = .ok (.ofList key modifiers.eraseDups) := by
  have hlast : IsWord last.toList := Key.isWord_of_spelled hkey
  have hwords : ∀ name ∈ names ++ [last], IsWord name.toList := by
    refine List.forall_mem_append.mpr ⟨?_, List.forall_mem_singleton.mpr hlast⟩
    clear htexts
    induction hnames with
    | nil => exact List.forall_mem_nil _
    | cons hfirst _ ih => exact List.forall_mem_cons.mpr ⟨hfirst.isWord, ih⟩
  have hjoined := joined_intercalate (List.concat_ne_nil last names) hwords htexts
  -- the text that writes the key is the last one
  obtain ⟨text, rest, ⟨before, after, -, hafter, htext⟩, hrest, hdrop⟩ :=
    List.forall₂_cons_right_iff.mp (List.forall₂_drop_append texts names [last] htexts.flip)
  obtain ⟨front, hfront⟩ :=
    exists_intercalate_concat ((texts.take names.length).map String.toList)
  have hwhole : ("+".intercalate texts).toList = front ++ before ++ last.toList ++ after := by
    rw [← List.take_append_drop names.length texts, hdrop, List.forall₂_nil_right_iff.mp hrest,
      String.toList_intercalate, List.map_append, List.map_singleton]
    show ['+'].intercalate _ = _
    rw [hfront, htext]
    simp only [List.append_assoc]
  exact Reads.parse_eq (.combo (holds_of_joined hlast hafter hwhole hjoined) hkey hnames)

/-- Reading a combination. A text is taken as the grammar says and in no other way, a combination
keeps the key and the modifiers that were read, and what is written in any spelling is read back. -/
theorem parse_grammar :
    (∀ (text : String) (result : Except ParseError Combo),
      parse text = result ↔ Reads text result) ∧
    (∀ (key : Key) (modifiers : List Modifier),
      (ofList key modifiers.eraseDups).key = key ∧
        (ofList key modifiers.eraseDups).modifiers.toList = modifiers.eraseDups) ∧
    ∀ (key : Key) (modifiers : List Modifier) (last : String) (names texts : List String),
      key.spelled last →
      List.Forall₂ (fun name modifier => Modifier.NamedBy modifier name) names modifiers →
      List.Forall₂ Padded (names ++ [last]) texts →
        parse ("+".intercalate texts) = .ok (.ofList key modifiers.eraseDups) :=
  ⟨fun _ _ => parse_eq_iff, fun key modifiers => ⟨rfl, toList_ofList_eraseDups key modifiers⟩,
    fun _ _ _ _ _ hkey hnames htexts => parse_intercalate hkey hnames htexts⟩

/-- The command modifier in two spellings, blanks around most pieces, and a modifier that is spelled
like a key; and a text whose first piece is a key that does not act as a modifier. -/
theorem parse_grammar_spellings :
    parse "  lcmd + left_alt+ left_gui +enter\t" =
        .ok (.ofList .returnOrEnter [.leftCommand, .leftOption]) ∧
      Reads "a + b" (.error (.unknownModifier "a")) := by
  obtain ⟨hreads, -, hwritten⟩ := parse_grammar
  refine ⟨hwritten .returnOrEnter [.leftCommand, .leftOption, .leftCommand] "enter"
    ["lcmd", "left_alt", "left_gui"] ["  lcmd ", " left_alt", " left_gui ", "enter\t"] (by decide)
    ?_ ?_, (hreads _ _).mp (by decide)⟩
  · exact .cons (Or.inl (by decide)) (.cons (Or.inr ⟨.leftAlt, by decide, rfl⟩)
      (.cons (Or.inr ⟨.leftGui, by decide, rfl⟩) .nil))
  · exact .cons ⟨[' ', ' '], [' '], by decide, by decide, by decide⟩
      (.cons ⟨[' '], [], by decide, by decide, by decide⟩
        (.cons ⟨[' '], [' '], by decide, by decide, by decide⟩
          (.cons ⟨[], ['\t'], by decide, by decide, by decide⟩ .nil)))

end Combo

end KeyRemap
