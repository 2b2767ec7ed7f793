import KeyRemap.Json.Printer
import Mathlib.Logic.Function.Basic
import Mathlib.Tactic.SplitIfs

/-!
# JSON texts are read in one way

No two values are written alike. What follows a value is part of the argument, since values stand in
lists and objects: where two texts begin alike with a written value and neither value is followed by
a digit, the values are the same and so is what follows them (`Json.reads_render`). Hence printing
is injective (`Json.pretty_injective`), however deep lists and objects are nested.
-/

namespace KeyRemap

/-- Where texts begin alike with the code of `a` and with that of some other value, that value is `a`
too and the texts go on alike. `follows` tells which texts may come after a code. -/
def ReadsAs {α : Type} (follows : List Char → Prop) (code : α → List Char) (a : α) : Prop :=
  ∀ b r s, follows r → follows s → code a ++ r = code b ++ s → a = b ∧ r = s

namespace Json

/-- Induction over values: a list is reached from its items and an object from its members. -/
@[elab_as_elim]
theorem induction {motive : Json → Prop} (bool : ∀ value, motive (.bool value))
    (nat : ∀ value, motive (.nat value)) (str : ∀ value, motive (.str value))
    (arr : ∀ items, (∀ item ∈ items, motive item) → motive (.arr items))
    (obj : ∀ members, (∀ member ∈ members, motive member.2) → motive (.obj members)) :
    ∀ json, motive json
  | .bool value => bool value
  | .nat value => nat value
  | .str value => str value
  | .arr items => arr items fun item _ => induction bool nat str arr obj item
  | .obj members => obj members fun member _ => induction bool nat str arr obj member.2
termination_by json => sizeOf json
decreasing_by
  · rename_i hitem
    have hlt := List.sizeOf_lt_of_mem hitem
    simp only [Json.arr.sizeOf_spec]
    omega
  · rename_i hmember
    have hlt := List.sizeOf_lt_of_mem hmember
    obtain ⟨name, value⟩ := member
    simp only [Prod.mk.sizeOf_spec] at hlt
    simp only [Json.obj.sizeOf_spec]
    omega

/-! ## Strings -/

/-- The number that a hexadecimal digit stands for. -/
def hexValue (c : Char) : Nat :=
  if c.isDigit then c.toNat - '0'.toNat else c.toNat - 'a'.toNat + 10

/-- The character with which the inside of a string begins, and what comes after it. -/
def unescape : List Char → Option (Char × List Char)
  | '\\' :: 'b' :: rest => some ('\x08', rest)
  | '\\' :: 'f' :: rest => some ('\x0c', rest)
  | '\\' :: 'n' :: rest => some ('\n', rest)
  | '\\' :: 'r' :: rest => some ('\r', rest)
  | '\\' :: 't' :: rest => some ('\t', rest)
  | '\\' :: 'u' :: '0' :: '0' :: high :: low :: rest =>
    some (Char.ofNat (16 * hexValue high + hexValue low), rest)
  | '\\' :: c :: rest => some (c, rest)
  | c :: rest => some (c, rest)
  | [] => none

/-- The hexadecimal digit of a number stands for that number. -/
theorem hexValue_digitChar : ∀ n < 16, hexValue (Nat.digitChar n) = n := by
  decide

/-- An escaped character is told from what comes after it. -/
theorem unescape_escape (c : Char) (rest : List Char) :
    unescape (escape c ++ rest) = some (c, rest) := by
  unfold escape
  split_ifs with hquote hbackslash hb hf hn hr ht hcontrol
  · rw [hquote]; rfl
  · rw [hbackslash]; rfl
  · rw [hb]; rfl
  · rw [hf]; rfl
  · rw [hn]; rfl
  · rw [hr]; rfl
  · rw [ht]; rfl
  · show some (Char.ofNat (16 * hexValue _ + hexValue _), rest) = _
    rw [hexValue_digitChar _ (by omega), hexValue_digitChar _ (by omega), Nat.div_add_mod,
      Char.ofNat_toNat]
  · show unescape (c :: rest) = _
    rw [unescape.eq_def]
    split <;> simp_all

/-- No character is escaped to something that begins with a double quote. -/
theorem head_escape_ne (c : Char) (rest : List Char) :
    (escape c ++ rest).head? ≠ some '"' := by
  unfold escape
  split_ifs <;> simp_all

/-- The inside of a string can be told from what follows its closing quote. -/
theorem reads_escape {s t r r' : List Char}
    (h : s.flatMap escape ++ '"' :: r = t.flatMap escape ++ '"' :: r') : s = t ∧ r = r' := by
  induction s generalizing t with
  | nil => cases t with
    | nil => exact ⟨rfl, (List.cons.inj h).2⟩
    | cons d ds =>
        rw [List.flatMap_cons, List.append_assoc] at h
        exact absurd (congrArg List.head? h).symm (head_escape_ne d _)
  | cons c cs ih => cases t with
    | nil =>
        rw [List.flatMap_cons, List.append_assoc] at h
        exact absurd (congrArg List.head? h) (head_escape_ne c _)
    | cons d ds =>
        rw [List.flatMap_cons, List.append_assoc, List.flatMap_cons, List.append_assoc] at h
        have hfirst := congrArg unescape h
        rw [unescape_escape, unescape_escape] at hfirst
        obtain ⟨rfl, hrest⟩ := Prod.mk.inj (Option.some.inj hfirst)
        obtain ⟨rfl, hr⟩ := ih hrest
        exact ⟨rfl, hr⟩

/-- The closing quote ends a string, so nothing that follows can be taken for part of it. -/
theorem reads_quote (s : String) : ReadsAs (fun _ => True) quote s := by
  intro t r r' _ _ h
  simp only [quote, List.cons_append, List.append_assoc, List.cons.injEq, true_and] at h
  obtain ⟨hlist, hr⟩ := reads_escape h
  exact ⟨String.toList_inj.mp hlist, hr⟩

/-! ## Numbers -/

/-- A text that does not go on with a digit. -/
def NoDigit (rest : List Char) : Prop :=
  ∀ c ∈ rest.head?, c.isDigit = false

/-- The digits of a number are the digits up to what is no digit. -/
theorem takeWhile_toDigits (n : Nat) {rest : List Char} (h : NoDigit rest) :
    (Nat.toDigits 10 n ++ rest).takeWhile Char.isDigit = Nat.toDigits 10 n := by
  have hdigits : ∀ c ∈ Nat.toDigits 10 n, c.isDigit = true :=
    fun c hc => Nat.isDigit_of_mem_toDigits (by decide) (by decide) hc
  rw [List.takeWhile_append_of_pos hdigits]
  cases rest with
  | nil => simp
  | cons c rest => simp [h c rfl]

/-- A number ends where its digits end. -/
theorem reads_toDigits (n : Nat) : ReadsAs NoDigit (Nat.toDigits 10) n := by
  intro m r s hr hs h
  have hdigits : Nat.toDigits 10 n = Nat.toDigits 10 m := by
    rw [← takeWhile_toDigits n hr, h, takeWhile_toDigits m hs]
  rw [hdigits] at h
  refine ⟨?_, List.append_cancel_left h⟩
  rw [← @Nat.ofDigitChars_ten_toDigits n, hdigits, Nat.ofDigitChars_ten_toDigits]

/-! ## Brackets -/

/-- What stands between brackets after the first piece, and the closing bracket. -/
def bracketTail (closing : Char) (depth : Nat) : List (List Char) → List Char
  | [] => newline depth ++ [closing]
  | piece :: pieces => ',' :: newline (depth + 1) ++ piece ++ bracketTail closing depth pieces

/-- The first piece between brackets stands after the opening bracket, on a line of its own. -/
theorem bracket_cons (opening closing : Char) (depth : Nat) (piece : List Char)
    (pieces : List (List Char)) :
    bracket opening closing depth (piece :: pieces) =
      opening :: newline (depth + 1) ++ piece ++ bracketTail closing depth pieces := by
  have htail : ∀ piece, [','].intercalate ((piece :: pieces).map (newline (depth + 1) ++ ·)) ++
      newline depth ++ [closing] =
        newline (depth + 1) ++ piece ++ bracketTail closing depth pieces := by
    induction pieces with
    | nil => intro piece; simp [bracketTail, List.intercalate_singleton]
    | cons next rest ih =>
        intro piece
        rw [List.map_cons, List.map_cons, List.intercalate_cons_cons, ← List.map_cons]
        simp only [List.append_assoc, bracketTail] at ih ⊢
        rw [ih next]
        simp
  rw [bracket, List.isEmpty_cons]
  simp only [Bool.false_eq_true, if_false, List.cons_append]
  rw [htail piece]

/-- Neither a comma nor a new line is a digit. -/
theorem noDigit_bracketTail (closing : Char) (depth : Nat) (pieces : List (List Char))
    (rest : List Char) : NoDigit (bracketTail closing depth pieces ++ rest) := by
  intro c hc
  cases pieces with
  | nil => cases hc; rfl
  | cons piece pieces => cases hc; rfl

section Brackets

variable {α : Type} {code : α → List Char} {items : List α}

/-- If the items can be told from what follows them, then so can their list from its second item
on. -/
theorem reads_bracketTail (closing : Char) (depth : Nat)
    (h : ∀ item ∈ items, ReadsAs NoDigit code item) :
    ReadsAs (fun _ => True) (fun items => bracketTail closing depth (items.map code)) items := by
  intro others r s _ _ heq
  induction items generalizing others with
  | nil => cases others with
    | nil => exact ⟨rfl, List.append_cancel_left heq⟩
    | cons other others => cases heq
  | cons item items ih => cases others with
    | nil => cases heq
    | cons other others =>
        obtain ⟨hitem, hitems⟩ := List.forall_mem_cons.mp h
        simp only [List.map_cons, bracketTail, List.append_assoc, List.cons_append,
          List.cons.injEq, true_and, List.append_cancel_left_eq] at heq
        obtain ⟨rfl, hrest⟩ := hitem _ _ _ (noDigit_bracketTail _ _ _ _)
          (noDigit_bracketTail _ _ _ _) heq
        obtain ⟨rfl, hr⟩ := ih hitems others hrest
        exact ⟨rfl, hr⟩

/-- If the items can be told from what follows them, then so can their list in brackets. -/
theorem reads_bracket (opening closing : Char) (depth : Nat) (hclosing : closing ≠ '\n')
    (h : ∀ item ∈ items, ReadsAs NoDigit code item) :
    ReadsAs (fun _ => True) (fun items => bracket opening closing depth (items.map code)) items := by
  intro others r s _ _ heq
  cases items with
  | nil => cases others with
    | nil => exact ⟨rfl, List.append_cancel_left heq⟩
    | cons other others =>
        simp only [List.map_cons, bracket_cons] at heq
        exact absurd (List.cons.inj (List.cons.inj heq).2).1 hclosing
  | cons item items => cases others with
    | nil =>
        simp only [List.map_cons, bracket_cons] at heq
        exact absurd (List.cons.inj (List.cons.inj heq).2).1.symm hclosing
    | cons other others =>
        obtain ⟨hitem, hitems⟩ := List.forall_mem_cons.mp h
        simp only [List.map_cons, bracket_cons, List.append_assoc, List.cons_append,
          List.cons.injEq, true_and, List.append_cancel_left_eq] at heq
        -- a number as the first item ends there, since a comma or a new line follows it
        obtain ⟨rfl, hrest⟩ := hitem _ _ _ (noDigit_bracketTail _ _ _ _)
          (noDigit_bracketTail _ _ _ _) heq
        obtain ⟨rfl, hr⟩ := reads_bracketTail closing depth hitems others r s trivial trivial hrest
        exact ⟨rfl, hr⟩

end Brackets

/-! ## Values -/

/-- The text of a member of an object. -/
def renderMember (depth : Nat) (member : String × Json) : List Char :=
  quote member.1 ++ [':', ' '] ++ render depth member.2

/-- A list is written as its items between square brackets. -/
theorem render_arr (depth : Nat) (items : List Json) :
    render depth (.arr items) = bracket '[' ']' depth (items.map (render (depth + 1))) := by
  have hitems : ∀ items, renderItems (depth + 1) items = items.map (render (depth + 1)) := by
    intro items
    induction items with
    | nil => rw [renderItems, List.map_nil]
    | cons item rest ih => rw [renderItems, ih, List.map_cons]
  rw [render, hitems]

/-- An object is written as its members between curly brackets. -/
theorem render_obj (depth : Nat) (members : List (String × Json)) :
    render depth (.obj members) =
      bracket '\x7b' '\x7d' depth (members.map (renderMember (depth + 1))) := by
  have hmembers : ∀ members, renderMembers (depth + 1) members =
      members.map (renderMember (depth + 1)) := by
    intro members
    induction members with
    | nil => rw [renderMembers, List.map_nil]
    | cons member rest ih => rw [renderMembers, ih, List.map_cons, renderMember]
  rw [render, hmembers]

/-- The five kinds of values. -/
inductive Kind where
  | bool | nat | str | arr | obj

/-- The kind of a value. -/
def kind : Json → Kind
  | bool _ => .bool
  | nat _ => .nat
  | str _ => .str
  | arr _ => .arr
  | obj _ => .obj

/-- The kind of the value whose text begins with a character. -/
def Kind.ofFirst (c : Char) : Kind :=
  if c.isDigit then .nat
  else if c = '"' then .str
  else if c = '[' then .arr
  else if c = '\x7b' then .obj
  else .bool

/-- What is bracketed begins with its opening bracket. -/
theorem head_bracket (opening closing : Char) (depth : Nat) (pieces : List (List Char)) :
    (bracket opening closing depth pieces).head? = some opening := by
  cases pieces with
  | nil => rfl
  | cons piece pieces => rw [bracket_cons]; rfl

/-- The first character of a text tells the kind of its value. -/
theorem exists_head_render (depth : Nat) (json : Json) :
    ∃ c, (render depth json).head? = some c ∧ Kind.ofFirst c = json.kind := by
  cases json with
  | bool value => cases value <;> exact ⟨_, by rw [render]; rfl, rfl⟩
  | nat value =>
      rw [render]
      cases hdigits : Nat.toDigits 10 value with
      | nil => exact absurd hdigits Nat.toDigits_ne_nil
      | cons c rest =>
          have hc : c.isDigit = true :=
            Nat.isDigit_of_mem_toDigits (by decide) (by decide) (hdigits ▸ List.mem_cons_self)
          exact ⟨c, rfl, by rw [Kind.ofFirst, if_pos hc]; rfl⟩
  | str value => exact ⟨_, by rw [render]; rfl, rfl⟩
  | arr items => exact ⟨_, by rw [render_arr, head_bracket], rfl⟩
  | obj members => exact ⟨_, by rw [render_obj, head_bracket], rfl⟩

/-- Values of which one text begins with both are of one kind. -/
theorem kind_eq {a b : Json} {depth : Nat} {r s : List Char}
    (h : render depth a ++ r = render depth b ++ s) : a.kind = b.kind := by
  obtain ⟨c, hc, ha⟩ := exists_head_render depth a
  obtain ⟨d, hd, hb⟩ := exists_head_render depth b
  have hhead := congrArg List.head? h
  rw [List.head?_append, List.head?_append, hc, hd] at hhead
  rw [← ha, ← hb, Option.some.inj hhead]

/-- A member can be told from what follows it if its value can. -/
theorem reads_renderMember {member : String × Json} {depth : Nat}
    (h : ReadsAs NoDigit (render depth) member.2) : ReadsAs NoDigit (renderMember depth) member := by
  intro other r s hr hs heq
  simp only [renderMember, List.append_assoc] at heq
  obtain ⟨hname, hrest⟩ := reads_quote member.1 other.1 _ _ trivial trivial heq
  obtain ⟨hvalue, hr⟩ := h other.2 r s hr hs (List.append_cancel_left hrest)
  exact ⟨Prod.ext hname hvalue, hr⟩

/-- A value can be told from what follows it, unless that goes on with a digit. -/
theorem reads_render (json : Json) : ∀ depth, ReadsAs NoDigit (render depth) json := by
  induction json using Json.induction with
  | bool value =>
      intro depth other r s _ _ h
      -- the first character tells the kind, so only a value of the same kind is left to compare
      have hkind := kind_eq h
      cases other with
      | bool other => cases value <;> cases other <;> simp_all [render]
      | _ => cases hkind
  | nat value =>
      intro depth other r s hr hs h
      have hkind := kind_eq h
      cases other with
      | nat other =>
          rw [render, render] at h
          exact (reads_toDigits value other r s hr hs h).imp_left (congrArg nat)
      | _ => cases hkind
  | str value =>
      intro depth other r s _ _ h
      have hkind := kind_eq h
      cases other with
      | str other =>
          rw [render, render] at h
          exact (reads_quote value other r s trivial trivial h).imp_left (congrArg str)
      | _ => cases hkind
  | arr items ih =>
      intro depth other r s _ _ h
      have hkind := kind_eq h
      cases other with
      | arr others =>
          rw [render_arr, render_arr] at h
          have hreads := reads_bracket '[' ']' depth (by decide)
            fun item hitem => ih item hitem (depth + 1)
          exact (hreads others r s trivial trivial h).imp_left (congrArg arr)
      | _ => cases hkind
  | obj members ih =>
      intro depth other r s _ _ h
      have hkind := kind_eq h
      cases other with
      | obj others =>
          rw [render_obj, render_obj] at h
          have hreads := reads_bracket '\x7b' '\x7d' depth (by decide)
            fun member hmember => reads_renderMember (ih member hmember (depth + 1))
          exact (hreads others r s trivial trivial h).imp_left (congrArg obj)
      | _ => cases hkind

/-- Different values have different texts. -/
theorem pretty_injective : Function.Injective pretty := by
  intro a b h
  have hnone : NoDigit [] := fun _ hc => nomatch hc
  have htext : render 0 a ++ [] = render 0 b ++ [] := by
    rw [String.ofList_inj.mp h]
  exact (reads_render a 0 b [] [] hnone hnone htext).1

end Json

end KeyRemap
