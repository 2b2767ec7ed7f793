import KeyRemap.Cli.FileTree
import Mathlib.Data.List.Basic
import Mathlib.Data.List.TakeWhile

/-!
# The steps of a path

A path is what stands before its last step, and that step. The steps that lead to other places are
not changed by what does not count at the end of a path (`movingSteps_trimPath`). So the path of the
directory that is made for a file (`parentPath?`) leads to where the last step of the path of the file
is taken (`FileTree.exists_isParent`).
-/

namespace KeyRemap.Cli

variable {path : String} {front last : List Char}

/-- Does a step lead to another place? -/
def moves (name : String) : Bool := name ≠ "" ∧ name ≠ "."

/-! ## Splitting a path -/

/-- Around a slash a text is split independently. -/
theorem splitOn_append_slash (dirs name : List Char) :
    (dirs ++ '/' :: name).splitOn '/' = dirs.splitOn '/' ++ name.splitOn '/' :=
  List.splitOnP_append_cons dirs name (beq_self_eq_true '/')

/-- A text without slashes is one step. -/
theorem splitOn_of_noSlash {name : List Char} (h : '/' ∉ name) : name.splitOn '/' = [name] := by
  have hone : ∀ piece ∈ [name], '/' ∉ piece := List.forall_mem_singleton.mpr h
  have hsplit := List.splitOn_intercalate '/' hone (List.cons_ne_nil _ _)
  rwa [List.intercalate_singleton] at hsplit

/-- The steps of a text that lead to other places. -/
def movingSteps (s : List Char) : List String :=
  ((s.splitOn '/').map String.ofList).filter moves

/-- A slash at the end of a text adds no step that leads anywhere. -/
theorem movingSteps_slash (s : List Char) : movingSteps (s ++ ['/']) = movingSteps s := by
  rw [movingSteps, splitOn_append_slash, List.map_append, List.filter_append]
  exact List.append_nil _

/-- Nor does a step that stays where it is. -/
theorem movingSteps_dot (s : List Char) : movingSteps (s ++ ['/', '.']) = movingSteps s := by
  rw [movingSteps, splitOn_append_slash, List.map_append, List.filter_append]
  exact List.append_nil _

/-- A text ends with a step, and a slash stands before that step unless nothing does. -/
theorem exists_lastStep (s : List Char) : ∃ front last, s = front ++ last ∧ '/' ∉ last ∧
    ∀ c ∈ front.getLast?, c = '/' := by
  refine ⟨(s.reverse.dropWhile (· ≠ '/')).reverse, (s.reverse.takeWhile (· ≠ '/')).reverse,
    ?_, ?_, ?_⟩
  · rw [← List.reverse_append, List.takeWhile_append_dropWhile, List.reverse_reverse]
  · intro hmem
    have hne := List.mem_takeWhile_imp (List.mem_reverse.mp hmem)
    simp at hne
  · intro c hc
    have hhead := List.head?_dropWhile_not (· ≠ '/') s.reverse
    rw [List.getLast?_reverse] at hc
    rw [hc] at hhead
    simpa using hhead

/-- The steps of a path are those before the last one and the last one. -/
theorem exists_steps_eq (hpath : path.toList = front ++ last) (hslash : '/' ∉ last)
    (hfront : ∀ c ∈ front.getLast?, c = '/') : ∃ before : List String,
    FileTree.steps path = before ++ [String.ofList last] ∧
      before.filter moves = movingSteps front := by
  rw [FileTree.steps, hpath]
  rcases front.eq_nil_or_concat' with rfl | ⟨dirs, c, rfl⟩
  · refine ⟨[], ?_, rfl⟩
    rw [List.nil_append, splitOn_of_noSlash hslash]
    rfl
  · obtain rfl : c = '/' := hfront c List.getLast?_concat
    refine ⟨(dirs.splitOn '/').map String.ofList, ?_, (movingSteps_slash dirs).symm⟩
    rw [List.append_assoc, List.singleton_append, splitOn_append_slash, splitOn_of_noSlash hslash,
      List.map_append]
    rfl

/-- Nothing is dropped from steps of which the last is not empty. -/
theorem dropWhile_steps {before : List String} {name : String}
    (hsteps : FileTree.steps path = before ++ [name]) (hname : name ≠ "") :
    ((FileTree.steps path).reverse.dropWhile (· = "")).reverse = FileTree.steps path := by
  rw [hsteps, List.reverse_append, List.reverse_singleton, List.singleton_append,
    List.dropWhile_cons_of_neg (by simpa using hname), List.reverse_cons, List.reverse_reverse]

/-- Nothing is dropped from the steps of a path that names a file. -/
theorem FileTree.steps_trimmed (hpath : path ≠ "") (hlast : path.toList.getLast? ≠ some '/') :
    ((steps path).reverse.dropWhile (· = "")).reverse = steps path := by
  obtain ⟨front, last, heq, hslash, hfront⟩ := exists_lastStep path.toList
  obtain ⟨before, hsteps, -⟩ := exists_steps_eq heq hslash hfront
  refine dropWhile_steps hsteps fun hempty => ?_
  -- with an empty last step the path would be empty or end with a slash
  rw [String.ofList_eq_empty_iff] at hempty
  rw [hempty, List.append_nil] at heq
  rw [heq] at hlast
  cases hfront' : front.getLast? with
  | none =>
      rw [List.getLast?_eq_none_iff.mp hfront'] at heq
      exact hpath (String.toList_eq_nil_iff.mp heq)
  | some c => exact hlast (hfront c hfront' ▸ hfront')

/-! ## The directory of a path -/

/-- Trimming a path drops only steps that lead nowhere. -/
theorem movingSteps_trimPath (s : List Char) :
    movingSteps (trimPath s).reverse = movingSteps s.reverse := by
  fun_induction trimPath s with
  | case1 c rest ih => rw [List.reverse_cons, movingSteps_slash, ih]
  | case2 rest ih =>
      rw [ih, List.reverse_cons, movingSteps_slash, List.reverse_cons, List.reverse_cons,
        List.append_assoc]
      exact (movingSteps_dot _).symm
  | case3 => rfl

/-- Trimming a path takes characters from its end, and from nowhere else. -/
theorem trimPath_suffix (s : List Char) : trimPath s <:+ s := by
  fun_induction trimPath s with
  | case1 c rest ih => exact ih.trans (List.suffix_cons _ _)
  | case2 rest ih => exact ih.trans (List.suffix_cons _ _)
  | case3 => exact List.suffix_rfl

/-- Trimming a path leaves some of it. -/
theorem trimPath_ne_nil {s : List Char} (h : s ≠ []) : trimPath s ≠ [] := by
  fun_induction trimPath s with
  | case1 c rest ih => exact ih (List.cons_ne_nil _ _)
  | case2 rest ih => exact ih (List.cons_ne_nil _ _)
  | case3 => exact h

/-- A step that leads to another place is neither empty nor a dot. -/
theorem chars_of_moves {last : List Char} (h : moves (String.ofList last)) :
    last ≠ [] ∧ last ≠ ['.'] := by
  constructor <;> rintro rfl <;> exact absurd h (by decide)

/-- The first character of a path in reverse is the last of its last step. -/
theorem mem_of_reverse_append_eq {last front rest : List Char} {c : Char} (hne : last ≠ [])
    (h : last.reverse ++ front = c :: rest) : c ∈ last := by
  cases hlast : last.reverse with
  | nil => exact absurd (List.reverse_eq_nil_iff.mp hlast) hne
  | cons first others =>
      rw [hlast, List.cons_append] at h
      obtain rfl := List.head_eq_of_cons_eq h
      exact List.mem_reverse.mp (hlast ▸ List.mem_cons_self)

/-- Nothing is trimmed from a path whose last step leads to another place. -/
theorem trimPath_eq_self {last : List Char} (hslash : '/' ∉ last)
    (hmoves : moves (String.ofList last)) (front : List Char) :
    trimPath (last.reverse ++ front) = last.reverse ++ front := by
  obtain ⟨hne, hdot⟩ := chars_of_moves hmoves
  apply trimPath.eq_3
  · intro c rest heq
    exact hslash (mem_of_reverse_append_eq hne heq)
  · intro rest heq
    -- the dot is not all of the last step, so the slash after it would belong to that step
    obtain ⟨first, others, hlast⟩ := List.exists_cons_of_ne_nil (List.reverse_ne_nil_iff.mpr hne)
    rw [hlast, List.cons_append] at heq
    obtain ⟨rfl, htail⟩ := List.cons_eq_cons.mp heq
    cases others with
    | nil => exact hdot (List.reverse_eq_iff.mp hlast)
    | cons second others =>
        obtain rfl := List.head_eq_of_cons_eq htail
        exact hslash (List.mem_reverse.mp (hlast ▸ List.mem_cons_of_mem _ List.mem_cons_self))

/-- What stands before the last step of a path, without what does not count at its end, is the path
of the directory. -/
theorem parentPath?_eq (hpath : path.toList = front ++ last) (hslash : '/' ∉ last)
    (hfront : ∀ c ∈ front.getLast?, c = '/') (hmoves : moves (String.ofList last)) :
    parentPath? path = some (String.ofList (trimPath front.reverse).reverse) := by
  -- dropping what comes after the last slash drops the last step and nothing else
  have hdrop : (last.reverse ++ front.reverse).dropWhile (· ≠ '/') = front.reverse := by
    rw [List.dropWhile_append_of_pos]
    · cases hreverse : front.reverse with
      | nil => rfl
      | cons c rest =>
          have hc : c = '/' := hfront c (by rw [← List.head?_reverse, hreverse]; rfl)
          rw [List.dropWhile_cons_of_neg (by simpa using hc)]
    · intro c hc
      have hne : c ≠ '/' := fun heq => hslash (heq ▸ List.mem_reverse.mp hc)
      exact decide_eq_true hne
  have htrimmed : trimPath path.toList.reverse = last.reverse ++ front.reverse := by
    rw [hpath, List.reverse_append, trimPath_eq_self hslash hmoves]
  have hne := (chars_of_moves hmoves).1
  rw [parentPath?, htrimmed]
  split
  · next hnil => exact absurd (List.reverse_eq_nil_iff.mp (List.append_eq_nil_iff.mp hnil).1) hne
  · next hroot => exact absurd (mem_of_reverse_append_eq hne hroot) hslash
  · rw [hdrop]

/-- The path of the directory is the beginning of the path. -/
theorem trimPath_front_prefix (front : List Char) : (trimPath front.reverse).reverse <+: front := by
  have hsuffix := trimPath_suffix front.reverse
  rwa [← List.reverse_prefix, List.reverse_reverse] at hsuffix

/-- The path of the directory begins with a slash exactly if the path does. -/
theorem head?_trimPath_front (hslash : '/' ∉ last) :
    (trimPath front.reverse).reverse.head? = some '/' ↔ (front ++ last).head? = some '/' := by
  cases hcase : front with
  | nil =>
      refine iff_of_false (by simp [trimPath]) fun hhead => ?_
      exact hslash (List.mem_of_mem_head? hhead)
  | cons first rest =>
      have hne : trimPath front.reverse ≠ [] := trimPath_ne_nil (by simp [hcase])
      obtain ⟨more, hmore⟩ := trimPath_front_prefix front
      obtain ⟨c, others, hc⟩ := List.exists_cons_of_ne_nil (List.reverse_ne_nil_iff.mpr hne)
      rw [hc, hcase, List.cons_append] at hmore
      obtain rfl := List.head_eq_of_cons_eq hmore
      rw [← hcase, hc]
      simp [hcase]

namespace FileTree

/-- The steps of a path, but for those that lead nowhere, in reverse. -/
theorem backwardSteps_ofList (s : List Char) :
    backwardSteps (String.ofList s) = (movingSteps s).reverse := by
  rw [backwardSteps, steps, String.toList_ofList]
  rfl

/-- The path `parent` leads to the directory in which the last step of `path` is taken, the steps to
it being `before`. -/
structure IsParent (home : Place) (path : String) (before : List String) (parent : String) :
    Prop where
  found : parentPath? path = some parent
  start : start home parent = start home path
  steps : backwardSteps parent = (before.filter moves).reverse
  size : parent.utf8ByteSize ≤ path.utf8ByteSize

/-- A path has a last step, and if that leads to another place, a parent. -/
theorem exists_isParent (home : Place) (path : String) : ∃ before name,
    steps path = before ++ [name] ∧ (moves name → ∃ parent, IsParent home path before parent) := by
  obtain ⟨front, last, hpath, hslash, hfront⟩ := exists_lastStep path.toList
  obtain ⟨before, hsteps, hbefore⟩ := exists_steps_eq hpath hslash hfront
  refine ⟨before, String.ofList last, hsteps, fun hmoves =>
    ⟨_, parentPath?_eq hpath hslash hfront hmoves, ?_, ?_, ?_⟩⟩
  · rw [start, start, String.toList_ofList, hpath]
    simp only [head?_trimPath_front hslash]
  · rw [backwardSteps_ofList, movingSteps_trimPath, List.reverse_reverse, hbefore]
  · obtain ⟨more, hmore⟩ := trimPath_front_prefix front
    have hwhole : path = String.ofList (trimPath front.reverse).reverse ++
        String.ofList (more ++ last) := by
      rw [← String.ofList_append, ← List.append_assoc, hmore, ← hpath, String.ofList_toList]
    rw [congrArg String.utf8ByteSize hwhole, String.utf8ByteSize_append]
    exact Nat.le_add_right _ _

end FileTree

end KeyRemap.Cli
