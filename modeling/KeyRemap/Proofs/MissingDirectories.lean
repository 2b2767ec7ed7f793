import KeyRemap.Proofs.FileChanges

/-!
# Directories that are missing

`FileTree.Admits` says of a tree alone that a file can be written: its path starts in a directory,
and directories where nothing stands are all that may be missing on the way. Making the directory
that is to hold the file, and those that are missing on the way to it, adds nothing that was not
missing (`FileTree.makeDirectories_within`), and then the file can be written
(`FileTree.Admits.makeParent`).
-/

namespace KeyRemap.Cli.FileTree

/-! ## Steps -/

variable {tree around : FileTree} {home origin place other : Place} {path name : String}
  {names : List String}

/-- A step from a directory does not depend on what else a tree holds. -/
theorem step_eq_step (h : tree.entry? origin = some .directory)
    (h' : around.entry? origin = some .directory) (name : String) :
    tree.step origin name = around.step origin name := by
  rw [step, step, h, h']

/-- The last step is taken where those before it lead. -/
theorem foldlM_step_concat_iff :
    (names ++ [name]).foldlM tree.step origin = .ok place ↔
      ∃ next, names.foldlM tree.step origin = .ok next ∧ tree.step next name = .ok place := by
  rw [List.foldlM_append, bind_eq_ok_iff]
  simp only [List.foldlM_cons, List.foldlM_nil, bind_pure]

/-- A step that does not lead to another place stays in its directory. -/
theorem step_of_stays (hname : ¬ moves name) (hplace : tree.entry? place = some .directory) :
    tree.step place name = .ok place := by
  have hstays : name = "." ∨ name = "" := by
    by_contra hleads
    obtain ⟨hdot, hempty⟩ := not_or.mp hleads
    exact hname (decide_eq_true ⟨hempty, hdot⟩)
  rw [step, hplace]
  exact if_pos hstays

/-- Steps that lead to a directory start in one. -/
theorem directory_of_foldlM_step (h : names.foldlM tree.step origin = .ok place)
    (hplace : tree.entry? place = some .directory) : tree.entry? origin = some .directory := by
  cases names with
  | nil =>
      cases h
      exact hplace
  | cons name rest =>
      obtain ⟨next, hname, -⟩ := bind_eq_ok_iff.mp h
      exact directory_of_step hname

/-- Steps that do not lead to another place may be left out on the way to a directory. -/
theorem foldlM_filter_moves_iff (hplace : tree.entry? place = some .directory) :
    (names.filter moves).foldlM tree.step origin = .ok place ↔
      names.foldlM tree.step origin = .ok place := by
  induction names generalizing origin with
  | nil => rfl
  | cons name rest ih =>
      by_cases hname : moves name
      · rw [List.filter_cons_of_pos hname, List.foldlM_cons, List.foldlM_cons, bind_eq_ok_iff,
          bind_eq_ok_iff]
        simp only [ih]
      · rw [List.filter_cons_of_neg hname, List.foldlM_cons, bind_eq_ok_iff, ih]
        constructor
        · intro hrest
          exact ⟨origin, step_of_stays hname (directory_of_foldlM_step hrest hplace), hrest⟩
        · rintro ⟨next, hstep, hrest⟩
          rw [step_of_stays hname (directory_of_step hstep)] at hstep
          cases hstep
          exact hrest

namespace Extends

variable (h : Extends tree around)

include h

/-- What is a directory stays one. -/
theorem keepsDirectories : KeepsDirectories tree around := by
  intro place hplace
  rcases h place with heq | ⟨hnone, -⟩
  · rw [heq, hplace]
  · rw [hnone] at hplace
    cases hplace

/-- No file stands where a directory does in the larger tree. -/
theorem entry?_of_directory (hplace : around.entry? place = some .directory) :
    tree.entry? place = some .directory ∨ tree.entry? place = none := by
  rcases h place with heq | ⟨hnone, -⟩
  · exact Or.inl (heq ▸ hplace)
  · exact Or.inr hnone

/-- Steps that lead somewhere in the larger tree lead there already, or meet a place where nothing
stands. -/
theorem foldlM_step_or (hsteps : names.foldlM around.step origin = .ok place) :
    names.foldlM tree.step origin = .ok place ∨
      names.foldlM tree.step origin = .error .notFound := by
  induction names generalizing origin with
  | nil => exact Or.inl hsteps
  | cons name rest ih =>
      obtain ⟨next, hname, hrest⟩ := bind_eq_ok_iff.mp hsteps
      have horigin := directory_of_step hname
      rw [List.foldlM_cons]
      rcases h.entry?_of_directory horigin with hdirectory | hnone
      · rw [step_eq_step hdirectory horigin, hname]
        exact ih hrest
      · have hmissing : tree.step origin name = .error .notFound := by
          rw [step, hnone]
        rw [hmissing]
        exact Or.inr rfl

end Extends

/-! ## Making directories -/

/-- A tree that is made within a larger one: it is not larger, and steps lead in it to a directory. -/
structure Made (around after : FileTree) (origin : Place) (names : List String) (place : Place) :
    Prop where
  within : Extends after around
  steps : names.foldlM after.step origin = .ok place
  directory : after.entry? place = some .directory

/-- A directory is added where nothing stood, and the larger tree has one there. -/
theorem Extends.set_directory (h : Extends tree around) (hnone : tree.entry? place = none)
    (hplace : around.entry? place = some .directory) :
    Extends (tree.set place .directory) around := by
  intro other
  by_cases hother : other = place
  · subst hother
    have hfree : tree.entry? other ≠ some .directory := by simp [hnone]
    rw [entry?_set_self (ne_root hfree)]
    exact Or.inl hplace
  · rw [entry?_set_of_ne hother]
    exact h other

/-- A directory is made where steps lead, if nothing is missing on the way and it is one in the
larger tree. -/
theorem makeDirectory_within (h : Extends tree around)
    (hsteps : names.foldlM tree.step origin = .ok place)
    (hplace : around.entry? place = some .directory) :
    ∃ after, tree.makeDirectory origin names = .ok after ∧
      Made around after origin names place := by
  rcases h.entry?_of_directory hplace with hdirectory | hnone
  · refine ⟨tree, bind_eq_ok_iff.mpr ⟨place, hsteps, ?_⟩, h, hsteps, hdirectory⟩
    rw [hdirectory]
    rfl
  · have hfree : tree.entry? place ≠ some .directory := by simp [hnone]
    refine ⟨tree.set place .directory, bind_eq_ok_iff.mpr ⟨place, hsteps, ?_⟩,
      h.set_directory hnone hplace, (keepsDirectories_set hfree _).foldlM_step hsteps,
      entry?_set_self (ne_root hfree) _⟩
    rw [hnone]
    rfl

/-- A directory is made with all that are missing on the way to it, and nothing else is. The
induction is on the steps in reverse, as they are tried: where one meets a place where nothing
stands, the directory before it is made first. -/
theorem makeDirectories_within (h : Extends tree around)
    (horigin : tree.entry? origin = some .directory)
    (hsteps : names.reverse.foldlM around.step origin = .ok place)
    (hplace : around.entry? place = some .directory) :
    ∃ after, tree.makeDirectories origin names = .ok after ∧
      Made around after origin names.reverse place := by
  induction names generalizing place with
  | nil =>
      cases hsteps
      exact ⟨tree, rfl, h, rfl, horigin⟩
  | cons name before ih =>
      unfold makeDirectories
      rcases h.foldlM_step_or hsteps with hthere | hmissing
      · obtain ⟨after, hmake, hmade⟩ := makeDirectory_within h hthere hplace
        rw [hmake]
        exact ⟨after, rfl, hmade⟩
      · have hmake : tree.makeDirectory origin (name :: before).reverse = .error .notFound := by
          unfold makeDirectory
          rw [hmissing]
          rfl
        rw [hmake]
        -- once the directory before is there, only this one is missing
        rw [List.reverse_cons] at hsteps ⊢
        obtain ⟨next, hbefore, hname⟩ := foldlM_step_concat_iff.mp hsteps
        have hnext := directory_of_step hname
        obtain ⟨between, hbetween, hwithin, hway, hdirectory⟩ := ih hbefore hnext
        have hstep := (step_eq_step hdirectory hnext name).trans hname
        have hthere := foldlM_step_concat_iff.mpr ⟨next, hway, hstep⟩
        obtain ⟨after, hafter, hmade⟩ := makeDirectory_within hwithin hthere hplace
        refine ⟨after, ?_, hmade⟩
        show (tree.makeDirectories origin before >>= fun between =>
          between.makeDirectory origin (before.reverse ++ [name])) = _
        rw [hbetween]
        exact hafter

/-! ## What a tree admits -/

/-- A tree lets a file be written: its path starts in a directory, and once there are directories at
places where nothing stands, it leads to a place that is not that of a directory. -/
structure Admits (tree : FileTree) (home : Place) (path : String) : Prop where
  origin : tree.entry? (start home path) = some .directory
  room : ∃ around place, Extends tree around ∧ around.locate home path = .ok place ∧
    around.entry? place ≠ some .directory

/-- Where a path leads to no directory, its last step leads there from another place. -/
theorem moves_of_step (hstep : tree.step origin name = .ok place)
    (hplace : tree.entry? place ≠ some .directory) : moves name := by
  by_contra hname
  have horigin := directory_of_step hstep
  rw [step_of_stays hname horigin] at hstep
  cases hstep
  exact hplace horigin

/-- A path that is not longer than another is not too long either. -/
theorem checkLength_of_le {longer : String} (h : checkLength longer = .ok ())
    (hle : path.utf8ByteSize ≤ longer.utf8ByteSize) : checkLength path = .ok () := by
  unfold checkLength at h ⊢
  split at h
  · cases h
  · next hfits => rw [if_neg (fun hlong => hfits (hlong.trans_le hle))]

/-- A file is written where its path leads, if its last step leads to another place and no directory
stands there. -/
theorem write_of_locate {before : List String} (hsteps : steps path = before ++ [name])
    (hname : moves name) (hplace : tree.locate home path = .ok place)
    (hfree : tree.entry? place ≠ some .directory) (text : String) :
    tree.write home path text = .ok (tree.set place (.file text)) := by
  obtain ⟨_, hlength, hlocate⟩ := bind_eq_ok_iff.mp hplace
  have hempty : name ≠ "" := by
    rintro rfl
    exact absurd hname (by decide)
  have hslash : path.toList.getLast? ≠ some '/' := by
    intro hlast
    obtain ⟨front, hfront⟩ := List.getLast?_eq_some_iff.mp hlast
    rw [steps, hfront, splitOn_append_slash, List.map_append] at hsteps
    exact hempty (List.singleton_inj.mp (List.append_inj_right' hsteps rfl)).symm
  refine bind_eq_ok_iff.mpr ⟨(), hlength, ?_⟩
  rw [dropWhile_steps hsteps hempty, if_neg hslash]
  refine bind_eq_ok_iff.mpr ⟨place, hlocate, ?_⟩
  rw [if_neg hfree]
  rfl

/-- A file that a tree lets be written has a parent. Making that makes what was missing, and then the
file can be written. -/
theorem Admits.makeParent (h : tree.Admits home path) : ∃ parent around,
    parentPath? path = some parent ∧ tree.makePath home parent = .ok around ∧
      ∀ text, ∃ after, around.write home path text = .ok after := by
  obtain ⟨horigin, wide, place, hwide, hlocate, hfree⟩ := h
  obtain ⟨before, name, hsteps, hparent⟩ := exists_isParent home path
  obtain ⟨_, hlength, hlocate⟩ := bind_eq_ok_iff.mp hlocate
  rw [hsteps] at hlocate
  obtain ⟨next, hbefore, hname⟩ := foldlM_step_concat_iff.mp hlocate
  have hnext := directory_of_step hname
  have hmoves := moves_of_step hname hfree
  obtain ⟨parent, hfound, hstart, hbackward, hsize⟩ := hparent hmoves
  -- the directory is made by the steps that lead to other places
  have hmoving : (before.filter moves).reverse.reverse.foldlM wide.step (start home path) =
      .ok next := by
    rw [List.reverse_reverse]
    exact (foldlM_filter_moves_iff hnext).mpr hbefore
  obtain ⟨around, hmake, hwithin, hway, hdirectory⟩ :=
    makeDirectories_within hwide horigin hmoving hnext
  have hmade : tree.makePath home parent = .ok around := by
    refine bind_eq_ok_iff.mpr ⟨(), checkLength_of_le hlength hsize, ?_⟩
    rw [hstart, hbackward]
    exact hmake
  have hplace : around.locate home path = .ok place := by
    refine bind_eq_ok_iff.mpr ⟨(), hlength, ?_⟩
    rw [List.reverse_reverse] at hway
    rw [hsteps]
    exact foldlM_step_concat_iff.mpr ⟨next, (foldlM_filter_moves_iff hdirectory).mp hway,
      (step_eq_step hdirectory hnext name).trans hname⟩
  have hfree' : around.entry? place ≠ some .directory :=
    fun hdirectory => hfree (hwithin.keepsDirectories place hdirectory)
  exact ⟨parent, around, hfound, hmade,
    fun text => ⟨_, write_of_locate hsteps hmoves hplace hfree' text⟩⟩

end KeyRemap.Cli.FileTree
