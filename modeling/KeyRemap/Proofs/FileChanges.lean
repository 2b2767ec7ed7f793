import KeyRemap.Proofs.PathSteps
import KeyRemap.Proofs.Traversals

/-!
# Changes to a tree of files

Making directories loses nothing and adds nothing but directories (`FileTree.Extends`). Writing a
file changes one place, the one where its path leads before and after; everything that stood
elsewhere stands there still (`FileTree.receives_write`).
-/

namespace KeyRemap.Cli.FileTree

variable {tree before after : FileTree} {home origin place other : Place} {path text : String}

/-! ## Places -/

/-- Removing one place leaves what stands at any other. -/
theorem lookup_filter_ne (h : other ≠ place) (entries : List (Place × Entry)) :
    (entries.filter (·.1 ≠ place)).lookup other = entries.lookup other := by
  induction entries with
  | nil => rfl
  | cons first rest ih =>
      obtain ⟨stands, entry⟩ := first
      by_cases hfirst : stands = place
      · subst hfirst
        rw [List.filter_cons_of_neg (by simp), ih, List.lookup_cons, beq_false_of_ne h]
      · rw [List.filter_cons_of_pos (by simpa using hfirst), List.lookup_cons, List.lookup_cons, ih]

/-- At the place that was set stands what was set there. -/
theorem entry?_set_self (h : place ≠ []) (entry : Entry) :
    entry? (tree.set place entry) place = some entry := by
  rw [ entry?, if_neg h, set, List.lookup_cons, beq_self_eq_true]

/-- A change at a place is none elsewhere. -/
theorem entry?_set_of_ne (h : other ≠ place) (entry : Entry) :
    entry? (tree.set place entry) other = tree.entry? other := by
  rw [ entry?, entry?, set, List.lookup_cons, beq_false_of_ne h]
  simp only [lookup_filter_ne h]

/-- A place at which no directory stands is not the root. -/
theorem ne_root (h : tree.entry? place ≠ some .directory) : place ≠ [] := by
  rintro rfl
  exact h rfl

/-! ## Paths -/

/-- Steps are only taken from directories. -/
theorem directory_of_step {name : String} (h : tree.step place name = .ok other) :
    tree.entry? place = some .directory := by
  rw [step] at h
  split at h
  · cases h
  · cases h
  · assumption

/-- All directories of a tree are directories of another one. -/
def KeepsDirectories (before after : FileTree) : Prop :=
  ∀ place, before.entry? place = some .directory → after.entry? place = some .directory

namespace KeepsDirectories

/-- A step that leads on leads to the same place as long as no directory is lost. -/
theorem step (h : KeepsDirectories before after) {name : String}
    (hstep : before.step place name = .ok other) : after.step place name = .ok other := by
  have hbefore := directory_of_step hstep
  rw [FileTree.step, h place hbefore]
  rwa [FileTree.step, hbefore] at hstep

/-- Where directories are kept, every sequence of steps still leads to the same place. -/
theorem foldlM_step (h : KeepsDirectories before after) {names : List String}
    (hsteps : names.foldlM before.step origin = .ok place) :
    names.foldlM after.step origin = .ok place := by
  induction names generalizing origin with
  | nil => exact hsteps
  | cons name rest ih =>
      rw [List.foldlM_cons, bind_eq_ok_iff] at hsteps ⊢
      obtain ⟨next, hname, hrest⟩ := hsteps
      exact ⟨next, h.step hname, ih hrest⟩

/-- A path that leads somewhere leads there as long as no directory is lost. -/
theorem locate (h : KeepsDirectories before after) (hpath : before.locate home path = .ok place) :
    after.locate home path = .ok place := by
  rw [FileTree.locate, bind_eq_ok_iff] at hpath ⊢
  obtain ⟨_, hlength, hsteps⟩ := hpath
  exact ⟨_, hlength, h.foldlM_step hsteps⟩

end KeepsDirectories

/-- Only a directory is lost by a change to it. -/
theorem keepsDirectories_set (h : tree.entry? place ≠ some .directory) (entry : Entry) :
    KeepsDirectories tree (tree.set place entry) := by
  intro other hother
  have hne : other ≠ place := by
    rintro rfl
    exact h hother
  rwa [entry?_set_of_ne hne]

/-! ## Directories -/

/-- At each place of a tree stands what stood there in another one, or a directory where nothing
did. -/
def Extends (before after : FileTree) : Prop :=
  ∀ place, after.entry? place = before.entry? place ∨
    before.entry? place = none ∧ after.entry? place = some .directory

namespace Extends

/-- Every tree extends itself. -/
theorem refl (tree : FileTree) : Extends tree tree := fun _ => .inl rfl

/-- What extends an extension extends the tree itself. -/
theorem trans {between : FileTree} (h : Extends before between) (h' : Extends between after) :
    Extends before after := by
  intro place
  rcases h' place with heq | ⟨hnone, hafter⟩
  · rw [heq]
    exact h place
  · rcases h place with heq | ⟨-, hbetween⟩
    · exact .inr ⟨heq ▸ hnone, hafter⟩
    · rw [hnone] at hbetween
      cases hbetween

end Extends

/-- A directory is added where nothing stood. -/
theorem extends_set (hnone : tree.entry? place = none) :
    Extends tree (tree.set place .directory) := by
  have hfree : tree.entry? place ≠ some .directory := by simp [hnone]
  intro other
  by_cases hother : other = place
  · subst hother
    exact .inr ⟨hnone, entry?_set_self (ne_root hfree) _⟩
  · exact .inl (entry?_set_of_ne hother _)

/-- To make a directory is to add it, unless it is there. -/
theorem extends_makeDirectory {names : List String}
    (h : tree.makeDirectory origin names = .ok after) : Extends tree after := by
  obtain ⟨place, -, h⟩ := bind_eq_ok_iff.mp h
  split at h
  · cases h
    exact .refl tree
  · cases h
  · next hnone =>
      cases h
      exact extends_set hnone

/-- Making directories extends a tree. -/
theorem extends_makeDirectories {names : List String}
    (h : tree.makeDirectories origin names = .ok after) : Extends tree after := by
  induction names generalizing after with
  | nil =>
      cases h
      exact .refl tree
  | cons name rest ih =>
      rw [makeDirectories] at h
      split at h
      · -- the directory around it was missing, so that one is made first
        obtain ⟨between, hrest, h⟩ := bind_eq_ok_iff.mp h
        exact (ih hrest).trans (extends_makeDirectory h)
      · exact extends_makeDirectory h

/-- Making a path of directories extends a tree. -/
theorem extends_makePath (h : tree.makePath home path = .ok after) : Extends tree after := by
  obtain ⟨_, -, h⟩ := bind_eq_ok_iff.mp h
  exact extends_makeDirectories h

/-! ## Files -/

/-- What writing a file does: it stands where its path leads, in place of a file or of nothing. -/
theorem write_eq_ok (hpath : path ≠ "") (h : tree.write home path text = .ok after) :
    ∃ place, tree.locate home path = .ok place ∧ tree.entry? place ≠ some .directory ∧
      after = tree.set place (.file text) := by
  obtain ⟨_, hlength, h⟩ := bind_eq_ok_iff.mp h
  split at h
  · -- a path that ends with a slash names no file
    obtain ⟨around, -, h⟩ := bind_eq_ok_iff.mp h
    obtain ⟨_, -, h⟩ := bind_eq_ok_iff.mp h
    cases h
  · next hlast =>
      rw [steps_trimmed hpath hlast] at h
      obtain ⟨place, hplace, h⟩ := bind_eq_ok_iff.mp h
      split at h
      · cases h
      · next hfree =>
          cases h
          exact ⟨place, bind_eq_ok_iff.mpr ⟨_, hlength, hplace⟩, hfree, rfl⟩

/-- A file with this text stands where the path leads, and elsewhere nothing has changed but that
there are directories where nothing stood. -/
def Receives (before after : FileTree) (home : Place) (path text : String) : Prop :=
  ∃ place, after.locate home path = .ok place ∧ after.entry? place = some (.file text) ∧
    ∀ other, other ≠ place → after.entry? other = before.entry? other ∨
      before.entry? other = none ∧ after.entry? other = some .directory

/-- A file is written where its path leads, and nowhere else, even if directories are made for it
first. -/
theorem receives_write {around : FileTree} (hpath : path ≠ "") (haround : Extends before around)
    (h : around.write home path text = .ok after) : Receives before after home path text := by
  obtain ⟨place, hplace, hfree, rfl⟩ := write_eq_ok hpath h
  refine ⟨place, (keepsDirectories_set hfree _).locate hplace,
    entry?_set_self (ne_root hfree) _, fun other hother => ?_⟩
  rw [entry?_set_of_ne hother]
  exact haround other

end KeyRemap.Cli.FileTree
