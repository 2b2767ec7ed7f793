import KeyRemap.Cli.Program

/-!
# Watched runs

What a run writes is noted by a host that watches another one (`Host.noting`), so that writing a file
once more with the text it already has is told from leaving it alone. A run is the same whether or
not it is watched (`erases_main`): each part of the program, with the notes left out, is that part on
the host itself.
-/

namespace KeyRemap.Cli

/-- The files that a host was told to write, with their texts. -/
abbrev Notes := List (String × String)

variable {m : Type → Type} [Monad m] {α β : Type}

/-- A host that does what another one does, and notes every file that it is told to write. -/
def Host.noting (host : Host m) : Host (StateT Notes m) where
  home := host.home
  readFile path := host.readFile path
  fileExists path := host.fileExists path
  createDirectories path := host.createDirectories path
  writeFile path text := do
    modify (· ++ [(path, text)])
    host.writeFile path text
  readLine := host.readLine
  print text := host.print text

/-- Without the notes, one computation is the other. -/
def Erases (x : StateT Notes m α) (y : m α) : Prop := ∀ notes, Prod.fst <$> x.run notes = y

variable [LawfulMonad m]

namespace Erases

/-- A value is the same value with notes taken. -/
theorem pure (a : α) : Erases (Pure.pure a : StateT Notes m α) (Pure.pure a) := by
  intro notes
  rw [StateT.run_pure, map_pure]

/-- A step that takes no notes erases to itself. -/
theorem lift (y : m α) : Erases (liftM y : StateT Notes m α) y := by
  intro notes
  change Prod.fst <$> (StateT.lift y).run notes = y
  rw [StateT.run_lift, map_bind]
  simp

/-- Steps one after another erase to what they erase to. -/
theorem bind {x : StateT Notes m α} {y : m α} {f : α → StateT Notes m β} {g : α → m β}
    (hx : Erases x y) (hf : ∀ a, Erases (f a) (g a)) : Erases (x >>= f) (y >>= g) := by
  intro notes
  rw [StateT.run_bind, map_bind, ← hx notes, bind_map_left]
  exact bind_congr fun result => hf result.1 result.2

end Erases

variable (host : Host m)

/-- Writing a file is the same with notes taken. -/
theorem erases_writeFile (path text : String) :
    Erases (host.noting.writeFile path text) (host.writeFile path text) := by
  have hnote : host.noting.writeFile path text =
      modify (· ++ [(path, text)]) >>= fun _ => liftM (host.writeFile path text) := rfl
  intro notes
  rw [hnote, StateT.run_bind, StateT.run_modify, pure_bind]
  exact Erases.lift _ _

/-- Asking for leave is the same with notes taken. -/
theorem erases_confirm (path : String) :
    Erases (confirm host.noting path) (confirm host path) :=
  (Erases.lift _).bind fun _ => (Erases.lift _).bind fun _ => Erases.pure _

/-- Writing the output file is the same with notes taken. -/
theorem erases_writeOutput (path text : String) :
    Erases (writeOutput host.noting path text) (writeOutput host path text) := by
  rw [writeOutput, writeOutput]
  cases parentPath? path with
  | none => exact (erases_writeFile host path text).bind fun _ => Erases.pure _
  | some parent =>
      refine (Erases.lift (host.createDirectories parent)).bind fun made => ?_
      cases made with
      | error error => exact Erases.pure _
      | ok _ => exact (erases_writeFile host path text).bind fun _ => Erases.pure _

/-- Giving out a result is the same with notes taken. -/
theorem erases_emit (options : Options) (text : String) :
    Erases (emit host.noting options text) (emit host options text) := by
  rw [emit, emit]
  refine (Erases.lift (host.fileExists _)).bind fun present => ?_
  split
  · split
    · refine (erases_confirm host _).bind fun granted => ?_
      split
      · exact Erases.pure _
      · exact erases_writeOutput host _ text
    · exact erases_writeOutput host _ text
  · exact erases_writeOutput host _ text

/-- A run is the same with notes taken. -/
theorem erases_perform (options : Options) :
    Erases (perform host.noting options) (perform host options) := by
  refine (Erases.lift (host.readFile options.script)).bind fun content => ?_
  split
  · exact Erases.pure _
  · split
    · exact (Erases.lift _).bind fun _ => Erases.pure _
    · split
      · exact (Erases.lift _).bind fun _ => Erases.pure _
      · exact erases_emit host options _

/-- A run is the same whether or not it is watched. -/
theorem erases_main (arguments : List String) :
    Erases (main host.noting arguments) (main host arguments) := by
  rw [main, main]
  cases Request.ofArguments arguments with
  | misuse => exact Erases.pure _
  | help => exact (Erases.lift _).bind fun _ => Erases.pure _
  | version => exact (Erases.lift _).bind fun _ => Erases.pure _
  | run options =>
      refine (erases_perform host options).bind fun result => ?_
      cases result <;> exact Erases.pure _

end KeyRemap.Cli
