import KeyRemap.Proofs.MissingDirectories
import KeyRemap.Proofs.Requests
import KeyRemap.Proofs.Trimming
import KeyRemap.Proofs.Watching
import Mathlib.Data.List.TakeDrop

/-!
# Runs of the command line

A run touches no file but its output file, and that one only after everything before has succeeded
and there is leave to write it (`touches_output_only`). A run ends in one of five ways (`Ends`), and
each part of the program is followed to the way in which it ends (`watch_perform`). Of the tree it is
assumed that nothing but directories is missing for the output file (`FileTree.Admits`); these are
made before it is written.
-/

namespace KeyRemap.Cli

variable {world : World} {home : Place} {options : Options} {path text script json : String}

/-! ## What a run goes by -/

/-- A script that is read, converted and compiled gives this text. -/
def World.Yields (world : World) (home : Place) (script json : String) : Prop :=
  ∃ text parsed config document, world.tree.read home script = .ok text ∧
    Script.parse text = .ok parsed ∧ parsed.config = .ok config ∧ config.compile = .ok document ∧
    json = document.pretty

/-- The first line of the input is a yes, but for blanks around it and for the case of its
letters. -/
def World.Consents (world : World) : Prop :=
  ∃ word, Text.TrimsTo (world.input.toList.takeWhile (· ≠ '\n')) word ∧
    (word.map Char.toLower = "y".toList ∨ word.map Char.toLower = "yes".toList)

/-- The output file: the one that is named, or else the one that is written by default. -/
def Options.outputPath (options : Options) (home : Place) : String :=
  options.output.getD (defaultOutput (World.host home).home)

/-- The output file is new, or there is leave to overwrite it, given beforehand or when asked. -/
def World.MayWrite (world : World) (home : Place) (options : Options) : Prop :=
  (¬ ∃ entry, world.tree.find home (options.outputPath home) = .ok entry) ∨ options.yes = true ∨
    world.Consents

/-- The output file is to be written with this text. -/
structure World.Writes (world : World) (home : Place) (options : Options) (json : String) :
    Prop where
  unchecked : options.check = false
  unprinted : options.stdout = false
  yields : world.Yields home options.script json
  leave : world.MayWrite home options

/-- The output file exists and there is no leave to overwrite it. -/
structure World.Declines (world : World) (home : Place) (options : Options) : Prop where
  unchecked : options.check = false
  unprinted : options.stdout = false
  noLeave : ¬ world.MayWrite home options

/-- Compiling what is read from a script file succeeds with what the script yields, and only
then. -/
theorem compileText_eq_ok_iff : compileText script (world.tree.read home script) = .ok json ↔
    world.Yields home script json := by
  simp only [compileText, bind_eq_ok_iff, mapError_eq_ok_iff, World.Yields]
  constructor
  · rintro ⟨text, htext, parsed, hparsed, config, hconfig, document, hdocument, h⟩
    exact ⟨text, parsed, config, document, htext, hparsed, hconfig, hdocument,
      (Except.ok.inj h).symm⟩
  · rintro ⟨text, parsed, config, document, htext, hparsed, hconfig, hdocument, rfl⟩
    exact ⟨text, htext, parsed, hparsed, config, hconfig, document, hdocument, rfl⟩

/-- An answer counts as a yes when it is one of the two words, but for blanks and for the case of
letters. -/
theorem isYes_iff {answer : String} : isYes answer = true ↔
    (Text.trim answer.toList).map Char.toLower = "y".toList ∨
      (Text.trim answer.toList).map Char.toLower = "yes".toList := by
  simp [isYes]

/-- The line break at the end of an answer is a blank like others. -/
theorem isYes_line : isYes (String.ofList (World.splitLine world.input.toList).1) = true ↔
    world.Consents := by
  -- what follows the first line is empty or begins with the line break
  have hbreak : Text.Blank ((world.input.toList.dropWhile (· ≠ '\n')).take 1) := by
    intro c hc
    have hhead := List.head?_dropWhile_not (· ≠ '\n') world.input.toList
    cases hrest : world.input.toList.dropWhile (· ≠ '\n') with
    | nil =>
        rw [hrest] at hc
        cases hc
    | cons first rest =>
        rw [hrest] at hc hhead
        obtain rfl : c = first := List.mem_singleton.mp hc
        obtain rfl : c = '\n' := by simpa using hhead
        decide
  have htrim : Text.trim (World.splitLine world.input.toList).1 =
      Text.trim (world.input.toList.takeWhile (· ≠ '\n')) := by
    rw [World.splitLine, List.span_eq_takeWhile_dropWhile]
    exact Text.trim_append_right hbreak _
  rw [isYes_iff, String.toList_ofList, htrim]
  constructor
  · intro h
    exact ⟨_, Text.trimsTo_trim _, h⟩
  · rintro ⟨word, hword, h⟩
    rwa [Text.trim_eq_iff.mpr hword]

/-- A request that was understood never names the empty path as its output. -/
theorem Options.outputPath_ne_empty {arguments : List String}
    (h : Request.ofArguments arguments = .run options) (home : Place) :
    options.outputPath home ≠ "" := by
  rw [outputPath]
  cases houtput : options.output with
  | none => simp [defaultOutput]
  | some path =>
      rintro rfl
      exact Request.output_ne_empty h houtput

/-- A script gives at most one text. -/
theorem World.Yields.unique {other : String} (h : world.Yields home script json)
    (h' : world.Yields home script other) : json = other := by
  have heq := compileText_eq_ok_iff.mpr h
  rw [compileText_eq_ok_iff.mpr h'] at heq
  exact (Except.ok.inj heq).symm

/-! ## How a run ends -/

/-- The five ways in which a run ends. -/
inductive Ends (world : World) (home : Place) (options : Options) :
    Except Failure Unit → Notes → World → Prop where
  | failed {failure : Failure} (fruitless : ¬ ∃ json, world.Yields home options.script json) :
      Ends world home options (.error failure) [] world
  | checked {json : String} (yields : world.Yields home options.script json)
      (check : options.check = true) :
      Ends world home options (.ok ()) []
        { world with printed := world.printed ++ (options.script ++ " is valid\n") }
  | printed {json : String} (yields : world.Yields home options.script json)
      (check : options.check = false) (stdout : options.stdout = true) :
      Ends world home options (.ok ()) [] { world with printed := world.printed ++ (json ++ "\n") }
  | declined {failure : Failure} {after : World} (declines : world.Declines home options)
      (tree : after.tree = world.tree) : Ends world home options (.error failure) [] after
  | written {json : String} {after : World} (writes : world.Writes home options json)
      (receives : world.tree.Receives after.tree home (options.outputPath home) json) :
      Ends world home options (.ok ()) [(options.outputPath home, json)] after

namespace Ends

variable {result : Except Failure Unit} {notes : Notes} {after : World}

/-- A run that is to write the output file writes it and nothing else. -/
theorem of_writes (h : Ends world home options result notes after)
    (hwrites : world.Writes home options json) : notes = [(options.outputPath home, json)] ∧
      world.tree.Receives after.tree home (options.outputPath home) json := by
  obtain ⟨hcheck, hstdout, hyields, hleave⟩ := hwrites
  cases h with
  | failed fruitless => exact absurd ⟨json, hyields⟩ fruitless
  | checked _ check => simp [hcheck] at check
  | printed _ _ stdout => simp [hstdout] at stdout
  | declined declines => exact absurd hleave declines.noLeave
  | written writes receives =>
      obtain rfl := hyields.unique writes.yields
      exact ⟨rfl, receives⟩

/-- A run that is not to write leaves all files as they are. -/
theorem untouched (h : Ends world home options result notes after)
    (hnone : ¬ ∃ json, world.Writes home options json) : notes = [] ∧ after.tree = world.tree := by
  cases h with
  | failed => exact ⟨rfl, rfl⟩
  | checked => exact ⟨rfl, rfl⟩
  | printed => exact ⟨rfl, rfl⟩
  | declined _ tree => exact ⟨rfl, tree⟩
  | written writes => exact absurd ⟨_, writes⟩ hnone

/-- A run fails when its script yields nothing, or when it may not overwrite what is there. -/
theorem fails_iff (h : Ends world home options result notes after) :
    (∃ failure, result = .error failure) ↔
      (¬ ∃ json, world.Yields home options.script json) ∨ world.Declines home options := by
  cases h with
  | failed fruitless => exact iff_of_true ⟨_, rfl⟩ (.inl fruitless)
  | declined declines => exact iff_of_true ⟨_, rfl⟩ (.inr declines)
  | checked yields check =>
      refine iff_of_false (by simp) ?_
      rintro (fruitless | declines)
      · exact fruitless ⟨_, yields⟩
      · simp [declines.unchecked] at check
  | printed yields check stdout =>
      refine iff_of_false (by simp) ?_
      rintro (fruitless | declines)
      · exact fruitless ⟨_, yields⟩
      · simp [declines.unprinted] at stdout
  | written writes =>
      refine iff_of_false (by simp) ?_
      rintro (fruitless | declines)
      · exact fruitless ⟨_, writes.yields⟩
      · exact declines.noLeave writes.leave

/-- A check says that the script is valid, and nothing else. -/
theorem printed_of_check (h : Ends world home options result notes after)
    (hyields : world.Yields home options.script json) (hcheck : options.check = true) :
    after.printed = world.printed ++ (options.script ++ " is valid\n") := by
  cases h with
  | failed fruitless => exact absurd ⟨_, hyields⟩ fruitless
  | checked => rfl
  | printed _ check => simp [hcheck] at check
  | declined declines => simp [declines.unchecked] at hcheck
  | written writes => simp [writes.unchecked] at hcheck

/-- A run that is to print what it compiles prints it, and the check comes before. -/
theorem printed_of_stdout (h : Ends world home options result notes after)
    (hyields : world.Yields home options.script json) (hcheck : options.check = false)
    (hstdout : options.stdout = true) : after.printed = world.printed ++ (json ++ "\n") := by
  cases h with
  | failed fruitless => exact absurd ⟨_, hyields⟩ fruitless
  | checked _ check => simp [hcheck] at check
  | printed yields =>
      obtain rfl := hyields.unique yields
      rfl
  | declined declines => simp [declines.unprinted] at hstdout
  | written writes => simp [writes.unprinted] at hstdout

end Ends

/-! ## The parts of a run -/

/-- A watched run of a part of the program: its result, what it notes, and the world after it. -/
def watch {α : Type} (part : StateT Notes (StateM World) α) (world : World) :
    (α × Notes) × World :=
  (part.run []).run world

section Parts

variable {α β : Type} {first : StateT Notes (StateM World) α} {a : α} {after : World}

/-- What comes after a part that notes nothing is watched as if it came first. -/
theorem watch_bind (rest : α → StateT Notes (StateM World) β)
    (h : watch first world = ((a, []), after)) :
    watch (first >>= rest) world = watch (rest a) after := by
  change ((rest (watch first world).1.1).run (watch first world).1.2).run (watch first world).2 = _
  rw [h]
  rfl

/-- A part that only returns something is the end of what is watched. -/
theorem watch_bind_pure {rest : α → StateT Notes (StateM World) β} {b : β} {notes : Notes}
    (h : watch first world = ((a, notes), after)) (hrest : rest a = pure b) :
    watch (first >>= rest) world = ((b, notes), after) := by
  change ((rest (watch first world).1.1).run (watch first world).1.2).run (watch first world).2 = _
  rw [h, hrest]
  rfl

end Parts

/-- A question changes no file, and its answer is the first line of the input. -/
theorem watch_confirm (world : World) (home : Place) (path : String) : ∃ granted after,
    watch (confirm (World.host home).noting path) world = ((granted, []), after) ∧
      (granted = true ↔ world.Consents) ∧ after.tree = world.tree :=
  ⟨_, _, rfl, isYes_line, rfl⟩

/-- A change of the files that succeeds changes nothing but the files. -/
theorem run_change {result : FileTree → Except FileError FileTree} {tree : FileTree}
    (h : result world.tree = .ok tree) :
    (World.change result).run world = (.ok (), { world with tree }) := by
  rw [World.change, StateT.run_bind, StateT.run_get, pure_bind, h]
  rfl

/-- Creating directories is not noted, and it changes nothing but the files. -/
theorem watch_createDirectories {tree : FileTree} (h : world.tree.makePath home path = .ok tree) :
    watch ((World.host home).noting.createDirectories path) world =
      ((.ok (), []), { world with tree }) :=
  congrArg (fun result : Except FileError Unit × World => ((result.1, []), result.2))
    (run_change h)

/-- Writing a file is noted with its path and its text, and it changes nothing but the files. -/
theorem watch_writeFile {tree : FileTree} (h : world.tree.write home path text = .ok tree) :
    watch ((World.host home).noting.writeFile path text) world =
      ((.ok (), [(path, text)]), { world with tree }) :=
  congrArg (fun result : Except FileError Unit × World => ((result.1, [(path, text)]), result.2))
    (run_change h)

/-- A file that the tree lets be written is written, after the directories that are missing for
it have been made. -/
theorem watch_writeOutput (hpath : path ≠ "") (hadmits : world.tree.Admits home path)
    (text : String) : ∃ after,
    watch (writeOutput (World.host home).noting path text) world =
      ((.ok (), [(path, text)]), after) ∧
      world.tree.Receives after.tree home path text := by
  obtain ⟨parent, around, hparent, haround, hwrite⟩ := hadmits.makeParent
  obtain ⟨after, hafter⟩ := hwrite text
  refine ⟨{ world with tree := after }, ?_,
    FileTree.receives_write hpath (FileTree.extends_makePath haround) hafter⟩
  have hwritten : watch ((World.host home).noting.writeFile path text)
      { world with tree := around } =
        ((.ok (), [(path, text)]), { world with tree := after }) := watch_writeFile hafter
  rw [writeOutput, hparent]
  exact (watch_bind _ (watch_createDirectories haround)).trans (watch_bind_pure hwritten rfl)

/-- The output file is written if there is leave, and otherwise nothing changes. -/
theorem watch_emit (hpath : options.outputPath home ≠ "")
    (hadmits : world.tree.Admits home (options.outputPath home)) (text : String) :
    ∃ result notes after,
      watch (emit (World.host home).noting options text) world = ((result, notes), after) ∧
      (world.MayWrite home options ∧ result = .ok () ∧ notes = [(options.outputPath home, text)] ∧
          world.tree.Receives after.tree home (options.outputPath home) text ∨
        ¬ world.MayWrite home options ∧ (∃ failure, result = .error failure) ∧ notes = [] ∧
          after.tree = world.tree) := by
  let path := options.outputPath home
  -- a question leaves the tree alone, so the file can be written after it as before
  have hwrite : ∀ between : World, between.tree = world.tree → ∃ after,
      watch (writeOutput (World.host home).noting path text) between =
        ((.ok (), [(path, text)]), after) ∧
        world.tree.Receives after.tree home path text := by
    intro between htree
    rw [← htree] at hadmits ⊢
    exact watch_writeOutput hpath hadmits text
  have hpresent : watch ((World.host home).noting.fileExists path) world =
      (((world.tree.find home path).isOk, []), world) := rfl
  obtain ⟨after, hwatch, hreceives⟩ := hwrite world rfl
  rw [emit]
  change ∃ result notes after,
    watch ((World.host home).noting.fileExists path >>= _) world = _ ∧ _
  rw [watch_bind _ hpresent]
  cases hfind : world.tree.find home path with
  | error error =>
      have hleave : world.MayWrite home options := .inl (by simp [path, hfind])
      exact ⟨_, _, after, hwatch, .inl ⟨hleave, rfl, rfl, hreceives⟩⟩
  | ok entry =>
      cases hyes : options.yes with
      | true =>
          exact ⟨_, _, after, hwatch, .inl ⟨.inr (.inl hyes), rfl, rfl, hreceives⟩⟩
      | false =>
          obtain ⟨granted, between, hasked, hgranted, htree⟩ := watch_confirm world home path
          change ∃ result notes after,
            watch (confirm (World.host home).noting path >>= _) world = _ ∧ _
          rw [watch_bind _ hasked]
          cases granted with
          | true =>
              obtain ⟨after, hwatch, hreceives⟩ := hwrite between htree
              exact ⟨_, _, after, hwatch, .inl ⟨.inr (.inr (hgranted.mp rfl)), rfl, rfl, hreceives⟩⟩
          | false =>
              refine ⟨_, _, between, rfl, .inr ⟨?_, ⟨_, rfl⟩, rfl, htree⟩⟩
              rintro (hnew | hyes' | hconsents)
              · exact hnew ⟨entry, hfind⟩
              · rw [hyes] at hyes'
                cases hyes'
              · cases hgranted.mpr hconsents

/-- What a run does ends in one of the five ways. -/
theorem watch_perform (hpath : options.outputPath home ≠ "")
    (hadmits : world.tree.Admits home (options.outputPath home)) : ∃ result notes after,
    watch (perform (World.host home).noting options) world = ((result, notes), after) ∧
      Ends world home options result notes after := by
  have hread : watch ((World.host home).noting.readFile options.script) world =
      ((world.tree.read home options.script, []), world) := rfl
  rw [perform, watch_bind _ hread]
  cases hcompile : compileText options.script (world.tree.read home options.script) with
  | error failure =>
      refine ⟨_, _, _, rfl, .failed ?_⟩
      rintro ⟨json, hyields⟩
      rw [compileText_eq_ok_iff.mpr hyields] at hcompile
      cases hcompile
  | ok json =>
      have hyields := compileText_eq_ok_iff.mp hcompile
      -- a check goes before printing, and printing before writing
      cases hcheck : options.check with
      | true => exact ⟨_, _, _, rfl, .checked hyields hcheck⟩
      | false =>
          cases hstdout : options.stdout with
          | true => exact ⟨_, _, _, rfl, .printed hyields hcheck hstdout⟩
          | false =>
              obtain ⟨result, notes, after, hwatch, hleave⟩ := watch_emit hpath hadmits json
              refine ⟨result, notes, after, hwatch, ?_⟩
              rcases hleave with ⟨hleave, rfl, rfl, hreceives⟩ | ⟨hleave, ⟨failure, rfl⟩, rfl, htree⟩
              · exact .written ⟨hcheck, hstdout, hyields, hleave⟩ hreceives
              · exact .declined ⟨hcheck, hstdout, hleave⟩ htree

/-- A run ends as what it does, and its exit code tells whether that failed. -/
theorem watch_main {arguments : List String} (hrun : Request.ofArguments arguments = .run options)
    (hadmits : world.tree.Admits home (options.outputPath home)) : ∃ outcome notes after result,
    watch (main (World.host home).noting arguments) world = ((outcome, notes), after) ∧
      Ends world home options result notes after ∧
      (outcome.code ≠ 0 ↔ ∃ failure, result = .error failure) := by
  obtain ⟨result, notes, after, hwatch, hends⟩ :=
    watch_perform (Options.outputPath_ne_empty hrun home) hadmits
  rw [main, hrun]
  cases result with
  | ok _ => exact ⟨_, notes, after, _, watch_bind_pure hwatch rfl, hends, by simp⟩
  | error failure => exact ⟨_, notes, after, _, watch_bind_pure hwatch rfl, hends, by simp⟩

/-! ## The whole run -/

/-- A run that is watched is the run. -/
theorem run_of_watch {arguments : List String} {outcome : Outcome} {notes : Notes} {after : World}
    (h : watch (main (World.host home).noting arguments) world = ((outcome, notes), after)) :
    (main (World.host home) arguments).run world = (outcome, after) := by
  rw [← erases_main (World.host home) arguments []]
  exact congrArg (fun result : (Outcome × Notes) × World => (result.1.1, result.2)) h

/-- A run touches at most its output file, and that only after success. When it is to write a text,
it writes that text there and nothing else, and the text is what would be printed instead of it;
otherwise no file changes. It fails just when the script gives no text or an overwrite is declined,
and a check goes before printing. -/
theorem touches_output_only {arguments : List String}
    (hrun : Request.ofArguments arguments = .run options)
    (hadmits : world.tree.Admits home (options.outputPath home)) : ∃ outcome notes after,
    watch (main (World.host home).noting arguments) world = ((outcome, notes), after) ∧
      (main (World.host home) arguments).run world = (outcome, after) ∧
      (∀ json, world.Writes home options json →
        notes = [(options.outputPath home, json)] ∧
        world.tree.Receives after.tree home (options.outputPath home) json ∧
        ((main (World.host home) ("--stdout" :: arguments)).run world).2.printed =
          world.printed ++ (json ++ "\n")) ∧
      ((¬ ∃ json, world.Writes home options json) → notes = [] ∧ after.tree = world.tree) ∧
      (outcome.code ≠ 0 ↔ (¬ ∃ json, world.Yields home options.script json) ∨
        world.Declines home options) ∧
      (options.check = true → ∀ json, world.Yields home options.script json →
        after.printed = world.printed ++ (options.script ++ " is valid\n")) := by
  obtain ⟨outcome, notes, after, result, hwatch, hends, hcode⟩ := watch_main hrun hadmits
  refine ⟨outcome, notes, after, hwatch, run_of_watch hwatch, fun json hwrites => ?_,
    hends.untouched, hcode.trans hends.fails_iff,
    fun hcheck json hyields => hends.printed_of_check hyields hcheck⟩
  obtain ⟨hnotes, hreceives⟩ := hends.of_writes hwrites
  refine ⟨hnotes, hreceives, ?_⟩
  -- the same run with the flag for printing, which does not write
  have hrun' := Request.ofArguments_stdout hrun hwrites.unprinted
  obtain ⟨_, _, _, _, hwatch', hends', -⟩ := watch_main hrun' hadmits
  rw [run_of_watch hwatch']
  exact hends'.printed_of_stdout hwrites.yields hwrites.unchecked rfl

/-- A run that is to write its output file does not fail. -/
theorem World.Writes.not_fails (h : world.Writes home options json) :
    ¬ ((¬ ∃ json, world.Yields home options.script json) ∨ world.Declines home options) := by
  rintro (fruitless | declines)
  · exact fruitless ⟨json, h.yields⟩
  · exact declines.noLeave h.leave

/-- A script, and an output file that is there already. -/
def deskTree : FileTree :=
  (({} : FileTree).addFile ["me", "rules.toml"]
    "[[base]]\nkey = \"caps_lock\"\n[[base.map]]\nfrom = \"f\"\nto = [\"tab\"]\n").addFile
      ["me", "out.json"] "old"

/-- The world in which these files are there and this is what is answered. -/
def desk (input : String) : World := { tree := deskTree, input }

/-- The options of a run that names the output file. -/
def deskOptions : Options := { script := "rules.toml", output := some "out.json" }

/-- The options of a run that leaves the output file to the default. -/
def defaultOptions : Options := { script := "rules.toml" }

/-- The output file stands in the home directory. -/
theorem admits_desk (input : String) :
    (desk input).tree.Admits ["me"] (deskOptions.outputPath ["me"]) where
  origin := by
    show deskTree.entry? _ = _
    decide +kernel
  room := ⟨deskTree, ["me", "out.json"], .refl _, by decide +kernel, by decide +kernel⟩

/-- The default output file is two directories below the home directory, and neither is there. -/
theorem admits_desk_default (input : String) :
    (desk input).tree.Admits ["me"] (defaultOptions.outputPath ["me"]) where
  origin := by
    show deskTree.entry? _ = _
    decide +kernel
  room := by
    let outer := deskTree.set ["me", ".config"] .directory
    let inner := outer.set ["me", ".config", "karabiner"] .directory
    have houter : FileTree.Extends deskTree outer := FileTree.extends_set (by decide +kernel)
    have hinner : FileTree.Extends outer inner := FileTree.extends_set (by decide +kernel)
    exact ⟨inner, ["me", ".config", "karabiner", "karabiner.json"], houter.trans hinner,
      by decide +kernel, by decide +kernel⟩

/-- The script in the home directory yields a document. -/
theorem exists_yields_desk (input : String) :
    ∃ json, (desk input).Yields ["me"] deskOptions.script json := by
  have hcompiles : (compileText "rules.toml" (deskTree.read ["me"] "rules.toml")).isOk = true := by
    decide +kernel
  cases hcompile : compileText "rules.toml" (deskTree.read ["me"] "rules.toml") with
  | error failure =>
      rw [hcompile] at hcompiles
      cases hcompiles
  | ok json => exact ⟨json, compileText_eq_ok_iff.mp hcompile⟩

/-- The file that is there is overwritten after a yes, and left alone after another answer. A file
that is not there is written without a question, with the directories that are missing for it. -/
theorem touches_output_only_desk :
    Request.ofArguments ["rules.toml", "out.json"] = .run deskOptions ∧
    Request.ofArguments ["rules.toml"] = .run defaultOptions ∧
    (∀ input, (desk input).tree.Admits ["me"] (deskOptions.outputPath ["me"])) ∧
    (∀ input, (desk input).tree.Admits ["me"] (defaultOptions.outputPath ["me"])) ∧
    (∃ json outcome after, (desk " Yes\t\nno\n").Yields ["me"] "rules.toml" json ∧
      (main (World.host ["me"]) ["rules.toml", "out.json"]).run (desk " Yes\t\nno\n") =
        (outcome, after) ∧
      outcome.code = 0 ∧ deskTree.Receives after.tree ["me"] "out.json" json) ∧
    (∃ outcome after,
      (main (World.host ["me"]) ["rules.toml", "out.json"]).run (desk "no\nyes\n") =
        (outcome, after) ∧
      outcome.code ≠ 0 ∧ after.tree = deskTree) ∧
    deskTree.entry? ["me", ".config"] = none ∧
    ∃ json outcome after, (desk "").Yields ["me"] "rules.toml" json ∧
      (main (World.host ["me"]) ["rules.toml"]).run (desk "") = (outcome, after) ∧
      outcome.code = 0 ∧
      deskTree.Receives after.tree ["me"] "/me/.config/karabiner/karabiner.json" json := by
  have hrun : Request.ofArguments ["rules.toml", "out.json"] = .run deskOptions := by decide
  have hdefault : Request.ofArguments ["rules.toml"] = .run defaultOptions := by decide
  have hmissing : deskTree.entry? ["me", ".config"] = none := by decide +kernel
  refine ⟨hrun, hdefault, admits_desk, admits_desk_default, ?consents, ?declines, hmissing, ?new⟩
  case consents =>
    obtain ⟨json, hyields⟩ := exists_yields_desk " Yes\t\nno\n"
    have hleave : (desk " Yes\t\nno\n").MayWrite ["me"] deskOptions :=
      .inr (.inr (isYes_line.mp (by decide)))
    obtain ⟨outcome, notes, after, -, hplain, hwritten, -, hcode, -⟩ :=
      touches_output_only hrun (admits_desk " Yes\t\nno\n")
    have hwrites : (desk " Yes\t\nno\n").Writes ["me"] deskOptions json := ⟨rfl, rfl, hyields, hleave⟩
    exact ⟨json, outcome, after, hyields, hplain, not_not.mp fun hfails =>
      hwrites.not_fails (hcode.mp hfails), (hwritten json hwrites).2.1⟩
  case declines =>
    have hleave : ¬ (desk "no\nyes\n").MayWrite ["me"] deskOptions := by
      rintro (hnew | hyes | hconsents)
      · exact hnew ⟨.file "old", by decide +kernel⟩
      · cases hyes
      · exact absurd (isYes_line.mpr hconsents) (by decide)
    obtain ⟨outcome, notes, after, -, hplain, -, huntouched, hcode, -⟩ :=
      touches_output_only hrun (admits_desk "no\nyes\n")
    refine ⟨outcome, after, hplain, hcode.mpr (.inr ⟨rfl, rfl, hleave⟩), (huntouched ?_).2⟩
    rintro ⟨json, hwrites⟩
    exact hleave hwrites.leave
  case new =>
    obtain ⟨json, hyields⟩ := exists_yields_desk ""
    have hleave : (desk "").MayWrite ["me"] defaultOptions := by
      refine .inl ?_
      have hfind : (desk "").tree.find ["me"] (defaultOptions.outputPath ["me"]) =
          .error .notFound := by decide +kernel
      simp [hfind]
    obtain ⟨outcome, notes, after, -, hplain, hwritten, -, hcode, -⟩ :=
      touches_output_only hdefault (admits_desk_default "")
    have hwrites : (desk "").Writes ["me"] defaultOptions json := ⟨rfl, rfl, hyields, hleave⟩
    exact ⟨json, outcome, after, hyields, hplain, not_not.mp fun hfails =>
      hwrites.not_fails (hcode.mp hfails), (hwritten json hwrites).2.1⟩

end KeyRemap.Cli
