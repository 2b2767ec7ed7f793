import KeyRemap.Cli.Host
import KeyRemap.Cli.Options
import KeyRemap.Compiler
import KeyRemap.Document.Encoding
import KeyRemap.Script.Conversion
import KeyRemap.Script.Decoder

/-!
# The command line

A run reads a script, compiles it, and then does one of three things: it says that the script is
valid, prints the document, or writes it to the output file. A file that exists is overwritten only
with leave. Nothing is written unless everything before has succeeded.
-/

namespace KeyRemap.Cli

/-- How a run ends: its exit code and what it reports as an error. -/
structure Outcome where
  code : Nat := 0
  errors : String := ""
  deriving DecidableEq, Repr

/-- A failure with its causes, the outermost first. Several causes are numbered. -/
structure Failure where
  message : String
  causes : List String := []
  deriving DecidableEq, Repr

namespace Failure

/-- The lines that list causes. -/
def causeLines (causes : List String) : List String :=
  match causes with
  | [cause] => ["    " ++ cause]
  | _ => causes.zipIdx.map fun (cause, number) => "    " ++ toString number ++ ": " ++ cause

/-- The report of a failure. -/
def report (failure : Failure) : String :=
  "Error: " ++ failure.message ++ "\n" ++
    if failure.causes.isEmpty then ""
    else "\nCaused by:\n" ++ String.join ((causeLines failure.causes).map (· ++ "\n"))

/-- The failure of an action on a file. -/
def ofFile (doing path : String) (error : FileError) : Failure :=
  ⟨"failed to " ++ doing ++ " " ++ path, [error.message]⟩

end Failure

/-- Reads a script and compiles it into the text of its document. -/
def compileText (path : String) (content : Except FileError String) : Except Failure String := do
  let loading := "failed to load " ++ path
  let text ← content.mapError fun error =>
    ⟨loading, ["IO error: " ++ error.message, error.message]⟩
  let script ← (Script.parse text).mapError fun error =>
    ⟨loading, ["TOML parse error: " ++ error.message]⟩
  let config ← script.config.mapError fun fault => ⟨fault.message, []⟩
  let document ← config.compile.mapError fun violation => ⟨violation.message, []⟩
  return document.pretty

/-- Is this answer a yes? Blanks around it and its case do not count. -/
def isYes (answer : String) : Bool :=
  let word := (Text.trim answer.toList).map Char.toLower
  word = ['y'] || word = "yes".toList

/-- The file that is written when none is named. -/
def defaultOutput (home : String) : String :=
  home ++ "/.config/karabiner/karabiner.json"

variable {m : Type → Type} [Monad m]

/-- Asks for leave to overwrite a file. -/
def confirm (host : Host m) (path : String) : m Bool := do
  host.print (path ++ " exists. Overwrite? (y/N) ")
  return isYes (← host.readLine)

/-- Writes a file, and before that the directories that are to hold it. -/
def writeOutput (host : Host m) (path text : String) : m (Except Failure Unit) := do
  if let some parent := parentPath? path then
    if let .error error ← host.createDirectories parent then
      return .error (.ofFile "create" parent error)
  return (← host.writeFile path text).mapError (.ofFile "write" path)

/-- Writes the output file. One that exists needs leave, which is given beforehand or asked for. -/
def emit (host : Host m) (options : Options) (text : String) : m (Except Failure Unit) := do
  let path := options.output.getD (defaultOutput host.home)
  if ← host.fileExists path then
    if !options.yes then
      if !(← confirm host path) then
        return .error ⟨"aborted: " ++ path ++ " left untouched", []⟩
  writeOutput host path text

/-- Does what the options ask. A check wins over printing, and printing over writing. -/
def perform (host : Host m) (options : Options) : m (Except Failure Unit) := do
  match compileText options.script (← host.readFile options.script) with
  | .error failure => return .error failure
  | .ok text =>
    if options.check then
      host.print (options.script ++ " is valid\n")
      return .ok ()
    else if options.stdout then
      host.print (text ++ "\n")
      return .ok ()
    else emit host options text

/-- Runs the command line. Misuse ends with 2 and a failure with 1. -/
def main (host : Host m) (arguments : List String) : m Outcome := do
  match Request.ofArguments arguments with
  | .misuse => return { code := 2, errors := "error: invalid arguments\n\n" ++ helpText }
  | .help => do host.print helpText; return {}
  | .version => do host.print versionText; return {}
  | .run options =>
    match ← perform host options with
    | .ok () => return {}
    | .error failure => return { code := 1, errors := failure.report }

end KeyRemap.Cli
