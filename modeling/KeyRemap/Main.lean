import KeyRemap.Cli.Program

/-!
# The program

The command line on a real machine.
-/

namespace KeyRemap

/-- The failure that an error of the system means. -/
def fileError (error : IO.Error) : Cli.FileError :=
  match error with
  | .noFileOrDirectory .. => .notFound
  | .alreadyExists .. => .alreadyExists
  | .inappropriateType _ code _ => if code = 21 then .isADirectory else .notADirectory
  | .invalidArgument _ code _ => if code = 36 then .nameTooLong else .other (toString error)
  | _ => .other (toString error)

/-- Performs an action on files and keeps its failure. -/
def attempt {α : Type} (action : IO α) : IO (Except Cli.FileError α) := do
  match ← action.toBaseIO with
  | .ok result => return .ok result
  | .error error => return .error (fileError error)

/-- Can something of this name be opened? -/
def canOpen (path : String) : IO Bool := do
  match ← (IO.FS.Handle.mk path .read).toBaseIO with
  | .ok _ | .error (.permissionDenied ..) => return true
  | .error _ => return false

/-- The actions of the command line on this machine. -/
def machine (home : String) : Cli.Host IO where
  home := home
  readFile path := attempt (IO.FS.readFile path)
  fileExists path := canOpen path
  createDirectories path :=
    attempt (if path.isEmpty then pure () else IO.FS.createDirAll path)
  writeFile path text := attempt (IO.FS.writeFile path text)
  readLine := do (← IO.getStdin).getLine
  print text := do
    let stdout ← IO.getStdout
    stdout.putStr text
    stdout.flush

end KeyRemap

/-- Runs the command line with the arguments of the process. -/
def main (arguments : List String) : IO UInt32 := do
  let home := (← IO.getEnv "HOME").getD ""
  let outcome ← KeyRemap.Cli.main (KeyRemap.machine home) arguments
  (← IO.getStderr).putStr outcome.errors
  return outcome.code.toUInt32
