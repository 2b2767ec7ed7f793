/-!
# What the command line needs of its surroundings

The command line reads and writes files, asks a question, and prints. `Host` lists these actions
over any monad, so that the same program runs on a real machine and on a tree of files that is a
plain value.
-/

namespace KeyRemap.Cli

/-- Why an action on files failed. -/
inductive FileError where
  | notFound
  | alreadyExists
  | notADirectory
  | isADirectory
  | nameTooLong
  | other (message : String)
  deriving DecidableEq, Repr

/-- The wording of a failure. -/
def FileError.message : FileError → String
  | .notFound => "No such file or directory (os error 2)"
  | .alreadyExists => "File exists (os error 17)"
  | .notADirectory => "Not a directory (os error 20)"
  | .isADirectory => "Is a directory (os error 21)"
  | .nameTooLong => "File name too long (os error 36)"
  | .other message => message

/-- The actions that the command line takes. -/
structure Host (m : Type → Type) where
  home : String
  readFile : String → m (Except FileError String)
  fileExists : String → m Bool
  createDirectories : String → m (Except FileError Unit)
  writeFile : String → String → m (Except FileError Unit)
  readLine : m String
  print : String → m Unit

/-! ## Paths -/

/-- A path without what does not count at its end: slashes, and steps that stay where they are. The
path is given in reverse. -/
def trimPath : List Char → List Char
  | '/' :: c :: rest => trimPath (c :: rest)
  | '.' :: '/' :: rest => trimPath ('/' :: rest)
  | path => path

/-- The path of the directory that holds what a path names: the path without its last step. The root
of all files has none. -/
def parentPath? (path : String) : Option String :=
  match trimPath path.toList.reverse with
  | [] | ['/'] => none
  | trimmed => some (String.ofList (trimPath (trimmed.dropWhile (· ≠ '/'))).reverse)

end KeyRemap.Cli
