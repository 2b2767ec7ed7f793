import KeyRemap.Cli.Host

/-!
# Trees of files

A tree of files as a plain value, with the surroundings of a run in it: the text that waits on
standard input and the text that has been printed. Paths are followed step by step; a path that does
not start at the root starts at the home directory. A path that is too long is refused before its
first step.
-/

namespace KeyRemap.Cli

/-- What stands at a place of a tree. -/
inductive Entry where
  | file (text : String)
  | directory
  deriving DecidableEq, Repr

/-- A place of a tree: the names from the root on. -/
abbrev Place := List String

/-- A tree of files: the places below the root where something stands. -/
structure FileTree where
  entries : List (Place × Entry) := []
  deriving DecidableEq, Repr, Inhabited

namespace FileTree

/-- What stands at a place. The root is always a directory. -/
def entry? (tree : FileTree) (place : Place) : Option Entry :=
  if place = [] then some .directory else tree.entries.lookup place

/-- The tree with something at a place, instead of what stood there. -/
def set (tree : FileTree) (place : Place) (entry : Entry) : FileTree :=
  ⟨(place, entry) :: tree.entries.filter (·.1 ≠ place)⟩

/-- The tree with a file, and with the directories around it. -/
def addFile (tree : FileTree) (place : Place) (text : String) : FileTree :=
  let around := (List.range place.length).map fun depth => place.take depth
  (around.foldl (fun tree place => tree.set place .directory) tree).set place (.file text)

/-- The number of bytes that a name may have. -/
def nameLimit : Nat := 255

/-- One step on a path: it leads on only from a directory. -/
def step (tree : FileTree) (place : Place) (name : String) : Except FileError Place :=
  match tree.entry? place with
  | none => .error .notFound
  | some (.file _) => .error .notADirectory
  | some .directory =>
    if name = "." ∨ name = "" then .ok place
    else if name = ".." then .ok place.dropLast
    else if nameLimit < name.utf8ByteSize then .error .nameTooLong
    else .ok (place ++ [name])

/-- The steps of a path. -/
def steps (path : String) : List String :=
  (path.toList.splitOn '/').map String.ofList

/-- The place where a path starts. -/
def start (home : Place) (path : String) : Place :=
  if path.toList.head? = some '/' then [] else home

/-- The number of bytes that a path may have. -/
def pathLimit : Nat := 4095

/-- Refuses a path that is too long, whatever its steps are. -/
def checkLength (path : String) : Except FileError Unit :=
  if pathLimit < path.utf8ByteSize then .error .nameTooLong else .ok ()

/-- The place that a path leads to. Nothing need stand there. -/
def locate (tree : FileTree) (home : Place) (path : String) : Except FileError Place := do
  checkLength path
  (steps path).foldlM tree.step (start home path)

/-- What stands where a path leads. -/
def find (tree : FileTree) (home : Place) (path : String) : Except FileError Entry := do
  match tree.entry? (← tree.locate home path) with
  | some entry => return entry
  | none => .error .notFound

/-- The text of a file. -/
def read (tree : FileTree) (home : Place) (path : String) : Except FileError String := do
  match ← tree.find home path with
  | .file text => return text
  | .directory => .error .isADirectory

/-- The tree with a file written. A path that ends in a slash names no file, whatever its last name
is. -/
def write (tree : FileTree) (home : Place) (path text : String) : Except FileError FileTree := do
  checkLength path
  let names := ((steps path).reverse.dropWhile (· = "")).reverse
  if path.toList.getLast? = some '/' then
    let around ← names.dropLast.foldlM tree.step (start home path)
    discard (tree.step around ".")
    .error .isADirectory
  else
    let place ← names.foldlM tree.step (start home path)
    if tree.entry? place = some .directory then .error .isADirectory
    else return tree.set place (.file text)

/-- The tree with one more directory. That there is one already is no failure. -/
def makeDirectory (tree : FileTree) (origin : Place) (names : List String) :
    Except FileError FileTree := do
  let place ← names.foldlM tree.step origin
  match tree.entry? place with
  | some .directory => return tree
  | some (.file _) => .error .alreadyExists
  | none => return tree.set place .directory

/-- The tree with a directory and those that are missing on the way to it. The steps are given in
reverse. -/
def makeDirectories (tree : FileTree) (origin : Place) : List String → Except FileError FileTree
  | [] => .ok tree
  | name :: before =>
    match tree.makeDirectory origin (name :: before).reverse with
    | .error .notFound => do
      let tree ← tree.makeDirectories origin before
      tree.makeDirectory origin (name :: before).reverse
    | result => result

/-- The steps of a path that lead somewhere, in reverse. -/
def backwardSteps (path : String) : List String :=
  ((steps path).filter fun name => name ≠ "" ∧ name ≠ ".").reverse

/-- The tree with the directory that a path names and those that are missing on the way to it. -/
def makePath (tree : FileTree) (home : Place) (path : String) : Except FileError FileTree := do
  checkLength path
  tree.makeDirectories (start home path) (backwardSteps path)

end FileTree

/-- The surroundings of a run. -/
structure World where
  tree : FileTree := {}
  input : String := ""
  printed : String := ""
  deriving Repr, Inhabited

namespace World

/-- The first line of a text, with its line break, and what follows it. -/
def splitLine (s : List Char) : List Char × List Char :=
  let (first, rest) := s.span (· ≠ '\n')
  (first ++ rest.take 1, rest.drop 1)

/-- Takes a change of the tree, if it succeeds. -/
def change (result : FileTree → Except FileError FileTree) :
    StateM World (Except FileError Unit) := do
  let world ← get
  match result world.tree with
  | .ok tree => set { world with tree }; return .ok ()
  | .error error => return .error error

/-- The actions of the command line on a world whose home directory is at `home`. -/
def host (home : Place) : Host (StateM World) where
  home := "/" ++ "/".intercalate home
  readFile path := return (← get).tree.read home path
  fileExists path := return ((← get).tree.find home path).isOk
  createDirectories path := change fun tree => tree.makePath home path
  writeFile path text := change fun tree => tree.write home path text
  readLine := do
    let world ← get
    let (line, rest) := splitLine world.input.toList
    set { world with input := String.ofList rest }
    return String.ofList line
  print text := modify fun world => { world with printed := world.printed ++ text }

end World

end KeyRemap.Cli
