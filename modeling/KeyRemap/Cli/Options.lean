/-!
# Options of the command line

Arguments are read from left to right. A request for help or for the version is granted as soon as
it is reached, and any misuse is refused as soon as it is reached; that no script is named is
noticed at the end.
-/

namespace KeyRemap.Cli

/-- What a run is asked to do. -/
structure Options where
  script : String
  output : Option String := none
  yes : Bool := false
  check : Bool := false
  stdout : Bool := false
  verbose : Bool := false
  deriving DecidableEq, Repr

/-- What the arguments ask for. -/
inductive Request where
  | run (options : Options)
  | help
  | version
  | misuse
  deriving DecidableEq, Repr

/-- The options without a value. -/
inductive Flag where
  | yes | check | stdout | verbose | help | version
  deriving DecidableEq, Repr

namespace Flag

/-- Every flag. -/
def all : List Flag := [.yes, .check, .stdout, .verbose, .help, .version]

/-- The name of a flag, after two dashes. -/
def name : Flag → String
  | .yes => "yes"
  | .check => "check"
  | .stdout => "stdout"
  | .verbose => "verbose"
  | .help => "help"
  | .version => "version"

/-- The letter of a flag that has one, after one dash. -/
def letter? : Flag → Option Char
  | .yes => some 'y'
  | .verbose => some 'v'
  | .help => some 'h'
  | .version => some 'V'
  | .check | .stdout => none

/-- The flag of a name. -/
def ofName? (name : List Char) : Option Flag :=
  all.find? (·.name.toList == name)

/-- The flag of a letter. -/
def ofLetter? (c : Char) : Option Flag :=
  all.find? (·.letter? == some c)

end Flag

/-- What an argument is. -/
inductive Argument where
  | flags (flags : List (Option Flag))
  | positional (text : String)
  | endOfOptions
  deriving DecidableEq, Repr

/-- What an argument before the end of options is. Letters may share a dash; a dash alone is a name
like any other. An unknown letter or name gives no flag. -/
def Argument.of (text : String) : Argument :=
  match text.toList with
  | ['-', '-'] => .endOfOptions
  | '-' :: '-' :: name => .flags [Flag.ofName? name]
  | '-' :: c :: letters => .flags ((c :: letters).map Flag.ofLetter?)
  | _ => .positional text

/-- The flags and positional arguments that have been read. -/
structure Seen where
  flags : List Flag := []
  positionals : List String := []
  deriving DecidableEq, Repr

namespace Seen

/-- Reads a positional argument: neither an empty one nor a third one makes sense. -/
def positional (seen : Seen) (text : String) : Except Request Seen :=
  if text.isEmpty ∨ 2 ≤ seen.positionals.length then .error .misuse
  else .ok { seen with positionals := seen.positionals ++ [text] }

/-- Reads a flag, which may be given once. -/
def flag (seen : Seen) : Option Flag → Except Request Seen
  | none => .error .misuse
  | some .help => .error .help
  | some .version => .error .version
  | some flag =>
    if flag ∈ seen.flags then .error .misuse else .ok { seen with flags := flag :: seen.flags }

/-- Reads arguments, where options may occur. -/
def arguments (seen : Seen) : List String → Except Request Seen
  | [] => .ok seen
  | text :: rest =>
    match Argument.of text with
    | .endOfOptions => rest.foldlM positional seen
    | .positional text => do (← seen.positional text).arguments rest
    | .flags flags => do (← flags.foldlM flag seen).arguments rest

/-- What has been asked for, once all arguments have been read. -/
def request (seen : Seen) : Request :=
  match seen.positionals with
  | [] => .misuse
  | script :: others => .run {
      script
      output := others.head?
      yes := .yes ∈ seen.flags
      check := .check ∈ seen.flags
      stdout := .stdout ∈ seen.flags
      verbose := .verbose ∈ seen.flags }

end Seen

/-- What arguments ask for. -/
def Request.ofArguments (arguments : List String) : Request :=
  match ({} : Seen).arguments arguments with
  | .ok seen => seen.request
  | .error request => request

/-- The text that explains the options. -/
def helpText : String :=
  String.join ([
    "Compile a rule script into karabiner.json",
    "",
    "Usage: karacfg [OPTIONS] <SCRIPT> [OUTPUT]",
    "",
    "Arguments:",
    "  <SCRIPT>  TOML rule script",
    "  [OUTPUT]  Output file (default: ~/.config/karabiner/karabiner.json)",
    "",
    "Options:",
    "  -y, --yes      Overwrite the output without asking",
    "      --check    Validate and compile, but write nothing",
    "      --stdout   Print the JSON instead of writing a file",
    "  -v, --verbose  Enable debug logging",
    "  -h, --help     Print help",
    "  -V, --version  Print version"].map (· ++ "\n"))

/-- The text that names the program and its version. -/
def versionText : String := "karacfg 0.3.0\n"

end KeyRemap.Cli
