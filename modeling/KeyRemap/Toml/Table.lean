import KeyRemap.Toml.Value

/-!
# Putting a TOML document together

A document is a sequence of sections, each under a header that says where its entries belong. A name
can be given a value only once; a table can be opened by a header only once, though longer headers
may have run through it before, and dotted keys add only to tables that dotted keys have made.

A table that takes over what longer headers implied moves behind the other entries of its parent.
-/

namespace KeyRemap.Toml

/-- A value under a dotted key: the names on the way, the last name, and the value. -/
structure Assignment where
  path : List String
  name : String
  value : Value
  deriving Repr

/-- What a section opens: the root, a table, or a new element of an array of tables. -/
inductive Header where
  | root
  | table (path : List String) (name : String)
  | element (path : List String) (name : String)
  deriving DecidableEq, Repr

/-- A header with the assignments under it. -/
structure Section where
  header : Header
  assignments : List Assignment
  deriving Repr

namespace Entries

/-- Is there a value of this name? -/
def has (entries : Entries) (name : String) : Bool :=
  entries.any (·.1 == name)

/-- Gives a new value to a name in its place, or adds the name at the end. -/
def set (entries : Entries) (name : String) (value : Value) : Entries :=
  match entries with
  | [] => [(name, value)]
  | (n, v) :: rest => if n == name then (n, value) :: rest else (n, v) :: set rest name value

/-- The entries without those of a name. -/
def erase (entries : Entries) (name : String) : Entries :=
  entries.filter (·.1 != name)

end Entries

/-- Changes the last element of an array of tables. -/
def changeLast (elements : List Value) (change : Value → Option Value) : Option Value := do
  let last ← elements.getLast?
  return .tables (elements.dropLast ++ [← change last])

/-- Changes the entries of a table. -/
def changeEntries (change : Origin → Entries → Option Entries) : Value → Option Value
  | .table origin entries => (change origin entries).map (.table origin)
  | _ => none

/-- Changes the entries of the table that a path of names reaches. A table that is missing on the
way is made with the origin `made`; `passable` says which tables may be passed. An array of tables
is passed through its last element, and anything else ends the way. -/
def changeAt (made : Origin) (passable : Origin → Bool) (path : List String) (origin : Origin)
    (entries : Entries) (change : Origin → Entries → Option Entries) : Option Entries :=
  match path with
  | [] => change origin entries
  | name :: rest => do
    let below := fun origin entries => changeAt made passable rest origin entries change
    let value ← match entries.lookup name with
      | none => changeEntries below (.table made [])
      | some (.tables elements) => changeLast elements (changeEntries below)
      | some (.table origin inner) =>
        if passable origin then changeEntries below (.table origin inner) else none
      | some _ => none
    return Entries.set entries name value

/-- May a dotted key pass through a table of this origin? -/
def passableByKey (origin : Origin) : Bool :=
  origin = .implied || origin = .dotted

/-- May a header pass through a table of this origin? -/
def passableByHeader (origin : Origin) : Bool :=
  origin ≠ .inline

/-- Adds a value to the entries of a table, to which a dotted key leads only if dotted keys have
made it. -/
def assign (entries : Entries) (assignment : Assignment) : Option Entries :=
  changeAt .dotted passableByKey assignment.path .header entries fun origin entries =>
    if (origin == .dotted) == assignment.path.isEmpty ||
        Entries.has entries assignment.name then none
    else some (entries ++ [(assignment.name, assignment.value)])

/-- The entries of a table with further assignments. -/
def assignAll (entries : Entries) (assignments : List Assignment) : Option Entries :=
  assignments.foldlM assign entries

/-- Changes the entries of the table in which a header declares something. -/
def changeParent (root : Entries) (path : List String) (change : Entries → Option Entries) :
    Option Entries :=
  changeAt .implied passableByHeader path .header root fun _ entries => change entries

/-- The document with one more section. -/
def addSection (root : Entries) (part : Section) : Option Entries :=
  match part.header with
  | .root => assignAll root part.assignments
  | .table path name =>
    changeParent root path fun parent => do
      let entries ← match parent.lookup name with
        | none => some []
        | some (.table .implied entries) => some entries
        | some _ => none
      let entries ← assignAll entries part.assignments
      return Entries.erase parent name ++ [(name, .table .header entries)]
  | .element path name =>
    changeParent root path fun parent => do
      let elements ← match parent.lookup name with
        | none => some []
        | some (.tables elements) => some elements
        | some _ => none
      let entries ← assignAll [] part.assignments
      return Entries.set parent name (.tables (elements ++ [.table .header entries]))

/-- The table that a sequence of sections describes. -/
def assemble (sections : List Section) : Option Entries :=
  sections.foldlM addSection []

end KeyRemap.Toml
