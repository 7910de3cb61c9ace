import Reshape.Keyed
import Reshape.Toml

/-!
# Tables out of statements

A TOML document is a list of statements: headers, which open a table, and assignments to keys below
the table opened last. `Table.ofStatements?` is the table they make together, if they fit together:

* a key is assigned once, and a table gets one header;
* the header of `[a.b]` implies a table `a`, which may still get a header of its own; `a` then
  moves to where that header stands;
* a dotted key `a.b` makes a table `a` for dotted keys only;
* a header like `[[a]]` opens a new table at the end of the list `a`, and later headers below `a`
  mean the last of them.
-/

namespace Reshape.Toml

/-- The parts of a key. -/
abbrev Key := List String

/-- One statement of a document. -/
inductive Statement where
  /-- A header `[key]`. -/
  | table (key : Key)
  /-- A header `[[key]]`. -/
  | item (key : Key)
  /-- An assignment `key = value`, the last part of the key apart. -/
  | assign (scope : Key) (name : String) (value : Toml)

/-- How a table came about. -/
inductive Origin where
  /-- By the header of a table below it. -/
  | implied
  /-- By a dotted key. -/
  | dotted
  /-- By its own header. -/
  | headed
deriving DecidableEq

/-- What stands under a key while a document is being read. -/
inductive Entry where
  | value (value : Toml)
  | table (origin : Origin) (members : List (String × Entry))
  /-- A list whose tables have headers of their own. -/
  | tables (items : List (List (String × Entry)))

abbrev Table := Keyed Entry

namespace Table

def erase (entries : Table) (key : String) : Table := entries.filter fun entry => entry.1 != key

/-- Changes the table at the end of a path that headers or dotted keys follow. Tables that are not
there yet come about by the way; dotted keys do not enter tables with headers. The change is also
told how the table at the end came about. -/
def modify (dotted : Bool) (change : Origin → Table → Option Table) :
    Key → Origin → Table → Option Table
  | [], origin, entries => change origin entries
  | key :: rest, _, entries => do
    let entry ←
      match entries.get? key with
      | none =>
        let origin := if dotted then Origin.dotted else .implied
        Entry.table origin <$> modify dotted change rest origin []
      | some (.value _) => none
      | some (.table origin members) =>
        if dotted && origin == .headed then none
        else Entry.table origin <$> modify dotted change rest origin members
      | some (.tables items) =>
        let last ← items.getLast?
        let changed ← modify dotted change rest .headed last
        some (.tables (items.dropLast ++ [changed]))
    return entries.insert key entry

/-- Adds a value under a key that is still free. -/
def put (name : String) (value : Toml) (entries : Table) : Option Table :=
  if entries.contains name then none else some (entries.insert name (.value value))

/-- Assigns to a key below this table. Only tables of dotted keys take assignments by dotted keys.
-/
def assign (scope : Key) (name : String) (value : Toml) (entries : Table) : Option Table :=
  if scope.isEmpty then put name value entries
  else
    modify true (fun origin inner => if origin = .dotted then put name value inner else none) scope
      .headed entries

/-- Opens the table `name` for the header that stands here. -/
def openTable (name : String) (entries : Table) : Option Table :=
  match entries.get? name with
  | none => some (entries.insert name (.table .headed []))
  | some (.table .implied members) =>
    some ((entries.erase name).insert name (.table .headed members))
  | some _ => none

/-- Opens a new table at the end of the list `name`. -/
def openItem (name : String) (entries : Table) : Option Table :=
  match entries.get? name with
  | none => some (entries.insert name (.tables [[]]))
  | some (.tables items) => some (entries.insert name (.tables (items ++ [[]])))
  | some _ => none

/-- Applies `change` to the table that the key's last part belongs to. -/
def atHeader (change : String → Table → Option Table) (key : Key) (entries : Table) :
    Option Table := do
  let name ← key.getLast?
  modify false (fun _ => change name) key.dropLast .headed entries

/-- The table after the statements, of which assignments go below the table `current`. -/
def run : (current : Key) → Table → List Statement → Option Table
  | _, root, [] => some root
  | _, root, .table key :: rest => do run key (← atHeader openTable key root) rest
  | _, root, .item key :: rest => do run key (← atHeader openItem key root) rest
  | current, root, .assign scope name value :: rest => do
    run current (← modify false (fun _ => assign scope name value) current .headed root) rest

mutual

/-- The value that an entry ends up as. -/
def close : Entry → Toml
  | .value v => v
  | .table _ members => .table (closeMembers members)
  | .tables items => .array (closeItems items)

def closeMembers : List (String × Entry) → List (String × Toml)
  | [] => []
  | (key, entry) :: rest => (key, close entry) :: closeMembers rest

def closeItems : List (List (String × Entry)) → List Toml
  | [] => []
  | members :: rest => .table (closeMembers members) :: closeItems rest

end

def ofStatements? (statements : List Statement) : Option (Keyed Toml) :=
  closeMembers <$> run [] [] statements

def ofAssignments? (assignments : List (Key × String × Toml)) : Option (Keyed Toml) :=
  ofStatements? (assignments.map fun (scope, name, value) => .assign scope name value)

end Table

end Reshape.Toml
