import Reshape.Host

/-!
# Desks

A host without a machine: files are texts under paths relative to the desk, directories are there as
far as files stand in them, and what is printed is kept.
-/

namespace Reshape

/-- Files at hand, the input, and what has been printed. -/
structure Desk where
  files : Keyed String
  input : String
  output : String := ""
  complaints : String := ""

namespace Desk

/-- The name under which a file stands. -/
def joined (parts : List String) : String := "/".intercalate parts

def isFile (desk : Desk) (parts : List String) : Bool := desk.files.contains (joined parts)

/-- Whether a directory is at this place: the desk itself, or what holds a file. -/
def isDirectory (desk : Desk) (parts : List String) : Bool :=
  parts.isEmpty || desk.files.keys.any fun name =>
    (joined parts ++ "/").toList.isPrefixOf name.toList

/-- The place that the parts of a path lead to from a place. -/
def walk (desk : Desk) : (place path : List String) → Except FileFault (List String)
  | place, [] => .ok place
  | place, part :: rest =>
    if !place.isEmpty && desk.isFile place then .error .notDirectory
    else if part = "" ∨ part = "." then desk.walk place rest
    else if part = ".." then
      if place.isEmpty then .error .missing else desk.walk place.dropLast rest
    else
      let next := place ++ [part]
      if desk.isFile next || desk.isDirectory next then desk.walk next rest
      else .error .missing

/-- What stands between the slashes of a path. -/
def between : List Char → List (List Char)
  | [] => [[]]
  | '/' :: rest => [] :: between rest
  | c :: rest =>
    match between rest with
    | first :: more => (c :: first) :: more
    | [] => [[c]]

/-- The parts of a path. A desk has no root, so paths from the root lead nowhere. -/
def parts? (path : String) : Except FileFault (List String) :=
  if path.isEmpty || isRooted path then .error .missing
  else .ok ((between path.toList).map String.ofList)

/-- What a path leads to. -/
def presence (desk : Desk) (path : String) : Presence :=
  match parts? path >>= desk.walk [] with
  | .ok place => if !place.isEmpty && desk.isFile place then .file else .other
  | .error _ => .nothing

/-- The text of the file that a path leads to. -/
def read (desk : Desk) (path : String) : Except FileFault String := do
  let place ← desk.walk [] (← parts? path)
  match desk.files.get? (joined place) with
  | some content => if place.isEmpty then .error .isDirectory else .ok content
  | none => .error .isDirectory

/-- The desk with the file that a path leads to made or replaced. -/
def write (desk : Desk) (path content : String) : Except FileFault Desk := do
  let parts ← parts? path
  let directory ← desk.walk [] parts.dropLast
  if !directory.isEmpty && desk.isFile directory then throw .notDirectory
  let name := parts.getLast?.getD ""
  let place := directory ++ [name]
  if name = "" ∨ name = "." ∨ name = ".." ∨ desk.isDirectory place then throw .isDirectory
  return { desk with files := desk.files.insert (joined place) content }

def host (environment : Environment) : Host (StateM Desk) where
  environment
  home? := none
  formats := .builtin
  presence path := do return (← get).presence path
  read path := do return (← get).read path
  write path content := do
    match (← get).write path content with
    | .ok desk => set desk; return .ok ()
    | .error fault => return .error fault
  input := do return .ok (← get).input
  print text := modify fun desk => { desk with output := desk.output ++ text }
  complain text := modify fun desk => { desk with complaints := desk.complaints ++ text }

end Desk

end Reshape
