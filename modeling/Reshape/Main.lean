import Reshape.Command

/-!
# The program

Runs a command on the machine at hand.
-/

namespace Reshape.Machine

/-- The code of an error without the sign that some reports give it. -/
def plainCode (code : UInt32) : UInt32 := if code < 0x80000000 then code else 0 - code

/-- What is wrong with a file, by the error that the machine reports. -/
def faultOf : IO.Error → FileFault
  | .noFileOrDirectory .. => .missing
  | .inappropriateType name code details =>
    if plainCode code = 20 then .notDirectory
    else if plainCode code = 21 then .isDirectory
    else .other (toString (IO.Error.inappropriateType name code details))
  | other => .other (toString other)

/-- What an action gives, or what is wrong with the file it is about. -/
def attempt {α : Type} (action : IO α) : IO (Except FileFault α) := do
  try
    return .ok (← action)
  catch e =>
    return .error (faultOf e)

def textOf (bytes : ByteArray) : Except FileFault String :=
  match String.fromUTF8? bytes with
  | some text => .ok text
  | none => .error .notText

/-- The variables that the program was started with. -/
def environment : IO Environment := do
  let bytes ← IO.FS.readBinFile "/proc/self/environ"
  let entries := ((String.fromUTF8? bytes).getD "").splitOn "\x00"
  return entries.filterMap fun entry =>
    match entry.splitOn "=" with
    | name :: value :: more => some (name, "=".intercalate (value :: more))
    | _ => none

/-- The number of the user who started the program. -/
def userNumber? : IO (Option String) := do
  let lines := (← IO.FS.readFile "/proc/self/status").splitOn "\n"
  return lines.findSome? fun line =>
    match line.splitOn "\t" with
    | "Uid:" :: user :: _ => some user
    | _ => none

/-- The home directory that the user database tells. -/
def home? : IO (Option String) := do
  let user? ← userNumber?
  let lines := (← IO.FS.readFile "/etc/passwd").splitOn "\n"
  return lines.findSome? fun line =>
    match line.splitOn ":" with
    | _ :: _ :: number :: _ :: _ :: directory :: _ =>
      if some number = user? then some directory else none
    | _ => none

/-- Whether a path leads anywhere. -/
def leads (path : String) : IO Bool := do
  try
    let _ ← IO.FS.realPath path
    return true
  catch _ =>
    return false

/-- What a path leads to: a directory if a lone point can follow, and a file otherwise. -/
def presence (path : String) : IO Presence := do
  if path.isEmpty then return .nothing
  if !(← leads path) then return .nothing
  if ← leads (path ++ "/.") then return .other
  return .file

def host (environment : Environment) (home? : Option String) : Host IO where
  environment
  home?
  formats := .builtin
  presence
  read path := do
    return (← attempt (IO.FS.readBinFile path)).bind textOf
  write path content := attempt (IO.FS.writeFile path content)
  input := do
    let stdin ← IO.getStdin
    return (← attempt stdin.readBinToEnd).bind textOf
  print text := do
    let stdout ← IO.getStdout
    stdout.putStr text
    stdout.flush
  complain text := do
    let stderr ← IO.getStderr
    stderr.putStr text

end Reshape.Machine

def main (arguments : List String) : IO UInt32 := do
  let environment ← try Reshape.Machine.environment catch _ => pure []
  let home? ← try Reshape.Machine.home? catch _ => pure none
  let code ← Reshape.Command.execute (Reshape.Machine.host environment home?) arguments
  return code.toUInt32
