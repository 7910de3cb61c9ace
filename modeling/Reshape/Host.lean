import Reshape.Settings.Environment
import Reshape.Settings.Format

/-!
# Hosts

What a command needs from the machine it runs on: files, variables, an input and two outputs. A
`Host m` provides these as actions of a monad `m`, so that a command runs on a real machine as well
as on a desk with papers (`Reshape.Host.Desk`).
-/

namespace Reshape

/-- Why a file cannot be read or written. -/
inductive FileFault where
  | missing
  | isDirectory
  | notDirectory
  | notText
  | other (reason : String)
deriving DecidableEq

def FileFault.message : FileFault → String
  | missing => "No such file or directory (os error 2)"
  | isDirectory => "Is a directory (os error 21)"
  | notDirectory => "Not a directory (os error 20)"
  | notText => "stream did not contain valid UTF-8"
  | other reason => reason

/-- What is at the end of a path. -/
inductive Presence where
  | nothing
  | file
  /-- A directory, for instance. -/
  | other
deriving DecidableEq

/-- What a command finds settled on a machine. -/
structure Setup where
  environment : Environment
  /-- The home directory that the user database tells. -/
  home? : Option String
  formats : Formats

/-- Where a command runs. -/
structure Host (m : Type → Type) extends Setup where
  presence : (path : String) → m Presence
  /-- The text of a file. -/
  read : (path : String) → m (Except FileFault String)
  /-- Makes or replaces a file. -/
  write : (path content : String) → m (Except FileFault Unit)
  /-- All the text of the input. -/
  input : m (Except FileFault String)
  /-- Adds to the output. -/
  print : String → m Unit
  /-- Adds to the output for complaints. -/
  complain : String → m Unit

end Reshape
