/-!
# Settings

What an extraction does where more than one answer makes sense, and how deep schemas may nest.
-/

namespace Reshape

/-- What becomes of several values where one is expected. -/
inductive Cardinality where
  /-- They become a list. -/
  | sequence
  /-- They are an error. -/
  | error
deriving DecidableEq

def Cardinality.name : Cardinality → String
  | sequence => "sequence"
  | error => "error"

/-- The choices of an extraction. -/
structure Settings where
  /-- Whether a modifier that does not resolve is an error. -/
  strictModifiers : Bool := true
  /-- What becomes of several values where one is expected. -/
  cardinality : Cardinality := .sequence
  /-- How many levels of schemas may lie below the outermost one. -/
  maxDepth : Nat := 32
deriving DecidableEq

/-- The settings that hold where nothing else is said. -/
def Settings.standard : Settings where

end Reshape
