import Reshape.Error
import Reshape.Path.Query.Reader
import Reshape.Path.Query.Selection
import Reshape.Path.Simple
import Reshape.Text.Blank

/-!
# Paths

A path is compiled once and then selects values from any number of documents:

* `Path.compile` refuses blank texts, takes a text as a simple path if it is one, and as a general
  query otherwise;
* `Path.select` is the list of values that the path finds in a document.
-/

namespace Reshape

inductive PathKind where
  | simple
  | general
deriving DecidableEq

/-- A compiled path, together with the text it was compiled from. -/
inductive Path where
  | simple (expression : String) (path : SimplePath)
  | general (expression : String) (query : Query)

namespace Path

/-- The text that the path was compiled from. -/
def expression : Path → String
  | simple expression _ | general expression _ => expression

def kind : Path → PathKind
  | simple .. => .simple
  | general .. => .general

/-- The values that the path finds in a document. -/
def select (document : Json) : Path → List Json
  | simple _ path => path.select document
  | general _ query => query.select document

/-- The general query that a text spells. -/
def compileGeneral (text : String) : Except Error Path :=
  match Query.parse? text with
  | some query => .ok (.general text query)
  | none => .error (.invalidPath text .malformed)

/-- The path that a text spells. -/
def compile (text : String) : Except Error Path :=
  if Text.isBlankText text then .error (.invalidPath text .blank)
  else
    match SimplePath.parse? text with
    | some path => .ok (.simple text path)
    | none => compileGeneral text

end Path

/-- How listings name the form of a path. -/
def PathKind.name : PathKind → String
  | simple => "fast"
  | general => "query"

end Reshape
