import Reshape.Host.Path
import Reshape.Json.Reader
import Reshape.Settings.Layer
import Reshape.Toml.Reader

/-!
# Formats of configuration files

The name of a configuration file ends in what tells its format, and a name without such an ending
may still stand for a file that has one:

* `FileFormat.ofName?` is the format that a name tells;
* `Formats.candidates` are the files that a name may stand for, in the order in which they are
  tried;
* `Formats.read?` is the layer that a text makes.

TOML and JSON are read here. The readers of the foreign formats and the order of the endings are
parts of `Formats`, so nothing rests on them.
-/

namespace Reshape

namespace Setting

/-- A JSON number as a configuration value. Integers past a signed word become floats. -/
def ofNumber : Number → Setting
  | .integer n =>
    if Number.IsSigned n then integer n
    else float ((Double.ofInt? n).elim (.infinite (n < 0)) .finite)
  | .double d => float (.finite d)

mutual

/-- A JSON value as a configuration value. -/
def ofJson : Json → Setting
  | .null => unset
  | .bool b => bool b
  | .number n => ofNumber n
  | .string s => text s
  | .array items => list (ofJsonItems items)
  | .object members => table (ofJsonMembers members)

def ofJsonItems : List Json → List Setting
  | [] => []
  | item :: rest => ofJson item :: ofJsonItems rest

def ofJsonMembers : List (String × Json) → List (String × Setting)
  | [] => []
  | (key, value) :: rest => (key, ofJson value) :: ofJsonMembers rest

end

end Setting

/-- The layer of a JSON document, which has to be an object. -/
def Layer.ofJson? : Json → Option Layer
  | .object members => some (Setting.ofJsonMembers members)
  | _ => none

/-- The formats that are read elsewhere. -/
inductive ForeignFormat where
  | yaml
  | ini
  | ron
  | json5
deriving DecidableEq

inductive FileFormat where
  | toml
  | json
  | foreign (format : ForeignFormat)
deriving DecidableEq

namespace FileFormat

def all : List FileFormat :=
  [toml, json, foreign .yaml, foreign .ini, foreign .ron, foreign .json5]

/-- The endings that tell a format. -/
def endings : FileFormat → List String
  | toml => ["toml"]
  | json => ["json"]
  | foreign .yaml => ["yaml", "yml"]
  | foreign .ini => ["ini"]
  | foreign .ron => ["ron"]
  | foreign .json5 => ["json5"]

/-- The format that the name of a file tells. -/
def ofName? (name : String) : Option FileFormat :=
  (extension? name).bind fun ending => all.find? fun format => format.endings.contains ending

end FileFormat

/-- A file that a name may stand for, with its format if that is known. -/
structure Candidate where
  file : String
  format? : Option FileFormat
deriving DecidableEq

/-- What is left open about formats: how the foreign ones are read, and in which order the endings
of all of them are tried. -/
structure Formats where
  foreign : ForeignFormat → String → Option Layer
  order : List FileFormat
  complete : order.Perm FileFormat.all

namespace Formats

/-- The files that a name may stand for: the one of this name, and those with one more ending. -/
def candidates (formats : Formats) (name : String) : List Candidate :=
  ⟨name, FileFormat.ofName? name⟩ ::
    (stem? name).toList.flatMap fun stem =>
      formats.order.flatMap fun format =>
        format.endings.map fun ending => ⟨stem ++ "." ++ ending, some format⟩

/-- The layer that a text makes, if it is well-formed. -/
def read? (formats : Formats) : FileFormat → String → Option Layer
  | .toml, text => (Toml.parse? text).map Layer.ofToml
  | .json, text => (Json.parse? text).bind Layer.ofJson?
  | .foreign format, text => formats.foreign format text

/-- TOML and JSON alone. -/
def builtin : Formats where
  foreign _ _ := none
  order := FileFormat.all
  complete := .refl _

end Formats

end Reshape
