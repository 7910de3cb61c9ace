import Reshape.Json
import Reshape.Toml.Moment

/-!
# TOML values

The values of TOML documents, and what they are as JSON values: floats without a JSON form become
`null`, and a date or time becomes an object with its text under `Toml.momentKey`.
-/

namespace Reshape

inductive TomlFloat where
  | finite (value : Double)
  | infinite (negative : Bool)
  | nan
deriving DecidableEq

inductive Toml where
  | string (value : String)
  | integer (value : Int)
  | float (value : TomlFloat)
  | bool (value : Bool)
  | moment (value : Moment)
  | array (items : List Toml)
  | table (members : List (String × Toml))

namespace Toml

/-- The member under which the text of a date or time stands. -/
def momentKey : String := "$__toml_private_datetime"

mutual

def toJson : Toml → Json
  | string s => .string s
  | integer n => .ofInt n
  | float (.finite d) => .number (.double d)
  | float _ => .null
  | bool b => .bool b
  | moment m => .object [(momentKey, .string m.text)]
  | array items => .array (toJsonItems items)
  | table members => .object (toJsonMembers members)

def toJsonItems : List Toml → List Json
  | [] => []
  | item :: rest => item.toJson :: toJsonItems rest

def toJsonMembers : List (String × Toml) → List (String × Json)
  | [] => []
  | (key, value) :: rest => (key, value.toJson) :: toJsonMembers rest

end

end Toml

end Reshape
