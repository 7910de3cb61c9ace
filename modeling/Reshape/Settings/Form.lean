import Reshape.Json.Printer
import Reshape.Settings.Value

/-!
# Written settings

* `Settings.toJson` writes settings as JSON, and `Settings.ofJson?` reads them strictly: each part
  has its exact type, and a record may be an object or a list of its parts in order;
* `Settings.toToml?` writes a configuration file; TOML has no integer for a `maxDepth` of `2 ^ 63`
  or more.
-/

namespace Reshape.Settings

def extractionJson (settings : Settings) : Json :=
  .object [("strict_modifiers", .bool settings.strictModifiers),
    ("cardinality", .string settings.cardinality.name), ("max_depth", .ofNat settings.maxDepth)]

def toJson (settings : Settings) : Json := .object [("extraction", settings.extractionJson)]

/-! ## Reading JSON -/

/-- The parts of a record with these names, if the value is one. Objects may have other members, but
lists have no more items than there are parts. -/
def parts? (names : List String) : Json → Option (List (Option Json))
  | .object members => some (names.map (Keyed.get? members))
  | .array items =>
    if items.length ≤ names.length then
      some ((List.range names.length).map fun position => items[position]?)
    else
      none
  | _ => none

def boolOfJson? : Json → Option Bool
  | .bool b => some b
  | _ => none

def natOfJson? : Json → Option Nat
  | .number (.integer n) => if 0 ≤ n then some n.toNat else none
  | _ => none

/-- A cardinality by its exact name, which may also be the only key of an object with `null`. -/
def cardinalityOfJson? (value : Json) : Option Cardinality :=
  let named? (name : String) : Option Cardinality :=
    [Cardinality.sequence, .error].find? fun cardinality => cardinality.name == name
  match value with
  | .string name => named? name
  | .object [(name, .null)] => named? name
  | _ => none

/-- The settings that the value under `extraction` spells. -/
def ofExtractionJson? (value : Json) : Option Settings := do
  match ← parts? ["strict_modifiers", "cardinality", "max_depth"] value with
  | [strict, cardinality, maxDepth] =>
    return ⟨← orElse standard.strictModifiers boolOfJson? strict,
      ← orElse standard.cardinality cardinalityOfJson? cardinality,
      ← orElse standard.maxDepth natOfJson? maxDepth⟩
  | _ => none

def ofJson? (value : Json) : Option Settings := do
  match ← parts? ["extraction"] value with
  | [extraction] => orElse standard ofExtractionJson? extraction
  | _ => none

/-! ## Writing TOML -/

/-- A line of a configuration file. Booleans, naturals and plain strings are spelled as in JSON. -/
def tomlLine (key : String) (value : Json) : String := key ++ " = " ++ value.compact ++ "\n"

/-- The text of a configuration file, if TOML can hold the settings. -/
def toToml? (settings : Settings) : Option String :=
  if Number.IsSigned settings.maxDepth then
    some ("[extraction]\n" ++ tomlLine "strict_modifiers" (.bool settings.strictModifiers) ++
      tomlLine "cardinality" (.string settings.cardinality.name) ++
      tomlLine "max_depth" (.ofNat settings.maxDepth))
  else
    none

end Reshape.Settings
