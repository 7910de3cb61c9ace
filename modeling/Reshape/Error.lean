import Reshape.Json.Printer

/-!
# Errors

What can go wrong, by cause:

* `isCompileError` holds of the faults of a schema, which are found before any document is read;
* `message` words each cause; values are shown as compact JSON.
-/

namespace Reshape

/-- Why a schema text is not a schema. -/
inductive SchemaFault where
  /-- The schema is no object. -/
  | notRules
  /-- A rule is neither a string nor an object. -/
  | notRule
  /-- A rule is an object without members. -/
  | emptyRule
  /-- The `path` of a rule is no string. -/
  | pathNotText
  /-- The `type` of a rule is no string. -/
  | typeNotText
  /-- The `schema` of a rule is no object. -/
  | nestedNotRules
deriving DecidableEq

inductive PathFault where
  /-- The path holds nothing but blanks. -/
  | blank
  /-- The path is no query. -/
  | malformed
deriving DecidableEq

inductive Error where
  /-- The rule under `key` is no rule. -/
  | invalidSchema (key : String) (fault : SchemaFault)
  /-- The rule under `key` has neither a path nor a default. -/
  | missingPathOrDefault (key : String)
  /-- A modifier of the rule under `key` can never apply; `shown` is how it reads. -/
  | invalidModifier (key : String) (shown : String)
  /-- A map of the rule under `key` is no table. -/
  | invalidMap (key : String) (found : Json)
  /-- A path is no path. -/
  | invalidPath (path : String) (fault : PathFault)
  /-- The schema under `key` lies deeper than `limit` levels. -/
  | schemaTooDeep (key : String) (limit : Nat)
  /-- The modifier called `name` is unknown for `value`. -/
  | unresolvedModifier (name : String) (value : Json)
  /-- The field under `key` is no array and matched `count` values. -/
  | ambiguousCardinality (key : String) (count : Nat)
  /-- There is no plan to run. -/
  | planNotCompiled
  /-- A text is no JSON. -/
  | invalidJson
  /-- A text is no TOML. -/
  | invalidToml
deriving DecidableEq

def SchemaFault.reason : SchemaFault → String
  | notRules => "schema must be a record of rules"
  | notRule => "rule must be a path string or a record"
  | emptyRule => "rule must not be empty"
  | pathNotText => "`path` must be a string"
  | typeNotText => "`type` must be a string"
  | nestedNotRules => "nested `schema` must be a record"

namespace Error

def message : Error → String
  | invalidSchema key fault => s!"Invalid schema definition for `{key}`: {fault.reason}"
  | missingPathOrDefault key =>
    s!"Invalid schema definition for `{key}`: either path or default must be present"
  | invalidModifier key shown => s!"Invalid modifier for `{key}`: {shown}"
  | invalidMap key found => s!"Invalid map for `{key}`: {found.compact}"
  | invalidPath path .blank => s!"Invalid path expression `{path}`: path is empty"
  | invalidPath path .malformed => s!"Invalid path expression `{path}`"
  | schemaTooDeep key limit => s!"Schema for `{key}` nests deeper than the limit of {limit}"
  | unresolvedModifier name value =>
    s!"Modifier `{name}` cannot be applied to value {value.compact}"
  | ambiguousCardinality key count =>
    s!"Field `{key}` matched {count} values but is not declared as an array"
  | planNotCompiled =>
    "No extraction plan compiled; call `compile` or use `Extractor::with_schema` first"
  | invalidJson => "JSON error"
  | invalidToml => "TOML error"

/-- Whether an error is a fault of the schema rather than of a run. -/
def isCompileError : Error → Bool
  | invalidSchema .. | missingPathOrDefault .. | invalidModifier .. | invalidMap ..
  | invalidPath .. | schemaTooDeep .. => true
  | unresolvedModifier .. | ambiguousCardinality .. | planNotCompiled | invalidJson
  | invalidToml => false

end Error

end Reshape
