import Reshape.Plan
import Reshape.Settings

/-!
# Extraction

Running a plan on a document. The result starts as the template of the plan, and each instruction,
in order, writes its value over its slot:

* nothing found: the default of the field, or its slot when that is `null`, and nothing else
  happens;
* a found `null` gives way to a default of its own; then modifiers and maps change each value;
* `Extraction.gather` decides between a list and a single value, and runs a nested plan on each
  value of a list field and on the first value of any other field.

Producers of defaults pass on a state of type `σ`, also when the run fails.
-/

namespace Reshape

/-- The values that the path of a field finds; without a path there are none. -/
def Field.found {σ ν : Type} (field : Field σ Path ν) (document : Json) : List Json :=
  (field.path.map (Path.select document)).getD []

/-- A run that may use producers of defaults and may fail. -/
abbrev Extraction (σ α : Type) := ExceptT Error (StateM σ) α

namespace Extraction

variable {σ : Type}

/-- The value of a field that matches nothing. -/
def absent {π ν : Type} (field : Field σ π ν) : StateM σ Json := do
  let fallback ← field.fetchDefault
  return if fallback.isNull then field.slot else fallback

/-- What a field makes of one found value. -/
def present {π ν : Type} (registry : Registry) (settings : Settings) (field : Field σ π ν)
    (found : Json) : Extraction σ Json := do
  let value ← if found.isNull then field.fetchDefault else pure found
  ExceptT.mk (pure (field.transform registry settings.strictModifiers value))

/-- The value of a field without nested schema from the values it found. -/
def collect (settings : Settings) (scopedKey : String) (array : Bool) (values : List Json) :
    Except Error Json :=
  if array then .ok (.array values)
  else
    match values, settings.cardinality with
    | [value], _ => .ok value
    | values, .sequence => .ok (.array values)
    | values, .error => .error (.ambiguousCardinality scopedKey values.length)

mutual

/-- `result` with what instructions find in a document written over it. -/
def fill (registry : Registry) (settings : Settings) (document : Json) :
    List (Instruction σ) → Keyed Json → Extraction σ (Keyed Json)
  | [], result => pure result
  | instruction :: rest, result => do
    let value ← evaluate registry settings document instruction
    fill registry settings document rest (result.insert instruction.key value)

/-- The value that an instruction finds in a document. -/
def evaluate (registry : Registry) (settings : Settings) (document : Json) :
    Instruction σ → Extraction σ Json
  | ⟨_, scopedKey, ⟨path, fallback, modifiers, maps, array, nested⟩⟩ => do
    let field : Field σ Path (List (Instruction σ)) :=
      ⟨path, fallback, modifiers, maps, array, nested⟩
    match field.found document with
    | [] => absent field
    | found =>
      let values ← found.mapM (present registry settings field)
      gather registry settings scopedKey array nested values

/-- The value of a field from the values it found, by its nested plan if it has one. -/
def gather (registry : Registry) (settings : Settings) (scopedKey : String) (array : Bool) :
    Option (List (Instruction σ)) → List Json → Extraction σ Json
  | none, values => ExceptT.mk (pure (collect settings scopedKey array values))
  | some plan, values =>
    if array then do
      let objects ← values.mapM fun value =>
        fill registry settings value plan (Plan.template plan)
      return .array (objects.map .object)
    else
      match values with
      | [] => pure (.object [])
      | value :: _ => .object <$> fill registry settings value plan (Plan.template plan)

end

end Extraction

/-- The object that a plan makes of a document. -/
def Plan.run {σ : Type} (registry : Registry) (settings : Settings) (plan : Plan σ)
    (document : Json) : Extraction σ Json :=
  .object <$> Extraction.fill registry settings document plan plan.template

end Reshape
