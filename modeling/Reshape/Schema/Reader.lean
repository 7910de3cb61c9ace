import Reshape.Json.Reader
import Reshape.Schema
import Reshape.Toml.Reader

/-!
# Reading schemas

A schema is written as an object whose members are rules; a rule is a path or an object that
describes a field.

* `modifiers` and `modifier` mean the same and hold one name or several; so do `maps` and `map` for
  tables. Of two spellings the first that is not `null` counts;
* a list of pairs is one table, unless a pair starts with a list: then it is a list of tables;
* faults are reported in the order of reading, each under the keys that lead to it.
-/

namespace Reshape

namespace Rule

/-- The first of these members that is present and not `null`. -/
def firstMember? (members : Keyed Json) (names : List String) : Option Json :=
  (names.filterMap members.get?).find? fun value => !value.isNull

/-- The path that the members of a rule give. -/
def pathOf (key : String) (members : Keyed Json) : Except Error (Option String) :=
  match members.get? "path" with
  | none | some .null => .ok none
  | some (.string expression) => .ok (some expression)
  | some _ => .error (.invalidSchema key .pathNotText)

/-- The modifiers that the members of a rule give. -/
def modifiersOf (key : String) (members : Keyed Json) : Except Error (List Modifier) :=
  match firstMember? members ["modifiers", "modifier"] with
  | none => .ok []
  | some (.array names) => names.mapM (Modifier.ofJson key)
  | some name => List.singleton <$> Modifier.ofJson key name

/-- Whether a value is a pair whose first item is no list. -/
def isPlainPair : Json → Bool
  | .array [.array _, _] => false
  | .array [_, _] => true
  | _ => false

/-- Whether a list is one table written as pairs rather than a list of tables. -/
def isPairList (items : List Json) : Bool := !items.isEmpty && items.all isPlainPair

def mapOf (key : String) (value : Json) : Except Error ValueMap :=
  match ValueMap.ofJson? value with
  | some table => .ok table
  | none => .error (.invalidMap key value)

/-- The tables that the members of a rule give. -/
def mapsOf (key : String) (members : Keyed Json) : Except Error (List ValueMap) :=
  match firstMember? members ["maps", "map"] with
  | none => .ok []
  | some (.array items) =>
    if isPairList items then List.singleton <$> mapOf key (.array items)
    else (items.filter fun item => !item.isNull).mapM (mapOf key)
  | some table => List.singleton <$> mapOf key table

/-- Whether the members of a rule ask for a list. -/
def arrayOf (key : String) (members : Keyed Json) : Except Error Bool :=
  match members.get? "type" with
  | none | some .null => .ok false
  | some (.string name) => .ok (name == "array")
  | some _ => .error (.invalidSchema key .typeNotText)

/-- The field that the members of a rule describe, its nested schema left out. -/
def flatFieldOf {σ ν : Type} (key : String) (members : Keyed Json) :
    Except Error (Field σ String ν) := do
  if members.isEmpty then throw (.invalidSchema key .emptyRule)
  let expression ← pathOf key members
  let modifiers ← modifiersOf key members
  let maps ← mapsOf key members
  let array ← arrayOf key members
  return ⟨expression, (members.get? "default").map .value, modifiers, maps, array, none⟩

end Rule

namespace Schema

variable {σ : Type}

mutual

/-- The schema that a value spells below the keys `scope`. -/
def ofJsonBelow (scope : String) : Json → Except Error (Schema σ)
  | .object rules => Keyed.ofList <$> rulesBelow scope rules
  | _ => .error (.invalidSchema (if scope.isEmpty then "$" else scope) .notRules)

def rulesBelow (scope : String) : List (String × Json) → Except Error (List (String × Rule σ))
  | [] => .ok []
  | (key, value) :: rest => do
    let rule ← ruleAt (scopedKey scope key) value
    let rules ← rulesBelow scope rest
    return (key, rule) :: rules

def ruleAt (key : String) : Json → Except Error (Rule σ)
  | .string path => .ok (.path path)
  | .object members => do
    let field : Field σ String (List (String × Rule σ)) ← Rule.flatFieldOf key members
    let nested ← nestedOf key members
    return .record { field with nested }
  | _ => .error (.invalidSchema key .notRule)

/-- The nested schema that the members of a rule give. -/
def nestedOf (key : String) : List (String × Json) → Except Error (Option (Schema σ))
  | [] => .ok none
  | (name, value) :: rest =>
    if name = "schema" then
      match value with
      | .null => .ok none
      | .object rules => some <$> Keyed.ofList <$> rulesBelow key rules
      | _ => .error (.invalidSchema key .nestedNotRules)
    else nestedOf key rest

end

def ofJson (value : Json) : Except Error (Schema σ) := ofJsonBelow "" value

def ofText (text : String) : Except Error (Schema σ) :=
  match Json.parse? text with
  | some value => ofJson value
  | none => .error .invalidJson

def ofToml (text : String) : Except Error (Schema σ) :=
  match Toml.parse? text with
  | some members => ofJson (Toml.table members).toJson
  | none => .error .invalidToml

end Schema

end Reshape
