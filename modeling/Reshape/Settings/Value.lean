import Reshape.Settings
import Reshape.Text.Casing
import Reshape.Text.Digits
import Reshape.Toml

/-!
# Configuration values

What a configuration holds, and how leniently it is understood:

* `Setting.asBool?`: numbers other than zero are true, and some words are booleans;
* `Setting.asNat?`: floats are rounded and kept within 64 bits, and some words and digits count too;
* `Setting.asCardinality?`: a name in any case, or a table with that name as its only key.
-/

namespace Reshape

inductive Setting where
  | unset
  | bool (value : Bool)
  | integer (value : Int)
  | float (value : TomlFloat)
  | text (value : String)
  | list (items : List Setting)
  | table (members : List (String × Setting))

namespace Setting

open Text (lower isDecimalDigit valueOf)

mutual

/-- A TOML value as a configuration value; a date or time is its text. -/
def ofToml : Toml → Setting
  | .string s => text s
  | .integer n => integer n
  | .float f => float f
  | .bool b => bool b
  | .moment m => text m.text
  | .array items => list (ofTomlItems items)
  | .table members => table (ofTomlMembers members)

def ofTomlItems : List Toml → List Setting
  | [] => []
  | item :: rest => ofToml item :: ofTomlItems rest

def ofTomlMembers : List (String × Toml) → List (String × Setting)
  | [] => []
  | (key, value) :: rest => (key, ofToml value) :: ofTomlMembers rest

end

/-- The entries of a table; other values have none. -/
def entries : Setting → Keyed Setting
  | table members => members
  | _ => []

/-- The items of a list; other values have none. -/
def items : Setting → List Setting
  | list items => items
  | _ => []

/-! ## Understanding values -/

/-- The words for true, besides `1` where a number is not asked for. -/
def trueWords : List String := ["true", "on", "yes"]

/-- The words for false, besides `0` where a number is not asked for. -/
def falseWords : List String := ["false", "off", "no"]

def isNonzero : TomlFloat → Bool
  | .finite d => d.units != 0
  | .infinite _ | .nan => true

def asBool? : Setting → Option Bool
  | bool b => some b
  | integer n => some (n != 0)
  | float f => some (isNonzero f)
  | text s =>
    if lower s ∈ "1" :: trueWords then some true
    else if lower s ∈ "0" :: falseWords then some false
    else none
  | unset | list _ | table _ => none

/-- The first natural that 64 bits cannot hold. -/
def natLimit : Nat := 0x10000000000000000

/-- The natural nearest to a float, within 64 bits. -/
def nearestNat : TomlFloat → Nat
  | .finite d => min d.round.toNat (natLimit - 1)
  | .infinite negative => if negative then 0 else natLimit - 1
  | .nan => 0

/-- The natural that decimal digits spell, with or without a plus. -/
def natOfText? (s : String) : Option Nat :=
  let digits :=
    match s.toList with
    | '+' :: rest => rest
    | other => other
  if !digits.isEmpty && digits.all isDecimalDigit && valueOf 10 digits < natLimit then
    some (valueOf 10 digits)
  else
    none

def asNat? : Setting → Option Nat
  | bool b => some b.toNat
  | integer n => if 0 ≤ n then some n.toNat else none
  | float f => some (nearestNat f)
  | text s =>
    if lower s ∈ trueWords then some 1
    else if lower s ∈ falseWords then some 0
    else natOfText? s
  | unset | list _ | table _ => none

/-- The cardinality with this name in any case. -/
def cardinalityNamed? (name : String) : Option Cardinality :=
  [Cardinality.sequence, .error].find? fun cardinality => cardinality.name == lower name

def asCardinality? : Setting → Option Cardinality
  | text s => cardinalityNamed? s
  | table [(name, _)] => cardinalityNamed? name
  | _ => none

end Setting

namespace Settings

/-- The part of a record under `name`, or at `position` when the record is written as a list.
Other values are no records. -/
def partOf? (name : String) (position : Nat) : Setting → Option (Option Setting)
  | .table members => some (Keyed.get? members name)
  | .list items => some items[position]?
  | _ => none

/-- The meaning of a part, or `absent` where the part is missing. -/
def orElse {α β : Type} (absent : α) (meaning : β → Option α) : Option β → Option α
  | none => some absent
  | some value => meaning value

/-- The settings that the value under `extraction` means. -/
def ofExtraction? (value : Setting) : Option Settings := do
  let strict ←
    orElse standard.strictModifiers Setting.asBool? (← partOf? "strict_modifiers" 0 value)
  let cardinality ←
    orElse standard.cardinality Setting.asCardinality? (← partOf? "cardinality" 1 value)
  let maxDepth ← orElse standard.maxDepth Setting.asNat? (← partOf? "max_depth" 2 value)
  return ⟨strict, cardinality, maxDepth⟩

def ofSetting? (configuration : Setting) : Option Settings := do
  orElse standard ofExtraction? (← partOf? "extraction" 0 configuration)

end Settings

end Reshape
