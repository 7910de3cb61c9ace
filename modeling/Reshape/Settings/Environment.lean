import Reshape.Decimal
import Reshape.Settings.Layer

/-!
# Configuration from the environment

Variables called `JSON_EXTRACTOR__EXTRACTION__MAX_DEPTH` and the like, in any case, form a layer of
configuration: what follows the first two underscores is an address, with two underscores for each
of its points.

`Setting.ofText` decides what kind of value a variable holds.
-/

namespace Reshape

/-- Names and values of variables. -/
abbrev Environment := List (String × String)

namespace Setting

open Text (Reader isDecimalDigit valueOf withSign lower)
open Text.Reader

def integerReader : Reader Int := do
  let negative ← sign
  let digits ← takeWhile1 isDecimalDigit
  let n := withSign negative (valueOf 10 digits)
  if Number.IsSigned n then pure n else failure

def exponentReader : Reader Int := do
  let _ ← satisfying fun c => c == 'e' || c == 'E'
  let negative ← sign
  let digits ← takeWhile1 isDecimalDigit
  pure (withSign negative (valueOf 10 digits))

/-- A float in decimal digits, a point at either end allowed. What is past the largest double is
infinite. -/
def decimalReader (negative : Bool) : Reader TomlFloat := do
  let whole ← takeWhile isDecimalDigit
  let places ← if ← char? '.' then takeWhile isDecimalDigit else pure []
  if whole.isEmpty ∧ places.isEmpty then failure
  let power ← optional? exponentReader
  let decimal : Decimal :=
    ⟨negative, valueOf 10 (whole ++ places), power.getD 0 - places.length⟩
  pure (decimal.toDouble?.elim (.infinite negative) .finite)

def anyCase (letters : String) : Reader Unit := do
  let taken ← take letters.length
  if taken.map Char.toLower = letters.toList then pure () else failure

def floatReader : Reader TomlFloat := do
  let negative ← sign
  (do anyCase "infinity"; pure (.infinite negative)) <|>
    (do anyCase "inf"; pure (.infinite negative)) <|>
    (do anyCase "nan"; pure .nan) <|>
    decimalReader negative

/-- What a text holds: a boolean, an integer or a float if it is written like one. -/
def ofText (s : String) : Setting :=
  if lower s = "true" then bool true
  else if lower s = "false" then bool false
  else
    match run? integerReader s, run? floatReader s with
    | some n, _ => integer n
    | none, some f => float f
    | none, none => text s

end Setting

namespace Layer

/-- How the names of variables begin, in lower case. -/
def variableStart : List Char := "json_extractor__".toList

/-- Two underscores as a point, from left to right. -/
def pointed : List Char → List Char
  | '_' :: '_' :: rest => '.' :: pointed rest
  | c :: rest => c :: pointed rest
  | [] => []

/-- The key that a variable sets, if it sets any. -/
def variableKey? (name : String) : Option String :=
  let name := (Text.lower name).toList
  if variableStart.isPrefixOf name then
    some (String.ofList (pointed (name.drop variableStart.length)))
  else
    none

/-- The layer that variables form. -/
def ofEnvironment (environment : Environment) : Layer :=
  environment.filterMap fun (name, value) =>
    (variableKey? name).map fun key => (key, Setting.ofText value)

end Layer

end Reshape
