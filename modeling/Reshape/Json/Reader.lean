import Reshape.Decimal
import Reshape.Json
import Reshape.Text.Digits

/-!
# Reading JSON text

`Json.parse?` reads one value with nothing but blanks around it:

* arrays and objects nest at most `maxNesting` deep;
* a numeral without fraction and exponent is an integer when it is one of `Number.IsInteger`, any
  other numeral is the nearest double, and `-0` is the negative zero double; a numeral past the
  largest double is refused;
* of members with the same key the first keeps its place and the last its value.
-/

namespace Reshape.Json

open Text (Reader isDecimalDigit valueOf withSign)
open Text.Reader

/-- How deep arrays and objects may nest in a text. -/
def maxNesting : Nat := 127

def isBlank (c : Char) : Bool := c == ' ' || c == '\t' || c == '\n' || c == '\r'

namespace Reader

def blanks : Reader Unit := skipWhile isBlank

/-! ## Numbers -/

/-- Digits without a needless leading zero. -/
def wholeDigits : Reader (List Char) :=
  (do char '0'; pure ['0']) <|> takeWhile1 isDecimalDigit

/-- The digits after a point, empty when there is no point. -/
def fraction : Reader (List Char) := do
  if ← char? '.' then takeWhile1 isDecimalDigit else pure []

def exponent : Reader Int := do
  let _ ← satisfying fun c => c == 'e' || c == 'E'
  let negative ← char? '-'
  unless negative do
    let _ ← char? '+'
  let digits ← takeWhile1 isDecimalDigit
  pure (withSign negative (valueOf 10 digits))

def number : Reader Number := do
  let negative ← char? '-'
  let whole ← wholeDigits
  let places ← fraction
  let power ← optional? exponent
  let digits := valueOf 10 (whole ++ places)
  let value := withSign negative digits
  if places.isEmpty ∧ power.isNone ∧ Number.IsInteger value ∧ ¬ (negative ∧ digits = 0) then
    pure (.integer value)
  else
    let decimal : Decimal := ⟨negative, digits, power.getD 0 - places.length⟩
    Number.double <$> decimal.toDouble?.getM

/-! ## Strings -/

/-- The character that a letter after a backslash stands for. -/
def escape : Reader Char := do
  match ← next with
  | '"' => pure '"'
  | '\\' => pure '\\'
  | '/' => pure '/'
  | 'b' => pure '\x08'
  | 'f' => pure '\x0c'
  | 'n' => pure '\n'
  | 'r' => pure '\r'
  | 't' => pure '\t'
  | 'u' => codeEscape
  | _ => failure

def stringChar : Reader Char := do
  let c ← satisfying fun c => c != '"' && ' ' ≤ c
  if c == '\\' then escape else pure c

def string : Reader String := do
  char '"'
  let content ← many stringChar
  char '"'
  pure (String.ofList content)

/-! ## Values -/

/-- What stands between an opening and a closing bracket: items with commas between them. -/
def bracketed {α : Type} (opening closing : Char) (item : Reader α) : Reader (List α) := do
  char opening
  blanks
  if ← char? closing then
    pure []
  else
    let items ← separated item (do blanks; char ','; blanks)
    blanks
    char closing
    pure items

def member (value : Reader Json) : Reader (String × Json) := do
  let key ← string
  blanks
  char ':'
  blanks
  pure (key, ← value)

/-- A value other than an array or an object. -/
def scalar : Reader Json :=
  (do word "null"; pure .null) <|>
  (do word "true"; pure (.bool true)) <|>
  (do word "false"; pure (.bool false)) <|>
  (Json.string <$> string) <|>
  (Json.number <$> number)

/-- A value in which arrays and objects nest at most `depth` deep. -/
def value : (depth : Nat) → Reader Json
  | 0 => scalar
  | depth + 1 =>
    scalar <|>
    (Json.array <$> bracketed '[' ']' (value depth)) <|>
    ((fun members => Json.object (Keyed.ofList members)) <$>
      bracketed '{' '}' (member (value depth)))

end Reader

def parse? (text : String) : Option Json :=
  Text.Reader.run? (do Reader.blanks; let v ← Reader.value maxNesting; Reader.blanks; pure v) text

end Reshape.Json
