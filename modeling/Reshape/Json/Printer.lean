import Reshape.Decimal
import Reshape.Json

/-!
# Writing JSON text

Values are written compactly or indented by two spaces:

* a double is written with the fewest digits that read back, positionally when its leading digit
  stands for `10 ^ -5` to `10 ^ 15` and with a signed exponent otherwise, so a double always shows
  a point or an exponent;
* a string escapes the quote, the backslash and what lies below the space, and nothing else.
-/

namespace Reshape

namespace Number

def digitChars (n : Nat) : List Char := Nat.toDigits 10 n

/-- The exponents of a leading digit that is written positionally. -/
def positional (exponent : Int) : Bool := -5 ≤ exponent && exponent ≤ 15

/-- The magnitude with its point among the digits; `exponent` belongs to the leading digit. -/
def positionalChars (digits : List Char) (exponent : Int) : List Char :=
  if exponent < 0 then
    '0' :: '.' :: List.replicate (-exponent - 1).toNat '0' ++ digits
  else
    let whole := exponent.toNat + 1
    if digits.length ≤ whole then
      digits ++ List.replicate (whole - digits.length) '0' ++ ['.', '0']
    else
      digits.take whole ++ '.' :: digits.drop whole

/-- The magnitude with one digit before the point and a signed exponent. -/
def scientificChars (digits : List Char) (exponent : Int) : List Char :=
  digits.take 1 ++ (if digits.length ≤ 1 then [] else '.' :: digits.drop 1) ++
    'e' :: (if exponent < 0 then '-' else '+') :: digitChars exponent.natAbs

def decimalChars (x : Decimal) : List Char :=
  let digits := digitChars x.digits
  let exponent := x.exponent + digits.length - 1
  (if x.negative then ['-'] else []) ++
    if positional exponent then positionalChars digits exponent
    else scientificChars digits exponent

def integerChars (n : Int) : List Char :=
  (if n < 0 then ['-'] else []) ++ digitChars n.natAbs

def chars : Number → List Char
  | .integer n => integerChars n
  | .double d => decimalChars d.shortest

def text (n : Number) : String := String.ofList n.chars

end Number

namespace Json

def hexDigit (n : Nat) : Char := if n < 10 then Char.ofNat (48 + n) else Char.ofNat (87 + n)

/-- How a character is written inside a quoted string. -/
def escaped (c : Char) : List Char :=
  match c with
  | '"' => ['\\', '"']
  | '\\' => ['\\', '\\']
  | '\x08' => ['\\', 'b']
  | '\t' => ['\\', 't']
  | '\n' => ['\\', 'n']
  | '\x0c' => ['\\', 'f']
  | '\r' => ['\\', 'r']
  | c =>
    if c < ' ' then ['\\', 'u', '0', '0', hexDigit (c.toNat / 16), hexDigit (c.toNat % 16)]
    else [c]

def quoted (s : String) : String := "\"" ++ String.ofList (s.toList.flatMap escaped) ++ "\""

/-! ## Compact form -/

mutual

def compact : Json → String
  | null => "null"
  | bool true => "true"
  | bool false => "false"
  | number n => n.text
  | string s => quoted s
  | array items => "[" ++ ",".intercalate (compactItems items) ++ "]"
  | object members => "\x7b" ++ ",".intercalate (compactMembers members) ++ "\x7d"

def compactItems : List Json → List String
  | [] => []
  | item :: rest => item.compact :: compactItems rest

def compactMembers : List (String × Json) → List String
  | [] => []
  | (key, value) :: rest => (quoted key ++ ":" ++ value.compact) :: compactMembers rest

end

/-! ## Indented form -/

/-- The start of a line at the given depth. -/
def newLine (depth : Nat) : String := "\n" ++ String.ofList (List.replicate (2 * depth) ' ')

/-- Parts on lines of their own between brackets; nothing but the brackets when there are none. -/
def block (opening closing : String) (depth : Nat) (parts : List String) : String :=
  if parts.isEmpty then opening ++ closing
  else
    opening ++ newLine (depth + 1) ++ ("," ++ newLine (depth + 1)).intercalate parts ++
      newLine depth ++ closing

mutual

/-- The text of a value over several lines, its brackets standing at `depth`. -/
def indented (depth : Nat) : Json → String
  | array items => block "[" "]" depth (indentedItems (depth + 1) items)
  | object members => block "\x7b" "\x7d" depth (indentedMembers (depth + 1) members)
  | other => other.compact

/-- The texts of items, one level further in. -/
def indentedItems (depth : Nat) : List Json → List String
  | [] => []
  | item :: rest => item.indented depth :: indentedItems depth rest

/-- The texts of members, one level further in. -/
def indentedMembers (depth : Nat) : List (String × Json) → List String
  | [] => []
  | (key, value) :: rest =>
    (quoted key ++ ": " ++ value.indented depth) :: indentedMembers depth rest

end

/-- The text of a value over several lines. -/
def pretty (value : Json) : String := value.indented 0

end Json

end Reshape
