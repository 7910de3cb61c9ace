import Reshape.Decimal
import Reshape.Toml.Table

/-!
# Reading TOML text

`Toml.parse?` reads a document: one statement a line, with blanks and comments around it.

* arrays and inline tables nest at most `maxNesting` deep, and a key has at most as many parts;
* an integer must be one of `Number.IsSigned`; a float past the largest double is refused when it is
  positive and infinite when it is negative;
* line breaks inside strings of several lines are read as `\n`, and a break right after the opening
  quotes is dropped.
-/

namespace Reshape.Toml

open Text (Reader isDecimalDigit isDigitIn valueOf withSign charOfCode?)
open Text.Reader

/-- How deep arrays and inline tables may nest in a text. -/
def maxNesting : Nat := 79

namespace Reader

/-! ## Characters -/

def isBlank (c : Char) : Bool := c == ' ' || c == '\t'

/-- The characters of comments and, their delimiters apart, of strings: everything but controls. -/
def isText (c : Char) : Bool := c == '\t' || (' ' ≤ c && c != '\x7f')

/-- The characters of keys without quotes. -/
def isKeyChar (c : Char) : Bool := c.isAlphanum || c == '_' || c == '-'

def blanks : Reader Unit := skipWhile isBlank

def lineBreak : Reader Unit := char '\n' <|> chars ['\r', '\n']

def comment : Reader Unit := do
  char '#'
  skipWhile isText

/-- Skips blanks, comments and line breaks. -/
def trivia : Reader Unit := do
  let _ ← many ((do let _ ← satisfying isBlank) <|> lineBreak <|> comment)

/-! ## Strings -/

/-- What a letter after a backslash stands for. -/
def escaped : Reader Char := do
  match ← next with
  | 'b' => pure '\x08'
  | 't' => pure '\t'
  | 'n' => pure '\n'
  | 'f' => pure '\x0c'
  | 'r' => pure '\r'
  | '"' => pure '"'
  | '\\' => pure '\\'
  | 'u' => (charOfCode? (← hexCode 4)).getM
  | 'U' => (charOfCode? (← hexCode 8)).getM
  | _ => failure

/-- A character that stands for itself before the delimiter `quote`, or after a backslash. -/
def basicChar : Reader Char :=
  satisfying (fun c => isText c && c != '"' && c != '\\') <|> (do char '\\'; escaped)

/-- A character that stands for itself where no backslash counts. -/
def literalChar : Reader Char := satisfying fun c => isText c && c != '\''

/-- A string of one line between delimiters. -/
def lineString (quote : Char) (item : Reader Char) : Reader String := do
  char quote
  let content ← many item
  char quote
  pure (String.ofList content)

/-- A key or a string in either kind of quotes. -/
def quotedLine : Reader String := lineString '"' basicChar <|> lineString '\'' literalChar

/-- Quotes that do not end a string of several lines. -/
def innerQuotes (quote : Char) : Reader (List Char) := do
  let quotes ← takeWhile1 (· == quote)
  if quotes.length < 3 then pure quotes else failure

/-- The quotes that end a string of several lines, with up to two more that belong to it. -/
def closingQuotes (quote : Char) : Reader (List Char) := do
  let quotes ← takeWhile1 (· == quote)
  if 3 ≤ quotes.length ∧ quotes.length ≤ 5 then pure (quotes.drop 3) else failure

/-- A line break as it stands in a string. -/
def innerBreak : Reader (List Char) := do
  lineBreak
  pure ['\n']

/-- A backslash at the end of a line, which joins the next text to it. -/
def joint : Reader (List Char) := do
  char '\\'
  blanks
  lineBreak
  let _ ← many ((do let _ ← satisfying isBlank) <|> lineBreak)
  pure []

/-- A string of several lines between delimiters. -/
def blockString (quote : Char) (item : Reader (List Char)) : Reader String := do
  chars [quote, quote, quote]
  let _ ← optional? lineBreak
  let content ← many (item <|> innerBreak <|> innerQuotes quote)
  let last ← closingQuotes quote
  pure (String.ofList (content.flatten ++ last))

def string : Reader String :=
  blockString '"' (List.singleton <$> basicChar <|> joint) <|> lineString '"' basicChar <|>
    blockString '\'' (List.singleton <$> literalChar) <|> lineString '\'' literalChar

/-! ## Numbers -/

/-- Digits with single underscores between them. -/
def digitRun (base : Nat) : Reader (List Char) := do
  let first ← satisfying (isDigitIn base)
  let rest ← many (satisfying (isDigitIn base) <|> (do char '_'; satisfying (isDigitIn base)))
  pure (first :: rest)

/-- A sign and digits without a needless leading zero. -/
def signedDigits : Reader (Bool × List Char) := do
  let negative ← sign
  let digits ← (do char '0'; pure ['0']) <|> digitRun 10
  pure (negative, digits)

def exponent : Reader Int := do
  let _ ← satisfying fun c => c == 'e' || c == 'E'
  let negative ← sign
  let digits ← digitRun 10
  pure (withSign negative (valueOf 10 digits))

/-- A float with a fraction, an exponent or both. -/
def finiteFloat : Reader TomlFloat := do
  let (negative, whole) ← signedDigits
  let places ← optional? (do char '.'; digitRun 10)
  let power ← if places.isSome then optional? exponent else some <$> exponent
  let places := places.getD []
  let decimal : Decimal :=
    ⟨negative, valueOf 10 (whole ++ places), power.getD 0 - places.length⟩
  match decimal.toDouble? with
  | some d => pure (.finite d)
  | none => if negative then pure (.infinite true) else failure

def float : Reader TomlFloat :=
  finiteFloat <|>
  (do let negative ← sign; word "inf"; pure (.infinite negative)) <|>
  (do let _ ← sign; word "nan"; pure .nan)

/-- An integer in a base that `mark` announces. -/
def basedInteger (mark : String) (base : Nat) : Reader Int := do
  word mark
  let digits ← digitRun base
  pure (valueOf base digits)

def decimalInteger : Reader Int := do
  let (negative, digits) ← signedDigits
  pure (withSign negative (valueOf 10 digits))

def integer : Reader Int := do
  let n ← basedInteger "0x" 16 <|> basedInteger "0o" 8 <|> basedInteger "0b" 2 <|> decimalInteger
  if Number.IsSigned n then pure n else failure

/-! ## Keys and values -/

/-- The parts of a key with points between them. -/
def key : Reader Key := do
  let part : Reader String := do
    blanks
    let name ← quotedLine <|> (String.ofList <$> takeWhile1 isKeyChar)
    blanks
    pure name
  let parts ← separated part (char '.')
  if parts.length ≤ maxNesting then pure parts else failure

/-- A key and a value; the last part of the key apart. -/
def assignment (value : Reader Toml) : Reader (Key × String × Toml) := do
  let parts ← key
  let name ← parts.getLast?.getM
  char '='
  blanks
  let value ← value
  blanks
  pure (parts.dropLast, name, value)

/-- A value other than an array or a table. -/
def scalar : Reader Toml :=
  (Toml.string <$> string) <|>
  (do word "true"; pure (.bool true)) <|>
  (do word "false"; pure (.bool false)) <|>
  (Toml.moment <$> Moment.reader) <|>
  (Toml.float <$> float) <|>
  (Toml.integer <$> integer)

/-- Items in brackets, over any number of lines. A comma may follow the last one. -/
def array (value : Reader Toml) : Reader Toml := do
  let item : Reader Toml := do
    trivia
    let value ← value
    trivia
    pure value
  let items : Reader (List Toml) := do
    let items ← separated item (char ',')
    let _ ← char? ','
    pure items
  char '['
  let items ← items <|> pure []
  trivia
  char ']'
  pure (.array items)

def inlineTable (value : Reader Toml) : Reader Toml := do
  char '{'
  let assignments ← separated (assignment value) (char ',') <|> pure []
  blanks
  char '}'
  let members ← (Table.ofAssignments? assignments).getM
  pure (.table members)

/-- A value in which arrays and inline tables nest at most `depth` deep. -/
def value : (depth : Nat) → Reader Toml
  | 0 => scalar
  | depth + 1 => scalar <|> array (value depth) <|> inlineTable (value depth)

/-! ## Documents -/

def header : Reader Statement :=
  (do chars ['[', '[']; let parts ← key; chars [']', ']']; pure (.item parts)) <|>
  (do char '['; let parts ← key; char ']'; pure (.table parts))

def statement : Reader Statement :=
  header <|> (do
    let (scope, name, value) ← assignment (value maxNesting)
    pure (.assign scope name value))

def line : Reader (Option Statement) := do
  blanks
  let content ← optional? statement
  blanks
  let _ ← optional? comment
  pure content

/-- A document; a byte order mark may come first. -/
def document : Reader (List Statement) := do
  let _ ← char? '\ufeff'
  let lines ← separated line lineBreak
  pure (lines.filterMap id)

end Reader

/-- The members of the document that a text spells. -/
def parse? (text : String) : Option (Keyed Toml) :=
  (Text.Reader.run? Reader.document text).bind Table.ofStatements?

end Reshape.Toml
