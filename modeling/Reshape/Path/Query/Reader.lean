import Reshape.Json.Reader
import Reshape.Path.Query

/-!
# Reading queries

`Query.parse?` reads a JSONPath text:

* blanks may stand before a child segment, inside brackets and inside filters, and nowhere else;
* integers have no needless zeros and lie within `maxInteger` of zero;
* queries may be compared only when they are singular, functions are given what they expect, and a
  test is a query, a comparison or a text function.
-/

namespace Reshape.Query

open Text (Reader isDecimalDigit valueOf withSign)
open Text.Reader

/-- The greatest integer in a query. -/
def maxInteger : Nat := 0x1fffffffffffff

namespace Reader

def blanks : Reader Unit := skipWhile Json.isBlank

/-- The value between an opening and a closing character, with blanks inside. -/
def enclosed {α : Type} (opening closing : Char) (inner : Reader α) : Reader α := do
  char opening
  blanks
  let value ← inner
  blanks
  char closing
  pure value

/-- One or more values with commas and blanks between them. -/
def listed {α : Type} (item : Reader α) : Reader (List α) :=
  separated item (do blanks; char ','; blanks)

/-! ## Names, strings and integers -/

/-- The characters that a plain name may start with. -/
def isNameStart (c : Char) : Bool := c.isAlpha || c == '_' || 0x80 ≤ c.toNat

def plainName : Reader String := do
  let first ← satisfying isNameStart
  let rest ← takeWhile fun c => isNameStart c || c.isDigit
  pure (String.ofList (first :: rest))

/-- The character that a letter after a backslash stands for; of the quotes only the enclosing one
may be escaped. -/
def escape (quote : Char) : Reader Char := do
  match ← next with
  | 'b' => pure '\x08'
  | 't' => pure '\t'
  | 'n' => pure '\n'
  | 'f' => pure '\x0c'
  | 'r' => pure '\r'
  | '/' => pure '/'
  | '\\' => pure '\\'
  | 'u' => codeEscape
  | c => if c == quote then pure c else failure

/-- The text up to the quote that opened it. -/
def quotedBy (quote : Char) : Reader String := do
  char quote
  let content ← many do
    let c ← satisfying fun c => c != quote && ' ' ≤ c
    if c == '\\' then escape quote else pure c
  char quote
  pure (String.ofList content)

def string : Reader String := quotedBy '\'' <|> quotedBy '"'

def integer : Reader Int := do
  let negative ← char? '-'
  let digits ← Json.Reader.wholeDigits
  let size := valueOf 10 digits
  if maxInteger < size ∨ (negative ∧ size = 0) then failure
  else pure (withSign negative size)

/-! ## Segments -/

def slice : Reader Selector := do
  let bound : Reader (Option Int) := optional? (do let n ← integer; blanks; pure n)
  let start ← bound
  char ':'
  blanks
  let stop ← bound
  let stride ← optional? (do char ':'; optional? (do blanks; integer))
  pure (.slice start stop ((stride.join).getD 1))

/-- A selector, given how to read the condition of a filter. -/
def selector (condition : Reader Filter) : Reader Selector :=
  (.name <$> string) <|>
  (do char '*'; pure .wildcard) <|>
  slice <|>
  (.index <$> integer) <|>
  (do char '?'; blanks; .filter <$> condition)

def selectors (condition : Reader Filter) : Reader (List Selector) :=
  enclosed '[' ']' (listed (selector condition))

def shorthand : Reader (List Selector) :=
  (do char '*'; pure [.wildcard]) <|> (do pure [.name (← plainName)])

/-- A segment, given how to read the condition of a filter. -/
def segment (condition : Reader Filter) : Reader Segment :=
  (do word ".."; .descendant <$> (selectors condition <|> shorthand)) <|>
  (do blanks; .child <$> (selectors condition <|> (do char '.'; shorthand)))

/-! ## Conditions -/

/-- The step of a segment that chooses a single name or position. -/
def singularStep? : Segment → Option SingularStep
  | .child [.name key] => some (.name key)
  | .child [.index position] => some (.index position)
  | _ => none

/-- A query inside a condition: whether it starts at the root, and its segments. -/
def innerQuery (condition : Reader Filter) : Reader (Bool × List Segment) := do
  let fromRoot ← (do char '$'; pure true) <|> (do char '@'; pure false)
  pure (fromRoot, ← many (segment condition))

/-- A query that leads to at most one value. -/
def singular (condition : Reader Filter) : Reader SingularQuery := do
  let (fromRoot, segments) ← innerQuery condition
  let steps ← (segments.mapM singularStep?).getM
  pure ⟨fromRoot, steps⟩

/-- The nodes that a function is given. -/
def found (condition : Reader Filter) : Reader Found :=
  (.one <$> singular condition) <|>
  (do let (fromRoot, segments) ← innerQuery condition; pure (.all fromRoot segments))

def call {α : Type} (name : String) (arguments : Reader α) : Reader α := do
  word name
  enclosed '(' ')' arguments

def literal : Reader Json :=
  (Json.string <$> string) <|>
  (do word "true"; pure (.bool true)) <|>
  (do word "false"; pure (.bool false)) <|>
  (do word "null"; pure .null) <|>
  (Json.number <$> Json.Reader.number)

/-- An operand in which functions nest less than `depth` deep. -/
def operand (condition : Reader Filter) : (depth : Nat) → Reader Operand
  | 0 => failure
  | depth + 1 =>
    (.literal <$> literal) <|>
    (.singular <$> singular condition) <|>
    call "length" (.length <$> operand condition depth) <|>
    call "count" (.count <$> found condition) <|>
    call "value" (.valueOf <$> found condition)

def comparison : Reader Comparison :=
  (do word "=="; pure .equal) <|>
  (do word "!="; pure .notEqual) <|>
  (do word "<="; pure .lessOrEqual) <|>
  (do word ">="; pure .greaterOrEqual) <|>
  (do word "<"; pure .less) <|>
  (do word ">"; pure .greater)

/-- A condition or, behind an exclamation mark, its opposite. -/
def possiblyNegated (condition : Reader Filter) : Reader Filter := do
  if ← char? '!' then
    blanks
    .not <$> condition
  else
    condition

/-- A condition without `&&` and `||` outside parentheses. -/
def basicCondition (condition : Reader Filter) (operand : Reader Operand) : Reader Filter :=
  let comparing : Reader Filter := do
    let left ← operand
    blanks
    let sign ← comparison
    blanks
    let right ← operand
    pure (.compares sign left right)
  let bothTexts : Reader (Operand × Operand) := do
    let text ← operand
    blanks
    char ','
    blanks
    pure (text, ← operand)
  let test : Reader Filter :=
    (do let (fromRoot, segments) ← innerQuery condition; pure (.finds fromRoot segments)) <|>
    call "match" (do let (text, pattern) ← bothTexts; pure (.fits text pattern)) <|>
    call "search" (do let (text, pattern) ← bothTexts; pure (.occurs text pattern))
  possiblyNegated (enclosed '(' ')' condition) <|> comparing <|> possiblyNegated test

/-- Conditions joined by a sign that binds them from the left. -/
def joined (sign : String) (join : Filter → Filter → Filter) (part : Reader Filter) :
    Reader Filter := do
  let first ← part
  let rest ← many (do blanks; word sign; blanks; part)
  pure (rest.foldl join first)

/-- A condition in which conditions nest less than `depth` deep; `&&` binds more tightly than
`||`. -/
def condition : (depth : Nat) → Reader Filter
  | 0 => failure
  | depth + 1 => fun text =>
    let inner := condition depth
    joined "||" .or (joined "&&" .and (basicCondition inner (operand inner (text.length + 1)))) text

end Reader

def parse? (text : String) : Option Query :=
  run? (do
    char '$'
    let segments ← many (Reader.segment (Reader.condition text.length))
    pure ⟨segments⟩) text

end Reshape.Query
