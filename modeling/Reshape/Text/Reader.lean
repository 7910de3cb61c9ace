/-!
# Readers

A reader takes characters from the front of a text and returns a value with the rest, or fails:

* readers run in sequence by `do` and as alternatives by `<|>`, which starts over from the same
  text;
* `many` repeats a reader as long as it succeeds, at most once per character;
* `Reader.run?` asks for the whole text to be taken.
-/

namespace Reshape.Text

/-- A reader of `α` values. -/
abbrev Reader (α : Type) := StateT (List Char) Option α

namespace Reader

variable {α : Type}

/-- The value read from the whole text. -/
def run? (reader : Reader α) (text : String) : Option α :=
  match reader text.toList with
  | some (value, []) => some value
  | _ => none

def next : Reader Char
  | [] => none
  | c :: rest => some (c, rest)

/-- The next character, which must satisfy `p`. -/
def satisfying (p : Char → Bool) : Reader Char := do
  let c ← next
  if p c then pure c else failure

def char (c : Char) : Reader Unit := do
  let _ ← satisfying (· == c)

def chars : List Char → Reader Unit
  | [] => pure ()
  | c :: rest => do char c; chars rest

def word (text : String) : Reader Unit := chars text.toList

/-- Takes `c` if it is next, and says whether it was. -/
def char? (c : Char) : Reader Bool := (do char c; pure true) <|> pure false

/-- The longest run of characters that satisfy `p`, possibly empty. -/
def takeWhile (p : Char → Bool) : Reader (List Char) := fun text =>
  some (text.takeWhile p, text.dropWhile p)

/-- The longest run of characters that satisfy `p`, at least one. -/
def takeWhile1 (p : Char → Bool) : Reader (List Char) := do
  let c ← satisfying p
  let rest ← takeWhile p
  pure (c :: rest)

def skipWhile (p : Char → Bool) : Reader Unit := fun text => some ((), text.dropWhile p)

def take : Nat → Reader (List Char)
  | 0 => pure []
  | n + 1 => do
    let c ← next
    let rest ← take n
    pure (c :: rest)

/-- Values as long as the reader succeeds, at most one for each element of `limit`. -/
def upTo : (limit : List Char) → Reader α → Reader (List α)
  | [], _ => pure []
  | _ :: limit, item => (do
      let value ← item
      let rest ← upTo limit item
      pure (value :: rest)) <|> pure []

/-- Values as long as the reader succeeds, at most one per remaining character. -/
def many (item : Reader α) : Reader (List α) := fun text => upTo text item text

/-- The value read, or `none` with nothing taken. -/
def optional? (item : Reader α) : Reader (Option α) := (some <$> item) <|> pure none

/-- One or more values with separators between them. -/
def separated (item : Reader α) (separator : Reader Unit) : Reader (List α) := do
  let first ← item
  let rest ← many (do separator; item)
  pure (first :: rest)

/-- Succeeds at the end of the text only. -/
def finish : Reader Unit
  | [] => some ((), [])
  | _ => none

end Reader

end Reshape.Text
