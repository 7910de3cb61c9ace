import Reshape.Text.Blank
import Reshape.Text.Digits

/-!
# Text patterns

Regular expressions for the text functions of queries:

* `Pattern.parse?` reads literals, `.`, classes, groups, alternatives, repetitions and the anchors
  `^` and `$`; a text outside this grammar is no pattern;
* `Pattern.steps` gives what remains of a pattern after one character, as a list of alternatives,
  and `Pattern.acceptsEmpty` says whether nothing more is needed;
* `Pattern.occursIn` follows all alternatives through a text at once.

A dot stands for any character but a line feed and a carriage return. The classes `\d` and `\w`
know ASCII characters only.
-/

namespace Reshape

/-- A regular expression. -/
inductive Pattern where
  /-- The empty text. -/
  | empty
  /-- One character in one of the ranges, or in none of them when negated. -/
  | one (negated : Bool) (ranges : List (Nat × Nat))
  /-- The start of the text. -/
  | start
  /-- The end of the text. -/
  | finish
  | sequence (first second : Pattern)
  | either (left right : Pattern)
  /-- Any number of times. -/
  | star (inner : Pattern)
deriving DecidableEq

namespace Pattern

/-- Whether the pattern accepts the empty text at a place that is or is not the start and the end
of the whole text. -/
def acceptsEmpty (atStart atEnd : Bool) : Pattern → Bool
  | empty => true
  | one _ _ => false
  | start => atStart
  | finish => atEnd
  | sequence first second => first.acceptsEmpty atStart atEnd && second.acceptsEmpty atStart atEnd
  | either left right => left.acceptsEmpty atStart atEnd || right.acceptsEmpty atStart atEnd
  | star _ => true

/-- Puts `second` after what remains of a first part. -/
def andThen (second : Pattern) : Pattern → Pattern
  | empty => second
  | first => sequence first second

/-- What may remain of the pattern after the character `c`. -/
def steps (atStart : Bool) (c : Char) : Pattern → List Pattern
  | empty | start | finish => []
  | one negated ranges =>
    if (ranges.any fun (low, high) => low ≤ c.toNat && c.toNat ≤ high) != negated then [empty]
    else []
  | sequence first second =>
    (first.steps atStart c).map (andThen second) ++
      if first.acceptsEmpty atStart false then second.steps atStart c else []
  | either left right => left.steps atStart c ++ right.steps atStart c
  | star inner => (inner.steps atStart c).map (andThen (star inner))

/-- Whether the pattern, or one of the remainders of earlier starts, fits from here on. -/
def occursFrom (pattern : Pattern) : (atStart : Bool) → List Pattern → List Char → Bool
  | atStart, live, [] =>
    pattern.acceptsEmpty atStart true || live.any (acceptsEmpty false true)
  | atStart, live, c :: rest =>
    pattern.acceptsEmpty atStart false || live.any (acceptsEmpty false false) ||
      occursFrom pattern false
        (pattern.steps atStart c ++ live.flatMap (steps false c)).eraseDups rest

/-- Whether the pattern fits some part of the text. -/
def occursIn (pattern : Pattern) (text : String) : Bool :=
  pattern.occursFrom true [] text.toList

/-! ## Reading -/

open Text (Reader digit? isDecimalDigit valueOf blankRanges)
open Text.Reader

def just (c : Char) : Pattern := one false [(c.toNat, c.toNat)]

/-- Up to `n` times. -/
def upToTimes (pattern : Pattern) : Nat → Pattern
  | 0 => empty
  | n + 1 => either empty (sequence pattern (pattern.upToTimes n))

/-- Exactly `n` times and then `tail`. -/
def timesThen (pattern tail : Pattern) : Nat → Pattern
  | 0 => tail
  | n + 1 => sequence pattern (timesThen pattern tail n)

/-- The ranges of a class that a letter after a backslash names. -/
def namedRanges : Char → Option (List (Nat × Nat))
  | 'd' => some [(0x30, 0x39)]
  | 'w' => some [(0x30, 0x39), (0x41, 0x5a), (0x5f, 0x5f), (0x61, 0x7a)]
  | 's' => some blankRanges
  | _ => none

/-- The character that a letter after a backslash names, or punctuation as it is. -/
def escapedChar? : Char → Option Char
  | 'n' => some '\n'
  | 't' => some '\t'
  | 'r' => some '\r'
  | 'f' => some '\x0c'
  | 'v' => some '\x0b'
  | 'a' => some '\x07'
  | c => if c.isAlphanum || 0x7f ≤ c.toNat || c.toNat ≤ 0x20 then none else some c

namespace Reader

/-- What follows a backslash outside a class. -/
def escape : Reader Pattern := do
  let c ← next
  match namedRanges c, namedRanges c.toLower with
  | some ranges, _ => pure (.one false ranges)
  | none, some ranges => pure (.one true ranges)
  | none, none => just <$> (escapedChar? c).getM

def classChar : Reader Char := do
  let c ← satisfying fun c => c != ']' && c != '['
  if c == '\\' then (escapedChar? (← next)).getM else pure c

/-- A range, a single character or a named class inside a class. -/
def classItem : Reader (List (Nat × Nat)) :=
  (do char '\\'; (namedRanges (← next)).getM) <|>
  (do
    let low ← classChar
    char '-'
    let high ← classChar
    if low ≤ high then pure [(low.toNat, high.toNat)] else failure) <|>
  (do let c ← classChar; pure [(c.toNat, c.toNat)])

/-- A class; a bracket that closes stands for itself in first place. -/
def characterClass : Reader Pattern := do
  char '['
  let negated ← char? '^'
  let bracket ← char? ']'
  let items ← many classItem
  char ']'
  let ranges := (if bracket then [(0x5d, 0x5d)] else []) ++ items.flatten
  if ranges.isEmpty then failure else pure (.one negated ranges)

/-- A count between braces. -/
def counts (pattern : Pattern) : Reader Pattern := do
  char '{'
  let least := valueOf 10 (← takeWhile1 isDecimalDigit)
  if ← char? '}' then
    pure (timesThen pattern .empty least)
  else
    char ','
    if ← char? '}' then
      pure (timesThen pattern (.star pattern) least)
    else
      let most := valueOf 10 (← takeWhile1 isDecimalDigit)
      char '}'
      if least ≤ most then pure (timesThen pattern (pattern.upToTimes (most - least)) least)
      else failure

/-- A repetition of the pattern before it, lazy or not. -/
def repetition (pattern : Pattern) : Reader Pattern := do
  let repeated ←
    (do char '*'; pure (Pattern.star pattern)) <|>
    (do char '+'; pure (sequence pattern (.star pattern))) <|>
    (do char '?'; pure (either .empty pattern)) <|>
    counts pattern
  let _ ← char? '?'
  pure repeated

/-- All repetitions after a pattern. -/
def repetitions : Nat → Pattern → Reader Pattern
  | 0, pattern => pure pattern
  | n + 1, pattern =>
    (do let repeated ← repetition pattern; repetitions n repeated) <|> pure pattern

/-- Whether a character stands for itself outside a class. -/
def isLiteral (c : Char) : Bool := !"\\.+*?()|[\x7b^$".toList.contains c

/-- Alternatives in which groups nest less than `depth` deep. -/
def alternatives : (depth : Nat) → Reader Pattern
  | 0 => failure
  | depth + 1 => do
    let group : Reader Pattern := do
      char '('
      let _ ← optional? (word "?:")
      let inner ← alternatives depth
      char ')'
      pure inner
    let atom : Reader Pattern :=
      group <|>
      characterClass <|>
      (do char '.'; pure (.one true [(0x0a, 0x0a), (0x0d, 0x0d)])) <|>
      (do char '^'; pure .start) <|>
      (do char '$'; pure .finish) <|>
      (do char '\\'; escape) <|>
      (just <$> satisfying isLiteral)
    let repeated : Reader Pattern := fun text =>
      (do let first ← atom; repetitions text.length first) text
    let branch : Reader Pattern := do
      let parts ← many repeated
      pure (parts.foldr sequence .empty)
    let branches ← separated branch (char '|')
    match branches with
    | [] => failure
    | first :: rest => pure (rest.foldl either first)

end Reader

def parse? (text : String) : Option Pattern :=
  run? (Reader.alternatives (text.length + 1)) text

/-- Whether the pattern that `pattern` spells occurs in `text`; what is no pattern never does. -/
def occurs (pattern text : String) : Bool := (parse? pattern).any (·.occursIn text)

/-- Whether the pattern that `pattern` spells fits the whole of `text`: it occurs when set as a
group between anchors. -/
def fits (pattern text : String) : Bool := occurs ("^(" ++ pattern ++ ")$") text

end Pattern

end Reshape
