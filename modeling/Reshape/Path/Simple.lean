import Reshape.Json.Location
import Reshape.Text.Digits

/-!
# Simple paths

Paths such as `$.a.b[0][*].c`: member access, fixed indices and every item.

* `SimplePath.segments?` reads the grammar, `SimplePath.render` writes it;
* `SimplePath.parse?` also asks that indices lie below `indexLimit`;
* `SimplePath.select` follows the segments from the document; explicit nulls are values like any
  other, and `[*]` goes into arrays only.
-/

namespace Reshape

namespace SimplePath

inductive Segment where
  /-- The member under a key: `.name`. -/
  | key (name : String)
  /-- The item at a position: `[3]`. -/
  | index (position : Nat)
  /-- Every item: `[*]`. -/
  | every
deriving DecidableEq

end SimplePath

/-- The segments of a simple path after its `$`. -/
abbrev SimplePath := List SimplePath.Segment

namespace SimplePath

open Text (Reader isDecimalDigit valueOf)
open Text.Reader

/-- The letters that a plain name may start with. -/
def isNameStart (c : Char) : Bool := c.isAlpha || c == '_'

/-- The characters that a plain name may go on with. -/
def isNameChar (c : Char) : Bool := c.isAlphanum || c == '_'

/-- The first index too great to address anything. -/
def indexLimit : Nat := 0x10000000000000000

def segment : Reader Segment :=
  (do
    char '.'
    let first ← satisfying isNameStart
    let rest ← takeWhile isNameChar
    pure (.key (String.ofList (first :: rest)))) <|>
  (do
    char '['
    let digits ← takeWhile1 isDecimalDigit
    char ']'
    pure (.index (valueOf 10 digits))) <|>
  (do word "[*]"; pure .every)

/-- The segments that the grammar of simple paths finds in a text. -/
def segments? (text : String) : Option SimplePath :=
  run? (do char '$'; let first ← segment; let rest ← many segment; pure (first :: rest)) text

/-- Whether a text is written as a simple path. -/
def isSimple (text : String) : Bool := (segments? text).isSome

/-- Whether a segment can address anything. -/
def Segment.addressable : Segment → Bool
  | .index position => position < indexLimit
  | _ => true

/-- The simple path that a text spells, if all its indices can address something. -/
def parse? (text : String) : Option SimplePath :=
  (segments? text).filter fun segments => segments.all Segment.addressable

def Segment.render : Segment → String
  | .key name => "." ++ name
  | .index position => "[" ++ String.ofList (Nat.toDigits 10 position) ++ "]"
  | .every => "[*]"

def render (path : SimplePath) : String := "$" ++ String.join (path.map Segment.render)

/-- The values that one segment leads to from a value. -/
def Segment.select : Segment → Json → List Json
  | .key name, value => (value.member? name).toList
  | .index position, value => (value.item? position).toList
  | .every, .array items => items
  | .every, _ => []

/-- The values that segments lead to from those found so far, given up as soon as there are none. -/
def follow : SimplePath → List Json → List Json
  | [], found => found
  | segment :: rest, found =>
    let next := found.flatMap segment.select
    if next.isEmpty then [] else follow rest next

/-- The values that the path leads to from a document, in document order. -/
def select (path : SimplePath) (document : Json) : List Json := follow path [document]

@[simp] theorem follow_none (path : SimplePath) : follow path [] = [] := by
  cases path <;> rfl

/-- Going on from nothing would find nothing either. -/
theorem follow_cons (segment : Segment) (rest : SimplePath) (found : List Json) :
    follow (segment :: rest) found = follow rest (found.flatMap segment.select) := by
  simp only [follow]
  split
  · rename_i none
    rw [List.isEmpty_iff.1 none, follow_none]
  · rfl

end SimplePath

end Reshape
