import Reshape.Text.CaseTable
import Reshape.Text.Ranges

/-!
# Upper and lower case

Full case conversion of texts:

* `upper` and `lower` convert character by character; a character may become several, as `ß`
  becomes `SS`;
* in lower case a capital sigma at the end of a word becomes the final sigma, where a word ends
  before a sigma if a cased letter stands before it and none after it, case-ignorable characters
  being passed over;
* `capitalized` converts the first character to upper case and the rest, as a text of its own, to
  lower case.
-/

namespace Reshape.Text

open CaseTable

/-- The code that a list of rows moves `code` to, `code` itself if no row has it. -/
def movedBy : List (Nat × Nat × Nat × Nat) → Nat → Nat
  | [], code => code
  | (first, last, stride, image) :: rest, code =>
    if first ≤ code ∧ code ≤ last ∧ (code - first) % stride = 0 then
      image + (code - first)
    else movedBy rest code

/-- The characters that one character becomes by a table of rows and expansions. -/
def converted (rows : List (Nat × Nat × Nat × Nat)) (expansions : List (Nat × List Nat))
    (c : Char) : List Char :=
  match expansions.find? (·.1 == c.toNat) with
  | some (_, codes) => codes.map Char.ofNat
  | none => [Char.ofNat (movedBy rows c.toNat)]

def upperChar (c : Char) : List Char :=
  if c.toNat < 0x80 then [c.toUpper] else converted upperRows upperExpansions c

/-- The lower case of one character on its own. -/
def lowerChar (c : Char) : List Char :=
  if c.toNat < 0x80 then [c.toLower] else converted lowerRows lowerExpansions c

def upper (s : String) : String := String.ofList (s.toList.flatMap upperChar)

/-- Whether the first character that is not case-ignorable has a case. -/
def startsCased (s : List Char) : Bool :=
  match s.dropWhile fun c => inRanges caseIgnorableRanges c.toNat with
  | [] => false
  | c :: _ => inRanges casedRanges c.toNat

/-- The lower case of the second argument; the first holds what stands before it, nearest
character first. -/
def lowerChars : List Char → List Char → List Char
  | _, [] => []
  | before, c :: rest =>
    let here :=
      if c = 'Σ' then (if startsCased before && !startsCased rest then ['ς'] else ['σ'])
      else lowerChar c
    here ++ lowerChars (c :: before) rest

def lower (s : String) : String := String.ofList (lowerChars [] s.toList)

/-- The text with its first character in upper and the rest in lower case. -/
def capitalized (s : String) : String :=
  match s.toList with
  | [] => ""
  | c :: rest => String.ofList (upperChar c ++ lowerChars [] rest)

end Reshape.Text
