import Reshape.Text.Ranges

/-!
# White space

The 25 characters of the Unicode property White_Space, and trimming by it:

* `isBlank` knows them all, the no-break and ideographic spaces among them, and not the zero-width
  ones;
* `trim` and `trimStart` take blanks off the ends, and `isBlankText` says that nothing is left.
-/

namespace Reshape.Text

/-- The characters with the property White_Space. -/
def blankRanges : List (Nat × Nat) :=
  [(0x9, 0xd), (0x20, 0x20), (0x85, 0x85), (0xa0, 0xa0), (0x1680, 0x1680), (0x2000, 0x200a),
   (0x2028, 0x2029), (0x202f, 0x202f), (0x205f, 0x205f), (0x3000, 0x3000)]

def isBlank (c : Char) : Bool := inRanges blankRanges c.toNat

/-- The characters from the first that is not blank on. -/
def trimStartChars (s : List Char) : List Char := s.dropWhile isBlank

/-- The characters up to the last that is not blank. -/
def trimEndChars (s : List Char) : List Char := (s.reverse.dropWhile isBlank).reverse

/-- The text without the blanks at its start. -/
def trimStart (s : String) : String := String.ofList (trimStartChars s.toList)

/-- The text without the blanks at its ends. -/
def trim (s : String) : String := String.ofList (trimEndChars (trimStartChars s.toList))

def isBlankText (s : String) : Bool := s.toList.all isBlank

end Reshape.Text
