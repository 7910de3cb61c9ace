import Reshape.Decimal
import Reshape.Json
import Reshape.Text.Blank
import Reshape.Text.Digits

/-!
# Numbers out of texts and doubles

Conversions that never fail:

* `leadingInt` and `leadingDecimal` read the numeral that a text starts with after blanks, and give
  zero when there is none; what follows the numeral does not matter;
* `Number.toWhole` and its kin go to a whole number, as an integer where a signed 64-bit one can
  hold it and as a double beyond.
-/

namespace Reshape

open Text (isDecimalDigit valueOf withSign trimStartChars)

/-- Splits a sign off the front; no sign counts as plus. -/
def splitSign : List Char → Bool × List Char
  | '-' :: rest => (true, rest)
  | '+' :: rest => (false, rest)
  | s => (false, s)

/-- Where the integer that characters start with ends: behind its digits, and behind a sign that
stands in front of all the rest. Places are counted in bytes, and `place` is where the characters
are. -/
def integerEnd (place : Nat) : List Char → Nat
  | [] => place
  | c :: rest =>
    if isDecimalDigit c || place == 0 && (c == '-' || c == '+') then
      integerEnd (place + c.utf8Size) rest
    else
      place

/-- The characters in the first `size` bytes, unless the last of these bytes is inside a
character. -/
def cut? (size : Nat) : List Char → Option (List Char)
  | [] => if size = 0 then some [] else none
  | c :: rest =>
    if size = 0 then some []
    else if c.utf8Size ≤ size then (cut? (size - c.utf8Size) rest).map (c :: ·)
    else none

/-- The integer `n`, if 64 bits with a sign can hold it. -/
def signed? (n : Int) : Option Int := if Number.IsSigned n then some n else none

/-- What has been read of a numeral, with the digits that follow. Each of them is added on the side
of the sign, and neither making room for it nor adding it may need more than 64 bits. -/
def readOn? (negative : Bool) (value : Int) : List Char → Option Int
  | [] => some value
  | c :: rest => do
    let room ← signed? (value * 10)
    let digit ← Text.digit? 10 c
    let next ← signed? (room + withSign negative digit)
    readOn? negative next rest

/-- The integer that a sign and digits spell, if 64 bits with a sign can hold it. -/
def signedOfChars? (s : List Char) : Option Int :=
  let (negative, digits) := splitSign s
  if digits.isEmpty then none else readOn? negative 0 digits

/-- The integer that a text starts with, if a signed 64-bit integer can hold it, and zero
otherwise. -/
def leadingInt (s : String) : Int :=
  let chars := trimStartChars s.toList
  ((cut? (integerEnd 0 chars) chars).bind signedOfChars?).getD 0

/-- The decimal that a text starts with. A point without digits after it does not count, and
without any digit the decimal is zero, whatever the sign. -/
def leadingDecimal (s : String) : Decimal :=
  let (negative, rest) := splitSign (trimStartChars s.toList)
  let whole := rest.takeWhile isDecimalDigit
  let places :=
    match rest.dropWhile isDecimalDigit with
    | '.' :: tail => tail.takeWhile isDecimalDigit
    | _ => []
  if whole.isEmpty ∧ places.isEmpty then ⟨false, 0, 0⟩
  else ⟨negative, valueOf 10 (whole ++ places), -places.length⟩

namespace Number

/-- The whole number `n` near to `d` as an integer if it is at most `2 ^ 63` in size, the greatest
signed integer standing in for `2 ^ 63` itself; a greater double is whole already. -/
def wholeOr (d : Double) (n : Int) : Number :=
  if Number.IsSigned n then .integer n
  else if n = 0x8000000000000000 then .integer 0x7fffffffffffffff
  else .double d

/-- A double goes to the whole number `whole` gives; an integer stays. -/
def toWholeBy (whole : Double → Int) : Number → Number
  | .integer n => .integer n
  | .double d => wholeOr d (whole d)

def toInteger : Number → Number := toWholeBy Double.truncate

/-- The magnitude of a number. That of the least signed integer is a double. -/
def magnitude : Number → Json
  | .integer n =>
    if n = -0x8000000000000000 then .ofDouble? (Double.ofInt? n.natAbs) else .ofInt n.natAbs
  | .double d => .number (.double d.abs)

end Number

end Reshape
