import Reshape.Text.Reader

/-!
# Digits

Numerals in a base and the escapes that spell a character by its code:

* `digit?`: the value of a digit, letters of either case standing for ten and up;
* `valueOf`: a run of digits read from its most significant end;
* `codeEscape`: four hexadecimal digits, or two such groups that make a surrogate pair.
-/

namespace Reshape.Text

/-- The value of a digit below `base`; letters of either case stand for ten and up. -/
def digit? (base : Nat) (c : Char) : Option Nat :=
  let value :=
    if '0' ≤ c ∧ c ≤ '9' then c.toNat - '0'.toNat
    else if 'a' ≤ c ∧ c ≤ 'z' then c.toNat - 'a'.toNat + 10
    else if 'A' ≤ c ∧ c ≤ 'Z' then c.toNat - 'A'.toNat + 10
    else base
  if value < base then some value else none

def isDigitIn (base : Nat) (c : Char) : Bool := (digit? base c).isSome

/-- Whether `c` is one of the ten decimal digits. -/
def isDecimalDigit (c : Char) : Bool := isDigitIn 10 c

/-- The natural that a run of digits spells. -/
def valueOf (base : Nat) (digits : List Char) : Nat :=
  digits.foldl (fun value c => value * base + (digit? base c).getD 0) 0

/-- The character with the given code, unless the code is a surrogate or too great. -/
def charOfCode? (code : Nat) : Option Char :=
  if code < 0xD800 ∨ 0xDFFF < code ∧ code < 0x110000 then some (Char.ofNat code) else none

/-- The integer `n`, with a minus if `negative`. -/
def withSign (negative : Bool) (n : Nat) : Int := if negative then -(n : Int) else n

namespace Reader

/-- Takes a sign, if there is one, and says whether it is a minus. -/
def sign : Reader Bool := (do char '-'; pure true) <|> (do char '+'; pure false) <|> pure false

/-- The code spelled by exactly `count` hexadecimal digits. -/
def hexCode (count : Nat) : Reader Nat := do
  let digits ← take count
  if digits.all (isDigitIn 16) then pure (valueOf 16 digits) else failure

/-- The character spelled by four hexadecimal digits, or by a high surrogate, `\u` and a low
surrogate. A surrogate on its own is refused. -/
def codeEscape : Reader Char := do
  let code ← hexCode 4
  if 0xD800 ≤ code ∧ code < 0xDC00 then
    word "\\u"
    let low ← hexCode 4
    if 0xDC00 ≤ low ∧ low < 0xE000 then
      pure (Char.ofNat (0x10000 + (code - 0xD800) * 0x400 + (low - 0xDC00)))
    else
      failure
  else
    (charOfCode? code).getM

end Reader

end Reshape.Text
