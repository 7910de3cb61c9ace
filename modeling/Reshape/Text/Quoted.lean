import Reshape.Text.Printable

/-!
# Quoted texts

How names and file paths are shown in messages and listings: between double quotes, with quotes,
backslashes and the common controls behind a backslash and every other hidden character as its code
in braces.
-/

namespace Reshape.Text

/-- The digits of a code, in lower-case hexadecimal. -/
def codeChars (c : Char) : List Char := Nat.toDigits 16 c.toNat

/-- How a quoted text shows one character; `delimiters` are shown behind a backslash. -/
def shownChar (delimiters : List Char) (c : Char) : List Char :=
  match c with
  | '\x00' => ['\\', '0']
  | '\t' => ['\\', 't']
  | '\r' => ['\\', 'r']
  | '\n' => ['\\', 'n']
  | '\\' => ['\\', '\\']
  | c =>
    if c ∈ delimiters then ['\\', c]
    else if isPrintable c then [c]
    else ['\\', 'u', '\x7b'] ++ codeChars c ++ ['\x7d']

def quotedName (s : String) : String :=
  "\"" ++ String.ofList (s.toList.flatMap (shownChar ['"'])) ++ "\""

/-- A file path in quotes; an apostrophe is shown behind a backslash too. -/
def quotedPath (s : String) : String :=
  "\"" ++ String.ofList (s.toList.flatMap (shownChar ['"', '\''])) ++ "\""

end Reshape.Text
