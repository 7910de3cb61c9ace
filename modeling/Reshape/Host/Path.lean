/-!
# Paths

Where a path starts and how it ends:

* `extension?` is the ending of the name of a file;
* `stem?` is what a further ending can be added to.
-/

namespace Reshape

/-- Whether a path starts at the root. -/
def isRooted (path : String) : Bool := path.toList.head? == some '/'

/-- What follows the last point in the name of a file, unless nothing stands before that point. -/
def extension? (path : String) : Option String :=
  let name := (path.toList.reverse.dropWhile (· == '/')).takeWhile (· != '/')
  let ending := name.takeWhile (· != '.')
  if name.length ≤ ending.length + 1 ∨ name = ['.', '.'] then none
  else some (String.ofList ending.reverse)

/-- The characters of a path from its end on, less the slashes and the parts `.` that stand there. -/
def fromName : List Char → List Char
  | '/' :: rest => fromName rest
  | '.' :: '/' :: rest => fromName rest
  | other => other

/-- The path up to the name at its end, if a name is there. -/
def stem? (path : String) : Option String :=
  let kept := fromName path.toList.reverse
  let name := kept.takeWhile (· != '/')
  if name = [] ∨ name = ['.'] ∨ name = ['.', '.'] then none else some (String.ofList kept.reverse)

end Reshape
