import Reshape.Json.Equality

/-!
# Operations on arrays

* `uniq` keeps the first of the items that are the same value;
* `leaves` reads an array's items from left to right, going into arrays at every depth and into
  nothing else.
-/

namespace Reshape.Json

/-- The items without those that are the same as an earlier kept one. -/
def uniq (items : List Json) : List Json :=
  items.foldl (fun kept item => if ∃ k ∈ kept, Same k item then kept else kept ++ [item]) []

mutual

/-- The values under a value that are no arrays. -/
def leaves : Json → List Json
  | array items => leavesOf items
  | other => [other]

def leavesOf : List Json → List Json
  | [] => []
  | item :: rest => item.leaves ++ leavesOf rest

end

end Reshape.Json
