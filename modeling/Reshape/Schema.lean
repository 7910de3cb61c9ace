import Reshape.Field

/-!
# Schemas

Rules under the keys of the result, in the order in which the result will have them. A rule is a
path alone or a field, and the field of a rule may nest a schema of its own.

`Schema.scopedKey` joins the keys on the way to a rule, which is how errors say where they are.
-/

namespace Reshape

/-- A rule for one key. -/
inductive Rule (σ : Type) where
  /-- What the path finds, as it is. -/
  | path (expression : String)
  | record (field : Field σ String (List (String × Rule σ)))

/-- Rules under the keys of the result. -/
abbrev Schema (σ : Type) := Keyed (Rule σ)

/-- The field that a rule describes. -/
def Rule.field {σ : Type} : Rule σ → Field σ String (Schema σ)
  | path expression => .ofPath expression
  | record field => field

namespace Schema

/-- A key with the keys that lead to it. -/
def scopedKey (scope key : String) : String := if scope.isEmpty then key else scope ++ "." ++ key

end Schema

end Reshape
