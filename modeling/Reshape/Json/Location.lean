import Reshape.Json

/-!
# Locations

Where a value stands inside a document: the keys and indices that lead to it from the root.

* `Json.at?` looks a location up; `at?_append` says that lookups compose;
* a `Node` is a value together with its location;
* `Node.children` visits members and items in document order, and `Node.subtree` everything below a
  node, the node itself first and each child's subtree in turn.
-/

namespace Reshape

inductive Step where
  | key (name : String)
  | index (position : Nat)
deriving DecidableEq

/-- The steps from the root of a document to a value. -/
abbrev Location := List Step

/-- A value and where it stands. -/
structure Node where
  location : Location
  value : Json

namespace Json

/-- The value one step further in. -/
def step? : Step → Json → Option Json
  | .key name, value => value.member? name
  | .index position, value => value.item? position

/-- The value at a location. -/
def at? : Json → Location → Option Json
  | value, [] => some value
  | value, step :: rest => (value.step? step).bind fun inner => inner.at? rest

theorem at?_append (value : Json) (first second : Location) :
    value.at? (first ++ second) = (value.at? first).bind fun inner => inner.at? second := by
  induction first generalizing value with
  | nil => rfl
  | cons step rest ih =>
    simp only [List.cons_append, at?]
    cases value.step? step with
    | none => rfl
    | some inner => exact ih inner

end Json

namespace Node

def root (document : Json) : Node := ⟨[], document⟩

/-- The node `value` one step below `location`. -/
def below (location : Location) (step : Step) (value : Json) : Node := ⟨location ++ [step], value⟩

def items (location : Location) : Nat → List Json → List Node
  | _, [] => []
  | position, item :: rest =>
    below location (.index position) item :: items location (position + 1) rest

/-- Items and members in document order. -/
def children (node : Node) : List Node :=
  match node.value with
  | .array values => items node.location 0 values
  | .object members => members.map fun (key, value) => below node.location (.key key) value
  | _ => []

mutual

/-- A value and everything below it, each value before what it holds. -/
def subtreeAt (location : Location) : Json → List Node
  | .array values => ⟨location, .array values⟩ :: subtreeItems location 0 values
  | .object members => ⟨location, .object members⟩ :: subtreeMembers location members
  | other => [⟨location, other⟩]

/-- The subtrees of the items from `position` on. -/
def subtreeItems (location : Location) : Nat → List Json → List Node
  | _, [] => []
  | position, item :: rest =>
    subtreeAt (location ++ [.index position]) item ++ subtreeItems location (position + 1) rest

def subtreeMembers (location : Location) : List (String × Json) → List Node
  | [] => []
  | (key, value) :: rest =>
    subtreeAt (location ++ [.key key]) value ++ subtreeMembers location rest

end

/-- The node and everything below it. -/
def subtree (node : Node) : List Node := subtreeAt node.location node.value

end Node

end Reshape
