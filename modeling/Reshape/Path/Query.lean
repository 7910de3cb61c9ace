import Reshape.Json.Location

/-!
# JSONPath queries

The terms of a query: a start, the document or the value under test, and segments that each choose
among children or among everything below.

* a `Selector` chooses children by name, position, slice or filter;
* a `Filter` tests a value by existence, comparison or pattern;
* an `Operand` has at most one value: a literal, a singular query or the result of a function.
-/

namespace Reshape

namespace Query

/-- How two operands are compared. -/
inductive Comparison where
  | equal
  | notEqual
  | less
  | lessOrEqual
  | greater
  | greaterOrEqual
deriving DecidableEq

inductive SingularStep where
  | name (key : String)
  | index (position : Int)
deriving DecidableEq

/-- A query that leads to at most one value. -/
structure SingularQuery where
  fromRoot : Bool
  steps : List SingularStep
deriving DecidableEq

mutual

/-- Which children of a value are chosen. -/
inductive Selector where
  /-- The member with this key. -/
  | name (key : String)
  /-- All items or members. -/
  | wildcard
  /-- The item at this position, counted from the end when negative. -/
  | index (position : Int)
  /-- Items from `start` to before `stop` at the distance `stride`. -/
  | slice (start stop : Option Int) (stride : Int)
  /-- The items or members that pass the test. -/
  | filter (condition : Filter)

inductive Segment where
  /-- Chooses among the children of a node. -/
  | child (selectors : List Selector)
  /-- Chooses among the children of a node and of everything below it. -/
  | descendant (selectors : List Selector)

/-- A test on the value at hand. -/
inductive Filter where
  | or (left right : Filter)
  | and (left right : Filter)
  | not (condition : Filter)
  /-- The query finds something. -/
  | finds (fromRoot : Bool) (segments : List Segment)
  /-- The operands compare as asked. -/
  | compares (comparison : Comparison) (left right : Operand)
  /-- The pattern fits the whole of the text. -/
  | fits (text pattern : Operand)
  /-- The pattern fits a part of the text. -/
  | occurs (text pattern : Operand)

/-- At most one value. -/
inductive Operand where
  | literal (value : Json)
  | singular (query : SingularQuery)
  /-- The length of a string, array or object. -/
  | length (operand : Operand)
  /-- How many nodes a query finds. -/
  | count (nodes : Found)
  /-- The value that a query finds, if it finds just one. -/
  | valueOf (nodes : Found)

/-- The nodes that a query finds, as an argument of a function. -/
inductive Found where
  | one (query : SingularQuery)
  | all (fromRoot : Bool) (segments : List Segment)

end

end Query

structure Query where
  segments : List Query.Segment

end Reshape
