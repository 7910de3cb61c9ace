import Reshape.Json

/-!
# Equality of JSON values

Two values are the same when they differ at most in the order of object members and in the sign of
zero doubles:

* `canonical` sorts every object's members by key and drops the sign of zero;
* `Same` compares canonical forms, so `Same.refl`, `Same.symm` and `Same.trans` need no more than
  that it is an equality;
* an integer is never the same as a double.
-/

namespace Reshape

/-- The number without the sign of a zero double. -/
def Number.canonical : Number → Number
  | .integer n => .integer n
  | .double d => if d.units = 0 then .double (Double.zero false) else .double d

namespace Json

/-- Places a member before the first member with a greater key. -/
def placeMember (key : String) (value : Json) : List (String × Json) → List (String × Json)
  | [] => [(key, value)]
  | (k, v) :: rest =>
    if key < k then (key, value) :: (k, v) :: rest else (k, v) :: placeMember key value rest

mutual

/-- The value with all members sorted by key and no negative zero. -/
def canonical : Json → Json
  | number n => number n.canonical
  | array items => array (canonicalItems items)
  | object members => object (canonicalMembers members)
  | other => other

/-- The items in `canonical` form. -/
def canonicalItems : List Json → List Json
  | [] => []
  | item :: rest => item.canonical :: canonicalItems rest

def canonicalMembers : List (String × Json) → List (String × Json)
  | [] => []
  | (key, value) :: rest => placeMember key value.canonical (canonicalMembers rest)

end

/-- Equality of values: member order and the sign of zero do not count. -/
def Same (a b : Json) : Prop := a.canonical = b.canonical

instance (a b : Json) : Decidable (Same a b) := by unfold Same; infer_instance

namespace Same

theorem refl (a : Json) : Same a a := rfl

theorem symm {a b : Json} (h : Same a b) : Same b a := Eq.symm h

theorem trans {a b c : Json} (h : Same a b) (k : Same b c) : Same a c := Eq.trans h k

end Same

end Json

end Reshape
