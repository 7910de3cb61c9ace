import Reshape.Decimal
import Reshape.Json.Equality
import Reshape.Path.Query
import Reshape.Path.Query.Pattern

/-!
# What a query selects

The nodes that a query finds, in order and with repetitions:

* a child segment takes the selections of its selectors one after another;
* a descendant segment does so for every node of the subtree, a node before what it holds;
* comparison knows no order between values of different kinds; numbers compare as doubles, and two
  absent operands are equal but not ordered;
* `Query.select` is the list of values, `Query.nodes` the same with locations.
-/

namespace Reshape.Query

/-! ## Slices -/

/-- A position counted from the end when negative. -/
def fromEnd (length : Nat) (position : Int) : Int :=
  if position < 0 then length + position else position

/-- A position moved into the bounds. -/
def clamp (low high position : Int) : Int := max low (min high position)

/-- The positions that a slice of `length` items takes, in order. A stride of zero takes none. -/
def slicePositions (length : Nat) (start stop : Option Int) (stride : Int) : List Nat :=
  if 0 < stride then
    let first := clamp 0 length (fromEnd length (start.getD 0))
    let last := clamp 0 length (fromEnd length (stop.getD length))
    let count := ((last - first + stride - 1) / stride).toNat
    (List.range count).map fun (i : Nat) => (first + i * stride).toNat
  else if stride < 0 then
    let first := clamp (-1) (length - 1) (fromEnd length (start.getD (length - 1)))
    let last := clamp (-1) (length - 1) (fromEnd length (stop.getD (-length - 1)))
    let count := ((first - last - stride - 1) / -stride).toNat
    (List.range count).map fun (i : Nat) => (first + i * stride).toNat
  else
    []

/-! ## Comparison -/

def equalNumbers (a b : Number) : Bool :=
  match a.toDouble?, b.toDouble? with
  | some x, some y => x.signedUnits == y.signedUnits
  | _, _ => false

/-- Whether two operands are equal; two absent ones are. -/
def equalOperands : Option Json → Option Json → Bool
  | none, none => true
  | some (.number a), some (.number b) => equalNumbers a b
  | some a, some b => decide (Json.Same a b)
  | _, _ => false

/-- Whether one operand is less than another: numbers as doubles, strings by code points. -/
def lessOperands : Option Json → Option Json → Bool
  | some (.number a), some (.number b) =>
    match a.toDouble?, b.toDouble? with
    | some x, some y => x.signedUnits < y.signedUnits
    | _, _ => false
  | some (.string a), some (.string b) => a < b
  | _, _ => false

/-- Whether the operands are there and either less or equal. -/
def lessOrEqualOperands (a b : Option Json) : Bool :=
  a.isSome && b.isSome && (lessOperands a b || equalOperands a b)

def Comparison.holds : Comparison → Option Json → Option Json → Bool
  | equal, a, b => equalOperands a b
  | notEqual, a, b => !equalOperands a b
  | less, a, b => lessOperands a b
  | lessOrEqual, a, b => lessOrEqualOperands a b
  | greater, a, b => lessOperands b a
  | greaterOrEqual, a, b => lessOrEqualOperands b a

/-! ## Singular queries and functions -/

/-- The value one step further in. A negative index leads nowhere. -/
def SingularStep.follow : SingularStep → Json → Option Json
  | name key, value => value.member? key
  | index position, value => if position < 0 then none else value.item? position.toNat

/-- The value that a singular query leads to. -/
def SingularQuery.value? (query : SingularQuery) (document current : Json) : Option Json :=
  query.steps.foldlM (fun value step => step.follow value)
    (if query.fromRoot then document else current)

/-- The length of a string, array or object; other values have none. -/
def lengthOf? : Option Json → Option Json
  | some (.string s) => some (.ofNat s.length)
  | some (.array items) => some (.ofNat items.length)
  | some (.object members) => some (.ofNat members.length)
  | _ => none

/-- Whether both operands are texts that are related. -/
def bothTexts (related : String → String → Bool) : Option Json → Option Json → Bool
  | some (.string a), some (.string b) => related a b
  | _, _ => false

/-! ## Selection -/

def childNamed (node : Node) (key : String) : List Node :=
  ((node.value.member? key).map (Node.below node.location (.key key))).toList

/-- The items of an array as nodes; other values have none. -/
def itemNodes (node : Node) : List Node :=
  match node.value with
  | .array _ => node.children
  | _ => []

/-- The item at a position, counted from the end when negative. -/
def childAt (node : Node) (position : Int) : List Node :=
  let items := itemNodes node
  let place := fromEnd items.length position
  if place < 0 then [] else items[place.toNat]?.toList

mutual

/-- The children of a node that a selector chooses. -/
def Selector.select (document : Json) : Selector → Node → List Node
  | .name key, node => childNamed node key
  | .wildcard, node => node.children
  | .index position, node => childAt node position
  | .slice start stop stride, node =>
    let items := itemNodes node
    (slicePositions items.length start stop stride).filterMap fun position => items[position]?
  | .filter condition, node =>
    node.children.filter fun child => condition.holds document child.value

/-- The children of a node that selectors choose, one selector after another. -/
def selectChildren (document : Json) : List Selector → Node → List Node
  | [], _ => []
  | selector :: rest, node => selector.select document node ++ selectChildren document rest node

/-- The nodes that a segment leads to from a node. -/
def Segment.select (document : Json) : Segment → Node → List Node
  | .child selectors, node => selectChildren document selectors node
  | .descendant selectors, node =>
    node.subtree.flatMap fun inner => selectChildren document selectors inner

/-- The nodes that segments lead to from nodes. -/
def follow (document : Json) : List Segment → List Node → List Node
  | [], nodes => nodes
  | segment :: rest, nodes =>
    follow document rest (nodes.flatMap fun node => segment.select document node)

def Filter.holds (document : Json) : Filter → Json → Bool
  | .or left right, current => left.holds document current || right.holds document current
  | .and left right, current => left.holds document current && right.holds document current
  | .not condition, current => !condition.holds document current
  | .finds fromRoot segments, current =>
    !(follow document segments [.root (if fromRoot then document else current)]).isEmpty
  | .compares comparison left right, current =>
    comparison.holds (left.value? document current) (right.value? document current)
  | .fits text pattern, current =>
    bothTexts (fun t p => Pattern.fits p t) (text.value? document current)
      (pattern.value? document current)
  | .occurs text pattern, current =>
    bothTexts (fun t p => Pattern.occurs p t) (text.value? document current)
      (pattern.value? document current)

def Operand.value? (document : Json) : Operand → Json → Option Json
  | .literal value, _ => some value
  | .singular query, current => query.value? document current
  | .length operand, current => lengthOf? (operand.value? document current)
  | .count nodes, current => some (.ofNat (nodes.values document current).length)
  | .valueOf nodes, current =>
    match nodes.values document current with
    | [value] => some value
    | _ => none

def Found.values (document : Json) : Found → Json → List Json
  | .one query, current => (query.value? document current).toList
  | .all fromRoot segments, current =>
    (follow document segments [.root (if fromRoot then document else current)]).map Node.value

end

/-- The nodes that a query finds in a document. -/
def nodes (query : Query) (document : Json) : List Node :=
  follow document query.segments [.root document]

/-- The values that a query finds in a document. -/
def select (query : Query) (document : Json) : List Json := (query.nodes document).map Node.value

end Reshape.Query
