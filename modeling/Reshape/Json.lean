import Reshape.Keyed
import Reshape.Double

/-!
# JSON values

The values that documents, schemas and results are made of:

* a number is either an integer or a double, and the two never coincide: `1` and `1.0` are
  different values;
* an object is a keyed list, so its members keep the order in which they were written;
* `Json.Kind` names the six kinds of value.

Reading gives each object distinct keys; the type itself does not ask for it.
-/

namespace Reshape

inductive Number where
  | integer (value : Int)
  | double (value : Double)
deriving DecidableEq

namespace Number

/-- The integers that text can spell as integers. What lies outside is read as a double. -/
def IsInteger (n : Int) : Prop := -0x8000000000000000 ≤ n ∧ n < 0x10000000000000000

instance (n : Int) : Decidable (IsInteger n) := by unfold IsInteger; infer_instance

/-- The integers that a signed word of 64 bits holds. -/
def IsSigned (n : Int) : Prop := -0x8000000000000000 ≤ n ∧ n < 0x8000000000000000

instance (n : Int) : Decidable (IsSigned n) := by unfold IsSigned; infer_instance

/-- The nearest double; `none` past the largest one. -/
def toDouble? : Number → Option Double
  | .integer n => Double.ofInt? n
  | .double d => some d

end Number

inductive Json where
  | null
  | bool (value : Bool)
  | number (value : Number)
  | string (value : String)
  | array (items : List Json)
  | object (members : List (String × Json))

namespace Json

instance : Inhabited Json := ⟨null⟩

inductive Kind where
  | null
  | bool
  | number
  | string
  | array
  | object
deriving DecidableEq

namespace Kind

/-- Every kind, in the order in which listings show them. -/
def all : List Kind := [null, bool, number, string, array, object]

/-- The name under which listings show a kind. -/
def name : Kind → String
  | null => "null"
  | bool => "bool"
  | number => "number"
  | string => "string"
  | array => "array"
  | object => "object"

end Kind

def kind : Json → Kind
  | null => .null
  | bool _ => .bool
  | number _ => .number
  | string _ => .string
  | array _ => .array
  | object _ => .object

def isNull : Json → Bool
  | null => true
  | _ => false

def ofInt (n : Int) : Json := number (.integer n)

def ofNat (n : Nat) : Json := ofInt n

/-- The double as a value; what is past the largest double has no JSON form and becomes `null`. -/
def ofDouble? : Option Double → Json
  | some d => number (.double d)
  | none => null

/-- The member of an object under `key`. Other values have no members. -/
def member? (key : String) : Json → Option Json
  | object members => Keyed.get? members key
  | _ => none

/-- The item of an array at `index`. Other values have no items. -/
def item? (index : Nat) : Json → Option Json
  | array items => items[index]?
  | _ => none

/-! ## Structural equality -/

mutual

/-- Whether two values are the same tree, members in the same order included. -/
def identical : Json → Json → Bool
  | null, null => true
  | bool a, bool b => a == b
  | number a, number b => a == b
  | string a, string b => a == b
  | array as, array bs => identicalItems as bs
  | object as, object bs => identicalMembers as bs
  | _, _ => false

/-- Whether items are `identical`. -/
def identicalItems : List Json → List Json → Bool
  | [], [] => true
  | a :: as, b :: bs => a.identical b && identicalItems as bs
  | _, _ => false

def identicalMembers : List (String × Json) → List (String × Json) → Bool
  | [], [] => true
  | (k, a) :: as, (l, b) :: bs => k == l && a.identical b && identicalMembers as bs
  | _, _ => false

end

mutual

theorem identical_iff : (a b : Json) → (a.identical b = true ↔ a = b)
  | null, b => by cases b <;> simp [identical]
  | bool a, b => by cases b <;> simp [identical]
  | number a, b => by cases b <;> simp [identical]
  | string a, b => by cases b <;> simp [identical]
  | array as, b => by cases b <;> simp [identical, identicalItems_iff as]
  | object as, b => by cases b <;> simp [identical, identicalMembers_iff as]

theorem identicalItems_iff : (as bs : List Json) → (identicalItems as bs = true ↔ as = bs)
  | [], bs => by cases bs <;> simp [identicalItems]
  | a :: as, bs => by cases bs <;> simp [identicalItems, identical_iff a, identicalItems_iff as]

theorem identicalMembers_iff :
    (as bs : List (String × Json)) → (identicalMembers as bs = true ↔ as = bs)
  | [], bs => by cases bs <;> simp [identicalMembers]
  | (k, a) :: as, bs => by
    cases bs <;> simp [identicalMembers, identical_iff a, identicalMembers_iff as, Prod.ext_iff]

end

instance : DecidableEq Json := fun a b => decidable_of_iff _ (identical_iff a b)

end Json

end Reshape
