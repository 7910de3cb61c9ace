import Reshape.Capability.Collection
import Reshape.Capability.Numeral
import Reshape.Json.Printer
import Reshape.Text.Casing

/-!
# Capabilities

The operations that values support by their kind, under names:

* `Capabilities.find?` looks up a name for the kind of one value;
* `Capabilities.builtin` holds the operations that are there from the start; `to_s` is the only one
  that every kind has.
-/

namespace Reshape

/-- What a modifier does to a value. -/
abbrev Operation := Json → Json

/-- Named operations for each kind of value. -/
structure Capabilities where
  operations : Json.Kind → Keyed Operation

namespace Capabilities

def empty : Capabilities := ⟨fun _ => []⟩

/-- Declares `operation` under `name` for values of `kind`. -/
def register (table : Capabilities) (kind : Json.Kind) (name : String) (operation : Operation) :
    Capabilities :=
  ⟨fun k =>
    if k = kind then (table.operations k).insert name operation else table.operations k⟩

def supports (table : Capabilities) (kind : Json.Kind) (name : String) : Bool :=
  (table.operations kind).contains name

def find? (table : Capabilities) (name : String) (value : Json) : Option Operation :=
  (table.operations value.kind).get? name

theorem operations_register (table : Capabilities) (kind : Json.Kind) (name : String)
    (operation : Operation) (k : Json.Kind) (other : String) :
    ((table.register kind name operation).operations k).get? other =
      if k = kind ∧ name = other then some operation else (table.operations k).get? other := by
  simp only [register]
  by_cases h : k = kind <;> simp [h, Keyed.get?_insert]

/-! ## Operations by kind -/

def onString (f : String → Json) : Operation
  | .string s => f s
  | other => other

def onNumber (f : Number → Json) : Operation
  | .number n => f n
  | other => other

def onArray (f : List Json → Json) : Operation
  | .array items => f items
  | other => other

def onObject (f : Keyed Json → Json) : Operation
  | .object members => f members
  | other => other

/-- A text as it is, nothing for `null`, and compact JSON for all else. -/
def toText : Operation
  | .string s => .string s
  | .null => .string ""
  | other => .string other.compact

def ofNull : Keyed Operation :=
  [("to_i", fun _ => .ofInt 0), ("to_a", fun _ => .array []), ("to_s", toText)]

def ofBool : Keyed Operation := [("to_s", toText)]

def ofNumber : Keyed Operation :=
  [("to_i", onNumber fun n => .number n.toInteger),
   ("to_f", onNumber fun n => .ofDouble? n.toDouble?),
   ("abs", onNumber Number.magnitude),
   ("round", onNumber fun n => .number (n.toWholeBy Double.round)),
   ("floor", onNumber fun n => .number (n.toWholeBy Double.floor)),
   ("ceil", onNumber fun n => .number (n.toWholeBy Double.ceiling)),
   ("to_s", toText)]

def ofString : Keyed Operation :=
  [("downcase", onString fun s => .string (Text.lower s)),
   ("upcase", onString fun s => .string (Text.upper s)),
   ("capitalize", onString fun s => .string (Text.capitalized s)),
   ("strip", onString fun s => .string (Text.trim s)),
   ("reverse", onString fun s => .string (String.ofList s.toList.reverse)),
   ("to_i", onString fun s => .ofInt (leadingInt s)),
   ("to_f", onString fun s => .ofDouble? (leadingDecimal s).toDouble?),
   ("length", onString fun s => .ofNat s.length),
   ("size", onString fun s => .ofNat s.length),
   ("empty?", onString fun s => .bool s.isEmpty),
   ("to_s", toText)]

def ofArray : Keyed Operation :=
  [("length", onArray fun items => .ofNat items.length),
   ("size", onArray fun items => .ofNat items.length),
   ("empty?", onArray fun items => .bool items.isEmpty),
   ("first", onArray fun items => items.head?.getD .null),
   ("last", onArray fun items => items.getLast?.getD .null),
   ("reverse", onArray fun items => .array items.reverse),
   ("compact", onArray fun items => .array (items.filter fun item => !item.isNull)),
   ("uniq", onArray fun items => .array (Json.uniq items)),
   ("flatten", onArray fun items => .array (Json.leavesOf items)),
   ("to_s", toText)]

def ofObject : Keyed Operation :=
  [("length", onObject fun members => .ofNat members.length),
   ("size", onObject fun members => .ofNat members.length),
   ("empty?", onObject fun members => .bool members.isEmpty),
   ("keys", onObject fun members => .array (members.keys.map .string)),
   ("values", onObject fun members => .array (members.map Prod.snd)),
   ("to_s", toText)]

/-- The operations that are there from the start. -/
def builtin : Capabilities where
  operations
    | .null => ofNull
    | .bool => ofBool
    | .number => ofNumber
    | .string => ofString
    | .array => ofArray
    | .object => ofObject

end Capabilities

end Reshape
