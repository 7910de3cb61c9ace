import Reshape.Capability
import Reshape.Error
import Reshape.Text.Quoted

/-!
# Modifiers

A modifier changes one value. It is a function, or a name that is resolved for each value anew:

* `Registry.resolve?`: a named modifier is the one registered under the name, else what the value's
  kind supports; an ambient one is only the latter;
* `Registry.apply`: an unresolved name is an error when strict and changes nothing otherwise;
* `Registry.applyAll` chains modifiers from left to right.
-/

namespace Reshape

/-- A modifier as a rule refers to it. -/
inductive Modifier where
  /-- The function itself. -/
  | call (operation : Operation)
  /-- A name to look up among the registered modifiers, then among the value's capabilities. -/
  | named (name : String)
  /-- A name to look up among the value's capabilities. -/
  | ambient (name : String)

namespace Modifier

/-- The name that a modifier goes by; functions have none. -/
def name? : Modifier → Option String
  | call _ => none
  | named name | ambient name => some name

def shown : Modifier → String
  | call _ => "Callable(..)"
  | named name => "Named(" ++ Text.quotedName name ++ ")"
  | ambient name => "Ambient(" ++ Text.quotedName name ++ ")"

/-- The named modifier that an entry of the rule under `key` spells. -/
def ofJson (key : String) : Json → Except Error Modifier
  | .string name =>
    if Text.isBlankText name then .error (.invalidModifier key (Json.compact (.string name)))
    else .ok (.named (Text.trim name))
  | other => .error (.invalidModifier key other.compact)

/-- Refuses names that can never resolve, those of blanks only. -/
def validate (key : String) (modifier : Modifier) : Except Error Unit :=
  if modifier.name?.any Text.isBlankText then .error (.invalidModifier key modifier.shown)
  else .ok ()

end Modifier

/-- Modifiers under names, over the capabilities of values. -/
structure Registry where
  modifiers : Keyed Operation
  capabilities : Capabilities

namespace Registry

def ofCapabilities (capabilities : Capabilities) : Registry := ⟨[], capabilities⟩

/-- No modifiers, over the built-in capabilities. -/
def initial : Registry := ofCapabilities .builtin

/-- Registers or replaces a modifier. Blank names are refused, other names are taken as they are. -/
def register (registry : Registry) (name : String) (operation : Operation) :
    Except Error Registry :=
  if Text.isBlankText name then .error (.invalidModifier "registry" (Text.quotedName name))
  else .ok { registry with modifiers := registry.modifiers.insert name operation }

/-- What a modifier does to this value, if it resolves. -/
def resolve? (registry : Registry) (modifier : Modifier) (value : Json) : Option Operation :=
  match modifier with
  | .call operation => some operation
  | .named name =>
    (registry.modifiers.get? name).or (registry.capabilities.find? name value)
  | .ambient name => registry.capabilities.find? name value

/-- The value changed by one modifier. -/
def apply (registry : Registry) (strict : Bool) (modifier : Modifier) (value : Json) :
    Except Error Json :=
  match registry.resolve? modifier value with
  | some operation => .ok (operation value)
  | none =>
    if strict then .error (.unresolvedModifier (modifier.name?.getD "") value) else .ok value

/-- The value changed by one modifier after another. -/
def applyAll (registry : Registry) (strict : Bool) : List Modifier → Json → Except Error Json
  | [], value => .ok value
  | modifier :: rest, value => do
    let changed ← registry.apply strict modifier value
    registry.applyAll strict rest changed

/-! ## Listing -/

def sortedNames (names : List String) : List String := names.mergeSort fun a b => !(b < a)

def shownNames (names : List String) : String :=
  "[" ++ ", ".intercalate ((sortedNames names).map Text.quotedName) ++ "]"

/-- How a listing shows the capabilities: kinds without operations are left out. -/
def shownCapabilities (capabilities : Capabilities) : String :=
  let kinds := Json.Kind.all.filter fun kind => !(capabilities.operations kind).isEmpty
  "\x7b" ++
    ", ".intercalate (kinds.map fun kind =>
      Text.quotedName kind.name ++ ": " ++ shownNames (capabilities.operations kind).keys) ++
    "\x7d"

def shown (registry : Registry) : String :=
  "ModifierRegistry \x7b modifiers: " ++ shownNames registry.modifiers.keys ++
    ", capabilities: " ++ shownCapabilities registry.capabilities ++ " \x7d"

end Registry

end Reshape
