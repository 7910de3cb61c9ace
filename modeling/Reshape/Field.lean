import Reshape.Modifier
import Reshape.ValueMap

/-!
# Fields

How one key of a result is filled: from where, with what in place of missing values, and what is
done to each value. The same shape serves before and after compilation, so the type of paths and
the type of what is nested are parameters.

* `Field.check`: a field needs a path or a default, and modifier names that can resolve;
* `Field.slot`: what stands for a field without any value is an empty list or object or `null`;
* `Field.transform`: modifiers first, then maps, each from left to right.

Producers of defaults may keep a state of type `σ`, which every use passes on.
-/

namespace Reshape

/-- What takes the place of a missing value. -/
inductive Default (σ : Type) where
  /-- The same value each time. -/
  | value (content : Json)
  /-- A value made anew each time. -/
  | producer (next : StateM σ Json)

/-- A value to put in place of a missing one. -/
def Default.fetch {σ : Type} : Default σ → StateM σ Json
  | value content => pure content
  | producer next => next

/-- How one key of a result is filled, with paths of type `π` and nested rules of type `ν`. -/
structure Field (σ π ν : Type) where
  /-- Where values are found. -/
  path : Option π
  /-- What takes the place of missing values. -/
  default : Option (Default σ)
  /-- What is done to each value first. -/
  modifiers : List Modifier
  /-- What each value is looked up in afterwards. -/
  maps : List ValueMap
  /-- Whether the result is always a list. -/
  array : Bool
  /-- How each value is itself turned into an object. -/
  nested : Option ν

namespace Field

variable {σ π ν : Type}

/-- The field that takes what a path finds as it is. -/
def ofPath (path : π) : Field σ π ν := ⟨some path, none, [], [], false, none⟩

/-- A value to put in place of a missing one, `null` without a default. -/
def fetchDefault (field : Field σ π ν) : StateM σ Json :=
  match field.default with
  | some fallback => fallback.fetch
  | none => pure .null

/-- What stands for the field when nothing fills it. -/
def slot (field : Field σ π ν) : Json :=
  if field.array then .array [] else if field.nested.isSome then .object [] else .null

/-- Refuses a field that could never be filled or whose modifiers could never resolve. -/
def check (key : String) (field : Field σ π ν) : Except Error Unit := do
  if field.path.isNone && field.default.isNone then throw (.missingPathOrDefault key)
  field.modifiers.forM (Modifier.validate key)

/-- A value after the modifiers and then the maps of the field. -/
def transform (registry : Registry) (strict : Bool) (field : Field σ π ν) (value : Json) :
    Except Error Json :=
  (ValueMap.chain field.maps) <$> registry.applyAll strict field.modifiers value

end Field

end Reshape
