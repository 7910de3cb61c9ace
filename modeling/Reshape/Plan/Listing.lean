import Reshape.Plan

/-!
# Listing a plan

`Plan.listing` shows a plan with a line for each field: its key, the form of its path, whether it is
always a list, and the path. The fields of a nested plan follow their field, two columns further in.
-/

namespace Reshape

namespace Plan

variable {σ : Type}

/-- A text with blanks behind it up to `width` characters. -/
def padded (width : Nat) (text : String) : String :=
  text ++ String.ofList (List.replicate (width - text.length) ' ')

def fieldLine {ν : Type} (depth : Nat) (key : String) (field : Field σ Path ν) : String :=
  let form := (field.path.map fun path => path.kind.name).getD "default-only"
  let expression := (field.path.map Path.expression).getD "-"
  padded (2 * depth) "" ++ padded 20 key ++ " " ++ padded 13 form ++ " " ++
    padded 7 (if field.array then "array" else "scalar") ++ " " ++ expression ++ "\n"

mutual

def listing (depth : Nat) : List (Instruction σ) → String
  | [] => ""
  | ⟨key, _, ⟨path, fallback, modifiers, maps, array, nested⟩⟩ :: rest =>
    fieldLine depth key
      (⟨path, fallback, modifiers, maps, array, nested⟩ : Field σ Path (List (Instruction σ))) ++
      nestedListing (depth + 1) nested ++ listing depth rest

def nestedListing (depth : Nat) : Option (List (Instruction σ)) → String
  | none => ""
  | some plan => listing depth plan

end

end Plan

end Reshape
