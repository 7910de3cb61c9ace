import Reshape.Path
import Reshape.Schema

/-!
# Plans

A plan is a schema whose paths are compiled and whose faults have all been found.

* `Plan.compile` gives one instruction for each rule, in order, or the first fault: for each rule
  what `Field.check` finds, its path, its depth, and then what lies in its nested schema;
* `Plan.template` is the result before any document is read.
-/

namespace Reshape

/-- How one key of the result is filled, ready to run. -/
structure Instruction (σ : Type) where
  /-- The key of the result. -/
  key : String
  /-- The key with the keys that lead to it. -/
  scopedKey : String
  field : Field σ Path (List (Instruction σ))

/-- Instructions for the keys of a result. -/
abbrev Plan (σ : Type) := List (Instruction σ)

namespace Plan

variable {σ : Type}

mutual

/-- The instructions for rules at a depth, below the keys `scope`. -/
def compileRules (limit : Nat) (scope : String) (depth : Nat) :
    List (String × Rule σ) → Except Error (List (Instruction σ))
  | [] => .ok []
  | (key, rule) :: rest => do
    let field ← compileRule limit (Schema.scopedKey scope key) depth rule
    let instructions ← compileRules limit scope depth rest
    return ⟨key, Schema.scopedKey scope key, field⟩ :: instructions

def compileRule (limit : Nat) (scopedKey : String) (depth : Nat) :
    Rule σ → Except Error (Field σ Path (List (Instruction σ)))
  | .path expression => Field.ofPath <$> Path.compile expression
  | .record ⟨expression, fallback, modifiers, maps, array, nested⟩ => do
    Field.check scopedKey (⟨expression, fallback, modifiers, maps, array, nested⟩ : Field ..)
    let path ← expression.mapM Path.compile
    let plan ← compileNested limit scopedKey depth nested
    return ⟨path, fallback, modifiers, maps, array, plan⟩

def compileNested (limit : Nat) (scopedKey : String) (depth : Nat) :
    Option (List (String × Rule σ)) → Except Error (Option (List (Instruction σ)))
  | none => .ok none
  | some rules =>
    if depth + 1 > limit then .error (.schemaTooDeep scopedKey limit)
    else some <$> compileRules limit scopedKey (depth + 1) rules

end

/-- The plan of a schema that nests at most `limit` levels deep. -/
def compile (limit : Nat) (schema : Schema σ) : Except Error (Plan σ) :=
  compileRules limit "" 0 schema

/-- What the keys hold before anything is filled in. -/
def template (plan : Plan σ) : Keyed Json :=
  Keyed.ofList (plan.map fun instruction => (instruction.key, instruction.field.slot))

end Plan

end Reshape
