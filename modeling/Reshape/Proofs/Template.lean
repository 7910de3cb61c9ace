import Reshape.Proofs.Conformance

/-!
# Plans as images of schemas

Everything that a compiled plan takes over from its schema, at every level:

* `Rule.vacant` is what stands for a rule that nothing fills, and `template_of_mirrors` says that
  the template of a plan holds just that for each rule, in order;
* `Instruction.Renders` compares an instruction with its rule, nested schemas aside;
* `Plan.Reflects` adds keys, template and nested plans, level by level, and `compile_reflects` says
  that every compiled plan reflects its schema.
-/

namespace Reshape

open Extraction (friendPlan friendRules friendRules_compile friendRules_wellFormed)

variable {σ : Type}

/-- What stands for a rule that nothing fills: an empty list for a list, an empty object for a nested
schema, and `null` for any other rule. -/
def Rule.vacant (rule : Rule σ) : Json :=
  match rule.field.array, rule.field.nested with
  | true, _ => .array []
  | false, some _ => .object []
  | false, none => .null

/-- What an instruction takes over from its rule, the nested schema itself aside. -/
structure Instruction.Renders (instruction : Instruction σ) (rule : Rule σ) : Prop where
  pathed : instruction.field.path.isSome ↔ rule.field.path.isSome
  expression : ∀ path, instruction.field.path = some path → rule.field.path = some path.expression
  default : instruction.field.default = rule.field.default
  modifiers : instruction.field.modifiers = rule.field.modifiers
  maps : instruction.field.maps = rule.field.maps
  array : instruction.field.array = rule.field.array
  nested : instruction.field.nested.isSome ↔ rule.field.nested.isSome

theorem Instruction.Renders.slot_eq {instruction : Instruction σ} {rule : Rule σ}
    (h : instruction.Renders rule) : instruction.field.slot = rule.vacant := by
  have nested := h.nested
  unfold Field.slot Rule.vacant
  rw [h.array]
  cases rule.field.array with
  | true => rfl
  | false => cases below : rule.field.nested <;> simp_all

/-- One instruction for each rule, in order and under keys that occur once, over a template of what
stands for the rules; and the same of each nested plan and its nested schema. -/
inductive Plan.Reflects : Plan σ → Schema σ → Prop where
  | intro {plan : Plan σ} {schema : Schema σ}
      (keys : plan.map Instruction.key = schema.keys)
      (distinct : (plan.map Instruction.key).Nodup)
      (template : plan.template = schema.map fun entry => (entry.1, entry.2.vacant))
      (renders : ∀ pair ∈ plan.zip schema, pair.1.Renders pair.2.2)
      (below : ∀ pair ∈ plan.zip schema, ∀ (inner : Plan σ) (rules : Schema σ),
        pair.1.field.nested = some inner → pair.2.2.field.nested = some rules →
          Plan.Reflects inner rules) :
      Plan.Reflects plan schema

namespace Plan

theorem isSome_of_mirrorsNested {plan : Option (Plan σ)} {rules : Option (Schema σ)}
    (h : MirrorsNested plan rules) : plan.isSome ↔ rules.isSome := by
  cases plan <;> cases rules
  · rfl
  · exact h.elim
  · exact h.elim
  · exact Iff.rfl

theorem renders_of_mirrorsRule {instruction : Instruction σ} {rule : Rule σ}
    (h : MirrorsRule instruction.field rule) : instruction.Renders rule := by
  match rule with
  | .path expression =>
    obtain ⟨path, rfl, same⟩ := h
    rw [Field.ofPath] at same
    constructor <;> simp [same, Rule.field, Field.ofPath]
  | .record ⟨expression, fallback, modifiers, maps, array, nested⟩ =>
    obtain ⟨paths, defaults, modified, mapped, listed, below⟩ := h
    refine ⟨?_, ?_, defaults, modified, mapped, listed, isSome_of_mirrorsNested below⟩
    · simp [Rule.field, ← paths]
    · intro path found
      simp [Rule.field, ← paths, found]

/-- An instruction mirrors the rule that stands in its place. -/
theorem mirrorsRule_of_mem_zip : {plan : Plan σ} → {schema : Schema σ} → Mirrors plan schema →
    ∀ pair ∈ plan.zip schema, MirrorsRule pair.1.field pair.2.2
  | [], _, _ => by simp
  | instruction :: plan, (key, rule) :: rules, h => by
    obtain ⟨_, mirrored, rest⟩ := h
    rw [List.zip_cons_cons]
    exact List.forall_mem_cons.2 ⟨mirrored, mirrorsRule_of_mem_zip rest⟩

theorem slots_of_mirrors : {plan : Plan σ} → {schema : Schema σ} → Mirrors plan schema →
    (plan.map fun instruction => (instruction.key, instruction.field.slot)) =
      schema.map fun entry => (entry.1, entry.2.vacant)
  | [], [], _ => rfl
  | instruction :: plan, (key, rule) :: rules, h => by
    obtain ⟨rfl, mirrored, rest⟩ := h
    rw [List.map_cons, List.map_cons, slots_of_mirrors rest,
      (renders_of_mirrorsRule mirrored).slot_eq]

/-- The template holds what stands for each rule, and nothing else. -/
theorem template_of_mirrors {plan : Plan σ} {schema : Schema σ} (distinct : schema.Distinct)
    (h : Mirrors plan schema) :
    plan.template = schema.map fun entry => (entry.1, entry.2.vacant) := by
  have keys : Keyed.keys (schema.map fun entry => (entry.1, entry.2.vacant)) = schema.keys := by
    simp [Keyed.keys]
  rw [template, slots_of_mirrors h, Keyed.ofList_eq]
  rwa [Keyed.Distinct, keys]

theorem reflects_of_mirrors {plan : Plan σ} {schema : Schema σ} (wellFormed : schema.WellFormed)
    (h : Mirrors plan schema) : plan.Reflects schema := by
  induction wellFormed generalizing plan with
  | @intro schema distinct _ ih =>
    have keys := keys_of_mirrors h
    refine .intro keys (keys ▸ distinct) (template_of_mirrors distinct h) ?_ ?_
    · intro pair member
      exact renders_of_mirrorsRule (mirrorsRule_of_mem_zip h pair member)
    · intro pair member inner rules planned ruled
      obtain ⟨others, nested, mirrors⟩ :=
        nested_of_mirrorsRule (mirrorsRule_of_mem_zip h pair member) planned
      cases ruled.symm.trans nested
      exact ih pair.2 (List.of_mem_zip member).2 rules ruled mirrors

/-- A compiled plan is the image of its schema at every level: instructions and template have its
keys in its order, each instruction renders the rule in its place, and nested plans reflect nested
schemas. -/
theorem compile_reflects {limit : Nat} {schema : Schema σ} {plan : Plan σ}
    (wellFormed : schema.WellFormed) (compiled : compile limit schema = .ok plan) :
    plan.Reflects schema :=
  reflects_of_mirrors wellFormed (mirrors_of_compile compiled)

theorem friendPlan_reflects :
    (friendRules "downcase").WellFormed ∧
      compile 32 (friendRules "downcase") = .ok (friendPlan "downcase") ∧
      (friendPlan "downcase").Reflects (friendRules "downcase") := by
  have wellFormed := friendRules_wellFormed "downcase"
  have compiled : compile 32 (friendRules "downcase") = .ok (friendPlan "downcase") :=
    friendRules_compile (by decide)
  exact ⟨wellFormed, compiled, compile_reflects wellFormed compiled⟩

end Plan

end Reshape
