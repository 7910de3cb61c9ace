import Reshape.Proofs.Path.Tokens
import Reshape.Proofs.Results
import Reshape.Schema.Reader
import Reshape.Plan

/-!
# Compiled schemas

What compiling keeps of a schema:

* `Plan.Mirrors` sets a plan beside a schema, rule by rule and level by level, and
  `mirrors_of_compile` says that every compiled plan mirrors its schema;
* `Schema.WellFormed` asks that no key occurs twice at any level. Schemas that are read have this
  property, and plans take it over;
* `Instruction.induction` is induction over nested plans.
-/

namespace Reshape

open Results

variable {σ : Type}

/-- What holds of an instruction once it holds of those of its nested plan holds of all. -/
theorem Instruction.induction {motive : Instruction σ → Prop}
    (step : ∀ instruction : Instruction σ,
      (∀ plan, instruction.field.nested = some plan → ∀ inner ∈ plan, motive inner) →
        motive instruction)
    (instruction : Instruction σ) : motive instruction :=
  step instruction fun _ _ inner _ => Instruction.induction step inner
termination_by sizeOf instruction
decreasing_by
  rename_i plan nested member
  have smaller := List.sizeOf_lt_of_mem member
  obtain ⟨key, scopedKey, ⟨path, fallback, modifiers, maps, array, inside⟩⟩ := instruction
  subst nested
  simp only [Instruction.mk.sizeOf_spec, Field.mk.sizeOf_spec, Option.some.sizeOf_spec]
  omega

/-! ## No key twice -/

/-- No key occurs twice, at this level and in every nested schema. -/
inductive Schema.WellFormed : Schema σ → Prop where
  | intro {schema : Schema σ} (distinct : schema.Distinct)
      (below : ∀ entry ∈ schema, ∀ inner : Schema σ, entry.2.field.nested = some inner →
        Schema.WellFormed inner) : Schema.WellFormed schema

/-- No key occurs twice, at this level and in every nested plan. -/
inductive Plan.WellFormed : Plan σ → Prop where
  | intro {plan : Plan σ} (distinct : (plan.map Instruction.key).Nodup)
      (below : ∀ instruction ∈ plan, ∀ inner : Plan σ, instruction.field.nested = some inner →
        Plan.WellFormed inner) : Plan.WellFormed plan

/-! ## Plans beside schemas -/

namespace Plan

mutual

/-- One instruction for each rule, in the same order and under the same keys. -/
def Mirrors : List (Instruction σ) → List (String × Rule σ) → Prop
  | [], [] => True
  | instruction :: plan, (key, rule) :: rules =>
    instruction.key = key ∧ MirrorsRule instruction.field rule ∧ Mirrors plan rules
  | _, _ => False

/-- The field of a rule with its path compiled from the text of the rule. -/
def MirrorsRule : Field σ Path (List (Instruction σ)) → Rule σ → Prop
  | field, .path expression => ∃ path, path.expression = expression ∧ field = .ofPath path
  | field, .record ⟨expression, fallback, modifiers, maps, array, nested⟩ =>
    field.path.map Path.expression = expression ∧ field.default = fallback ∧
      field.modifiers = modifiers ∧ field.maps = maps ∧ field.array = array ∧
      MirrorsNested field.nested nested

/-- A nested plan just where there is a nested schema. -/
def MirrorsNested : Option (List (Instruction σ)) → Option (List (String × Rule σ)) → Prop
  | none, none => True
  | some plan, some rules => Mirrors plan rules
  | _, _ => False

end

end Plan

theorem Path.compile_simple {text : String} {path : SimplePath}
    (solid : Text.isBlankText text = false) (read : SimplePath.parse? text = some path) :
    Path.compile text = .ok (.simple text path) := by
  simp [Path.compile, solid, read]

/-- A path compiles from what it is written as. -/
theorem Path.compile_written {text : String} {path : SimplePath} (nonempty : path ≠ [])
    (plain : ∀ segment ∈ path, segment.Plain) (written : path.render = text) :
    Path.compile text = .ok (.simple text path) := by
  have read : SimplePath.parse? text = some path :=
    written ▸ SimplePath.parse?_render nonempty plain
  exact Path.compile_simple (SimplePath.solid_of_parse? read) read

theorem Path.expression_of_compile {text : String} {path : Path}
    (h : Path.compile text = .ok path) : path.expression = text := by
  unfold Path.compile Path.compileGeneral at h
  split at h
  · cases h
  · split at h
    · cases h; rfl
    · split at h
      · cases h; rfl
      · cases h

theorem Path.expressions_of_compile {text : Option String} {path : Option Path}
    (h : text.mapM Path.compile = .ok path) : path.map Path.expression = text := by
  cases text with
  | none => cases h; rfl
  | some text =>
    obtain ⟨compiled, found, rfl⟩ := map_eq_ok.1 h
    exact congrArg some (Path.expression_of_compile found)

namespace Plan

mutual

theorem mirrors_of_compileRules {limit depth : Nat} {scope : String} :
    (rules : List (String × Rule σ)) → {plan : List (Instruction σ)} →
      compileRules limit scope depth rules = .ok plan → Mirrors plan rules
  | [], plan, h => by cases h; trivial
  | (key, rule) :: rest, plan, h => by
    simp only [compileRules, bind_eq_ok, pure_eq_ok] at h
    obtain ⟨field, first, others, later, rfl⟩ := h
    exact ⟨rfl, mirrorsRule_of_compileRule rule first, mirrors_of_compileRules rest later⟩

theorem mirrorsRule_of_compileRule {limit depth : Nat} {scopedKey : String} :
    (rule : Rule σ) → {field : Field σ Path (List (Instruction σ))} →
      compileRule limit scopedKey depth rule = .ok field → MirrorsRule field rule
  | .path expression, field, h => by
    simp only [compileRule, map_eq_ok] at h
    obtain ⟨path, compiled, rfl⟩ := h
    exact ⟨path, Path.expression_of_compile compiled, rfl⟩
  | .record ⟨expression, fallback, modifiers, maps, array, nested⟩, field, h => by
    simp only [compileRule, bind_eq_ok, pure_eq_ok] at h
    obtain ⟨_, _, path, compiled, plan, below, rfl⟩ := h
    exact ⟨Path.expressions_of_compile compiled, rfl, rfl, rfl, rfl,
      mirrorsNested_of_compileNested nested below⟩

theorem mirrorsNested_of_compileNested {limit depth : Nat} {scopedKey : String} :
    (nested : Option (List (String × Rule σ))) → {plan : Option (List (Instruction σ))} →
      compileNested limit scopedKey depth nested = .ok plan → MirrorsNested plan nested
  | none, plan, h => by cases h; trivial
  | some rules, plan, h => by
    simp only [compileNested] at h
    split at h
    · cases h
    · obtain ⟨inner, compiled, rfl⟩ := map_eq_ok.1 h
      exact mirrors_of_compileRules rules compiled

end

theorem mirrors_of_compile {limit : Nat} {schema : Schema σ} {plan : Plan σ}
    (h : compile limit schema = .ok plan) : Mirrors plan schema :=
  mirrors_of_compileRules schema h

theorem keys_of_mirrors : {plan : Plan σ} → {schema : Schema σ} → Mirrors plan schema →
    plan.map Instruction.key = schema.keys
  | [], [], _ => rfl
  | instruction :: plan, (key, rule) :: rules, h => by
    obtain ⟨rfl, _, rest⟩ := h
    exact congrArg (instruction.key :: ·) (keys_of_mirrors rest)

/-- Every instruction mirrors a rule under its own key. -/
theorem rule_of_mirrors : {plan : Plan σ} → {schema : Schema σ} → Mirrors plan schema →
    ∀ instruction ∈ plan, ∃ entry ∈ schema,
      entry.1 = instruction.key ∧ MirrorsRule instruction.field entry.2
  | [], _, _ => nofun
  | first :: plan, (key, rule) :: rules, h => by
    obtain ⟨same, mirrored, rest⟩ := h
    refine List.forall_mem_cons.2 ⟨⟨_, List.mem_cons_self, same.symm, mirrored⟩, ?_⟩
    intro instruction member
    obtain ⟨entry, present, found⟩ := rule_of_mirrors rest instruction member
    exact ⟨entry, List.mem_cons_of_mem _ present, found⟩

/-- A nested plan mirrors the nested schema of its rule. -/
theorem nested_of_mirrorsRule {field : Field σ Path (List (Instruction σ))} {rule : Rule σ}
    {inner : Plan σ} (h : MirrorsRule field rule) (present : field.nested = some inner) :
    ∃ rules : Schema σ, rule.field.nested = some rules ∧ Mirrors inner rules := by
  match rule with
  | .path expression =>
    obtain ⟨path, _, rfl⟩ := h
    cases present
  | .record ⟨expression, fallback, modifiers, maps, array, nested⟩ =>
    obtain ⟨_, _, _, _, _, h⟩ := h
    rw [present] at h
    cases nested with
    | none => cases h
    | some rules => exact ⟨rules, rfl, h⟩

theorem wellFormed_of_mirrors {plan : Plan σ} {schema : Schema σ} (wellFormed : schema.WellFormed)
    (h : Mirrors plan schema) : plan.WellFormed := by
  induction wellFormed generalizing plan with
  | @intro schema distinct _ ih =>
    refine .intro (keys_of_mirrors h ▸ distinct) ?_
    intro instruction member inner nested
    obtain ⟨entry, present, _, mirrored⟩ := rule_of_mirrors h instruction member
    obtain ⟨rules, below, same⟩ := nested_of_mirrorsRule mirrored nested
    exact ih entry present rules below same

end Plan

/-! ## Schemas that are read -/

namespace Schema

/-- A rule whose nested schema, if any, is well formed. -/
def RuleWellFormed (rule : Rule σ) : Prop :=
  ∀ inner : Schema σ, rule.field.nested = some inner → inner.WellFormed

theorem wellFormed_ofList {entries : List (String × Rule σ)}
    (below : ∀ entry ∈ entries, RuleWellFormed entry.2) :
    Schema.WellFormed (Keyed.ofList entries) :=
  .intro (Keyed.distinct_ofList entries) fun entry member => below entry (Keyed.mem_ofList member)

/-- The nested schema of a rule is absent, is no object, or is read from the object under
`schema`. -/
theorem nestedOf_cases (key : String) (members : List (String × Json)) :
    nestedOf key members = (.ok none : Except Error (Option (Schema σ))) ∨
      nestedOf key members = (.error (.invalidSchema key .nestedNotRules) :
        Except Error (Option (Schema σ))) ∨
      ∃ inner, ("schema", Json.object inner) ∈ members ∧
        nestedOf key members =
          ((fun rules => some (Keyed.ofList rules)) <$> rulesBelow key inner :
            Except Error (Option (Schema σ))) := by
  induction members with
  | nil => exact .inl rfl
  | cons member rest ih =>
    obtain ⟨name, value⟩ := member
    unfold nestedOf
    split
    · rename_i here
      subst here
      split
      · exact .inl rfl
      · rename_i inner
        refine .inr (.inr ⟨inner, List.mem_cons_self, ?_⟩)
        cases (rulesBelow key inner : Except Error (List (String × Rule σ))) <;> rfl
      · exact .inr (.inl rfl)
    · obtain absent | refused | ⟨inner, member, same⟩ := ih
      · exact .inl absent
      · exact .inr (.inl refused)
      · exact .inr (.inr ⟨inner, List.mem_cons_of_mem _ member, same⟩)

/-- Induction over written rules: over the list, and into what a rule has under `schema`. -/
theorem rules_induction {motive : List (String × Json) → Prop} (nil : motive [])
    (cons : ∀ key value rest, motive rest →
      (∀ members inner, value = .object members → ("schema", Json.object inner) ∈ members →
        motive inner) → motive ((key, value) :: rest)) :
    (rules : List (String × Json)) → motive rules
  | [] => nil
  | (key, value) :: rest =>
    cons key value rest (rules_induction nil cons rest) fun members inner _ _ =>
      rules_induction nil cons inner
termination_by rules => sizeOf rules
decreasing_by
  · simp only [List.cons.sizeOf_spec]
    omega
  · rename_i same member
    have smaller := List.sizeOf_lt_of_mem member
    subst same
    simp only [List.cons.sizeOf_spec, Prod.mk.sizeOf_spec, Json.object.sizeOf_spec] at smaller ⊢
    omega

theorem wellFormed_of_rulesBelow {scope : String} {rules : List (String × Json)}
    {entries : List (String × Rule σ)} (h : rulesBelow scope rules = .ok entries) :
    ∀ entry ∈ entries, RuleWellFormed entry.2 := by
  induction rules using rules_induction generalizing scope entries with
  | nil => cases h; nofun
  | cons key value rest ih below =>
    simp only [rulesBelow, bind_eq_ok, pure_eq_ok] at h
    obtain ⟨rule, first, others, later, rfl⟩ := h
    refine List.forall_mem_cons.2 ⟨?_, ih later⟩
    match value, first with
    | .string path, first => cases first; nofun
    | .object members, first =>
      simp only [ruleAt, bind_eq_ok, pure_eq_ok] at first
      obtain ⟨field, _, nested, read, rfl⟩ := first
      rintro schema rfl
      obtain absent | refused | ⟨inner, member, same⟩ :=
        nestedOf_cases (σ := σ) (scopedKey scope key) members
      · cases absent.symm.trans read
      · cases refused.symm.trans read
      · obtain ⟨entries, inside, same⟩ := map_eq_ok.1 (same.symm.trans read)
        cases same
        exact wellFormed_ofList (below members inner rfl member inside)

/-- A schema read from a value holds each key once, at every level. -/
theorem wellFormed_ofJson {value : Json} {schema : Schema σ} (h : ofJson value = .ok schema) :
    schema.WellFormed := by
  unfold ofJson ofJsonBelow at h
  split at h
  · obtain ⟨entries, read, rfl⟩ := map_eq_ok.1 h
    exact wellFormed_ofList (wellFormed_of_rulesBelow read)
  · cases h

end Schema

end Reshape
