import Mathlib.Data.List.Forall2
import Reshape.Extractor
import Reshape.Proofs.NestedRuns
import Reshape.Proofs.Producers

/-!
# Independent fields

Where no default is a producer, the fields of a schema have nothing to do with each other:

* `Plan.compile_iff_each`: a plan has the instructions of its rules, each compiled alone;
* `Steady`: a run that leaves the state alone and does not depend on it, as every run without
  producers does (`Performs.steady`);
* `gives_extract_iff`: what a schema extracts is what its fields extract alone, in their order;
* `fields_independent` adds what follows for other schemas that share fields with it.
-/

namespace Reshape

open Results

variable {σ : Type}

/-! ## Lists related entry by entry -/

section

variable {α β γ ε : Type} {R : α → β → Prop} {S : β → γ → Prop}

theorem mapM_eq_ok_iff {f : α → Except ε β} {as : List α} {bs : List β} :
    as.mapM f = .ok bs ↔ List.Forall₂ (fun a b => f a = .ok b) as bs := by
  induction as generalizing bs with
  | nil =>
    rw [List.mapM_nil, pure_eq_ok, List.forall₂_nil_left_iff]
    exact eq_comm
  | cons a as ih =>
    rw [mapM_cons_eq_ok, List.forall₂_cons_left_iff]
    constructor
    · rintro ⟨b, rest, rfl, here, later⟩
      exact ⟨b, rest, here, ih.1 later, rfl⟩
    · rintro ⟨b, rest, here, later, rfl⟩
      exact ⟨b, rest, rfl, here, ih.2 later⟩

theorem forall₂_trans {as : List α} {cs : List γ} :
    List.Forall₂ (fun a c => ∃ b, R a b ∧ S b c) as cs ↔
      ∃ bs, List.Forall₂ R as bs ∧ List.Forall₂ S bs cs := by
  constructor
  · intro h
    induction h with
    | nil => exact ⟨[], .nil, .nil⟩
    | cons here _ ih =>
      obtain ⟨b, first, second⟩ := here
      obtain ⟨bs, before, after⟩ := ih
      exact ⟨b :: bs, .cons first before, .cons second after⟩
  · rintro ⟨bs, first, second⟩
    induction first generalizing cs with
    | nil =>
      cases second
      exact .nil
    | cons here _ ih =>
      cases second with
      | cons there after => exact .cons ⟨_, here, there⟩ (ih after)

theorem exists_forall₂ {as : List α} :
    (∃ bs, List.Forall₂ R as bs) ↔ ∀ a ∈ as, ∃ b, R a b := by
  induction as with
  | nil => exact ⟨fun _ => nofun, fun _ => ⟨[], .nil⟩⟩
  | cons a as ih =>
    rw [List.forall_mem_cons, ← ih]
    constructor
    · rintro ⟨_, h⟩
      cases h with
      | cons here later => exact ⟨⟨_, here⟩, _, later⟩
    · rintro ⟨⟨b, here⟩, bs, later⟩
      exact ⟨b :: bs, .cons here later⟩

/-- An entry of the first list is related to the one in its place in the second. -/
theorem mem_zip_of_forall₂ {as : List α} {bs : List β} (h : List.Forall₂ R as bs) {a : α}
    (member : a ∈ as) : ∃ b, (a, b) ∈ as.zip bs ∧ R a b := by
  induction h with
  | nil => cases member
  | cons here _ ih =>
    obtain rfl | later := List.mem_cons.1 member
    · exact ⟨_, List.mem_cons_self, here⟩
    · obtain ⟨b, present, related⟩ := ih later
      exact ⟨b, List.mem_cons_of_mem _ present, related⟩

end

/-! ## Compiling rule by rule -/

namespace Plan

variable {limit : Nat}

/-- The instruction of a rule at the top of a schema. -/
def compileEntry (limit : Nat) (entry : String × Rule σ) : Except Error (Instruction σ) :=
  Instruction.mk entry.1 (Schema.scopedKey "" entry.1) <$>
    compileRule limit (Schema.scopedKey "" entry.1) 0 entry.2

theorem compile_eq_mapM (schema : Schema σ) :
    compile limit schema = schema.mapM (compileEntry limit) := by
  unfold compile
  induction schema with
  | nil => rfl
  | cons entry rest ih =>
    obtain ⟨key, rule⟩ := entry
    simp only [compileRules, List.mapM_cons, compileEntry, map_eq_pure_bind, bind_assoc, pure_bind,
      ih]

theorem compile_single {entry : String × Rule σ} {plan : Plan σ} :
    compile limit [entry] = .ok plan ↔
      ∃ instruction, plan = [instruction] ∧ compileEntry limit entry = .ok instruction := by
  rw [compile_eq_mapM, mapM_cons_eq_ok]
  simp

/-- A plan has one instruction for each rule, which is the plan of this rule alone. -/
theorem compile_iff_each {schema : Schema σ} {plan : Plan σ} :
    compile limit schema = .ok plan ↔
      List.Forall₂ (fun entry instruction => compile limit [entry] = .ok [instruction]) schema
        plan := by
  simp only [compile_eq_mapM, mapM_eq_ok_iff]
  simp

/-- A fault of a schema is the fault of one of its rules alone. -/
theorem error_of_compile {schema : Schema σ} {e : Error} (h : compile limit schema = .error e) :
    ∃ entry ∈ schema, compile limit [entry] = .error e := by
  rw [compile_eq_mapM] at h
  obtain ⟨entry, member, failed⟩ := error_of_mapM h
  refine ⟨entry, member, ?_⟩
  rw [compile_eq_mapM]
  exact mapM_cons_eq_error.2 (.inl failed)

/-- A schema compiles just if each of its rules does alone. -/
theorem exists_compile_iff (limit : Nat) (schema : Schema σ) :
    (∃ plan, compile limit schema = .ok plan) ↔
      ∀ entry ∈ schema, ∃ plan, compile limit [entry] = .ok plan := by
  simp only [compile_eq_mapM, mapM_eq_ok_iff, exists_forall₂, List.forall_mem_singleton]

end Plan

/-! ## Schemas without producers -/

/-- No default is a producer, at this level and in every nested schema. -/
inductive Schema.ProducerFree : Schema σ → Prop where
  | intro {schema : Schema σ}
      (own : ∀ entry ∈ schema, ∀ next, entry.2.field.default ≠ some (.producer next))
      (below : ∀ entry ∈ schema, ∀ inner : Schema σ, entry.2.field.nested = some inner →
        Schema.ProducerFree inner) : Schema.ProducerFree schema

theorem Schema.ProducerFree.single {schema : Schema σ} (free : schema.ProducerFree)
    {entry : String × Rule σ} (member : entry ∈ schema) : Schema.ProducerFree [entry] := by
  cases free with
  | intro own below =>
    exact .intro (List.forall_mem_singleton.2 (own entry member))
      (List.forall_mem_singleton.2 (below entry member))

theorem Schema.WellFormed.single {schema : Schema σ} (wellFormed : schema.WellFormed)
    {entry : String × Rule σ} (member : entry ∈ schema) : Schema.WellFormed [entry] := by
  cases wellFormed with
  | intro _ below =>
    exact .intro (List.pairwise_singleton _ entry.1)
      (List.forall_mem_singleton.2 (below entry member))

namespace Extraction

theorem default_of_mirrorsRule {field : Field σ Path (Plan σ)} {rule : Rule σ}
    (h : Plan.MirrorsRule field rule) : field.default = rule.field.default := by
  match rule with
  | .path expression =>
    obtain ⟨path, _, rfl⟩ := h
    rfl
  | .record ⟨expression, fallback, modifiers, maps, array, nested⟩ => exact h.2.1

theorem not_employs_of_mirrors {schema : Schema σ} (free : schema.ProducerFree) {plan : Plan σ}
    (mirrored : Plan.Mirrors plan schema) (producer : StateM σ Json) : ¬ Employs producer plan := by
  intro employed
  induction employed generalizing schema with
  | own member default =>
    obtain ⟨entry, present, _, same⟩ := Plan.rule_of_mirrors mirrored _ member
    cases free with
    | intro own _ => exact own entry present _ (default_of_mirrorsRule same ▸ default)
  | nested member nests _ ih =>
    obtain ⟨entry, present, _, same⟩ := Plan.rule_of_mirrors mirrored _ member
    obtain ⟨rules, below, inner⟩ := Plan.nested_of_mirrorsRule same nests
    cases free with
    | intro _ deeper => exact ih (deeper entry present rules below) inner

/-! ## Runs that leave the state alone -/

/-- The run succeeds from this state. -/
def Succeeds {α : Type} (run : Extraction σ α) (s : σ) : Prop := ∃ a s', Gives run s a s'

/-- The run leaves every state alone and comes to the same from each. -/
def Steady {α : Type} (run : Extraction σ α) : Prop :=
  ∀ ⦃s s' : σ⦄ ⦃o : Except Error α⦄, outcome run s = (o, s') →
    s' = s ∧ ∀ t, outcome run t = (o, t)

/-- A run that never calls a producer is steady. -/
theorem Performs.steady {α : Type} {run : Extraction σ α} {script : Script σ α}
    (h : Performs run script) (silent : script.Within fun _ => False) : Steady run := by
  intro s s' o same
  obtain ⟨calls, made, answered⟩ := h.outcome_eq_iff.1 same
  obtain rfl := List.eq_nil_iff_forall_not_mem.2 (silent calls o made)
  exact ⟨answered, fun t => h.outcome_eq_iff.2 ⟨[], made, rfl⟩⟩

variable {registry : Registry} {settings : Settings}

theorem steady_evaluate {plan : Plan σ} (wellFormed : plan.WellFormed)
    (free : ∀ producer, ¬ Employs producer plan) (document : Json) {instruction : Instruction σ}
    (member : instruction ∈ plan) : Steady (evaluate registry settings document instruction) := by
  cases wellFormed with
  | intro _ below =>
    refine (scripted instruction (below instruction member) document).steady ?_
    intro calls o made call present
    exact free _ ((within_instruction instruction document calls o made call present).of_mem member)

theorem steady_run {plan : Plan σ} (wellFormed : plan.WellFormed)
    (free : ∀ producer, ¬ Employs producer plan) (document : Json) :
    Steady (plan.run registry settings document) :=
  (performs_run wellFormed document).steady fun _ _ made _ member =>
    free _ (employs_of_runScript made member)

/-- What steady instructions write is what each of them finds from the same state. -/
theorem gives_entries_each {plan : Plan σ} {document : Json}
    (steady : ∀ instruction ∈ plan, Steady (evaluate registry settings document instruction))
    {s s' : σ} {members : List (String × Json)} :
    Gives (entries registry settings document plan) s members s' ↔
      s' = s ∧ ∃ values, members = (plan.map Instruction.key).zip values ∧
        List.Forall₂ (fun instruction value =>
          Gives (evaluate registry settings document instruction) s value s) plan values := by
  induction plan generalizing members with
  | nil => simp [entries, and_comm]
  | cons instruction rest ih =>
    obtain ⟨first, others⟩ := List.forall_mem_cons.1 steady
    simp only [entries_cons, gives_bind, gives_map, List.forall₂_cons_left_iff]
    constructor
    · rintro ⟨value, between, here, _, rfl, written⟩
      obtain rfl := (first here).1
      obtain ⟨rfl, values, rfl, later⟩ := (ih others).1 written
      exact ⟨rfl, value :: values, rfl, value, values, here, later, rfl⟩
    · rintro ⟨rfl, _, rfl, value, values, here, later, rfl⟩
      exact ⟨value, s', here, _, rfl, (ih others).2 ⟨rfl, values, rfl, later⟩⟩

theorem gives_run_single {instruction : Instruction σ} {document result : Json} {s s' : σ} :
    Gives (Plan.run registry settings [instruction] document) s result s' ↔
      ∃ value, result = .object [(instruction.key, value)] ∧
        Gives (evaluate registry settings document instruction) s value s' := by
  have distinct : (List.map Instruction.key [instruction]).Nodup := List.pairwise_singleton _ _
  rw [gives_run distinct, entries_cons]
  constructor
  · rintro ⟨members, rfl, written⟩
    obtain ⟨value, between, found, left⟩ := gives_bind.1 written
    obtain ⟨_, rfl, rest⟩ := gives_map.1 left
    obtain ⟨rfl, rfl⟩ := gives_pure.1 rest
    exact ⟨value, rfl, found⟩
  · rintro ⟨value, rfl, found⟩
    refine ⟨_, rfl, gives_bind.2 ⟨value, s', found, gives_map.2 ⟨[], rfl, ?_⟩⟩⟩
    exact gives_pure.2 ⟨rfl, rfl⟩

/-! ## Extracting field by field -/

variable {extractor : Extractor σ} {schema : Schema σ} {document : Json}

theorem gives_extract {result : Json} {s s' : σ} :
    Gives (extractor.extract schema document) s result s' ↔
      ∃ plan, Plan.compile extractor.settings.maxDepth schema = .ok plan ∧
        Gives (plan.run extractor.registry extractor.settings document) s result s' := by
  unfold Extractor.extract
  cases Plan.compile extractor.settings.maxDepth schema with
  | ok plan => simp [Extractor.runPlan]
  | error e =>
    constructor
    · intro h
      cases h
    · rintro ⟨plan, other, _⟩
      cases other

theorem fails_extract {e : Error} {s s' : σ} :
    Fails (extractor.extract schema document) s e s' ↔
      (Plan.compile extractor.settings.maxDepth schema = .error e ∧ s' = s) ∨
      ∃ plan, Plan.compile extractor.settings.maxDepth schema = .ok plan ∧
        Fails (plan.run extractor.registry extractor.settings document) s e s' := by
  unfold Extractor.extract
  cases Plan.compile extractor.settings.maxDepth schema with
  | ok plan => simp [Extractor.runPlan]
  | error f =>
    have thrown : (throw f : Extraction σ Json) = ExceptT.mk (pure (.error f)) := rfl
    simp [thrown, fails_mk]

/-- The instructions of a schema without producers are steady. -/
theorem steady_of_compile (wellFormed : schema.WellFormed) (free : schema.ProducerFree)
    {limit : Nat} {plan : Plan σ} (compiled : Plan.compile limit schema = .ok plan)
    (document : Json) : ∀ instruction ∈ plan,
      Steady (evaluate registry settings document instruction) := by
  have mirrored := Plan.mirrors_of_compile compiled
  exact fun _ => steady_evaluate (Plan.wellFormed_of_mirrors wellFormed mirrored)
    (not_employs_of_mirrors free mirrored) document

/-- A schema of one field extracts what its one instruction finds. -/
theorem gives_field {entry : String × Rule σ} {value : Json} {s s' : σ} :
    Gives (extractor.extract [entry] document) s (.object [(entry.1, value)]) s' ↔
      ∃ instruction, Plan.compile extractor.settings.maxDepth [entry] = .ok [instruction] ∧
        Gives (evaluate extractor.registry extractor.settings document instruction) s value s' := by
  rw [gives_extract]
  constructor
  · rintro ⟨plan, compiled, ran⟩
    obtain ⟨instruction, rfl, _⟩ := Plan.compile_single.1 compiled
    obtain ⟨found, same, evaluated⟩ := gives_run_single.1 ran
    simp only [Json.object.injEq, List.cons.injEq, Prod.mk.injEq, and_true] at same
    exact ⟨instruction, compiled, same.2 ▸ evaluated⟩
  · rintro ⟨instruction, compiled, evaluated⟩
    have same : instruction.key = entry.1 := by
      simpa using Plan.keys_of_mirrors (Plan.mirrors_of_compile compiled)
    exact ⟨_, compiled, gives_run_single.2 ⟨value, by rw [same], evaluated⟩⟩

theorem fails_field {entry : String × Rule σ} {instruction : Instruction σ}
    (compiled : Plan.compile extractor.settings.maxDepth [entry] = .ok [instruction]) {e : Error}
    {s s' : σ} (failed : Fails
      (evaluate extractor.registry extractor.settings document instruction) s e s') :
    Fails (extractor.extract [entry] document) s e s' := by
  refine fails_extract.2 (.inr ⟨_, compiled, fails_run.2 ?_⟩)
  rw [entries_cons]
  exact fails_bind.2 (.inl failed)

theorem steady_extract (wellFormed : schema.WellFormed) (free : schema.ProducerFree) :
    Steady (extractor.extract schema document) := by
  unfold Extractor.extract
  rcases compiled : Plan.compile extractor.settings.maxDepth schema with e | plan
  · rintro s s' o same
    cases same
    exact ⟨rfl, fun t => rfl⟩
  · have mirrored := Plan.mirrors_of_compile compiled
    exact steady_run (Plan.wellFormed_of_mirrors wellFormed mirrored)
      (not_employs_of_mirrors free mirrored) document

/-- What a schema extracts is what each of its fields extracts alone, in their order. -/
theorem gives_extract_iff (wellFormed : schema.WellFormed) (free : schema.ProducerFree)
    {result : Json} {s s' : σ} :
    Gives (extractor.extract schema document) s result s' ↔
      s' = s ∧ ∃ values, result = .object (schema.keys.zip values) ∧
        List.Forall₂ (fun entry value =>
          Gives (extractor.extract [entry] document) s (.object [(entry.1, value)]) s) schema
          values := by
  have each (plan : Plan σ)
      (compiled : Plan.compile extractor.settings.maxDepth schema = .ok plan) :
      Gives (plan.run extractor.registry extractor.settings document) s result s' ↔
        s' = s ∧ ∃ values, result = .object (schema.keys.zip values) ∧
          List.Forall₂ (fun instruction value =>
            Gives (evaluate extractor.registry extractor.settings document instruction) s value s)
            plan values := by
    have mirrored := Plan.mirrors_of_compile compiled
    cases Plan.wellFormed_of_mirrors wellFormed mirrored with
    | intro distinct _ =>
      rw [gives_run distinct, ← Plan.keys_of_mirrors mirrored]
      simp only [gives_entries_each (steady_of_compile wellFormed free compiled document)]
      constructor
      · rintro ⟨_, rfl, rfl, values, rfl, found⟩
        exact ⟨rfl, values, rfl, found⟩
      · rintro ⟨rfl, values, rfl, found⟩
        exact ⟨_, rfl, rfl, values, rfl, found⟩
  rw [gives_extract]
  simp only [gives_field, forall₂_trans, ← Plan.compile_iff_each]
  constructor
  · rintro ⟨plan, compiled, ran⟩
    obtain ⟨rfl, values, rfl, found⟩ := (each plan compiled).1 ran
    exact ⟨rfl, values, rfl, plan, compiled, found⟩
  · rintro ⟨rfl, values, rfl, plan, compiled, found⟩
    exact ⟨plan, compiled, (each plan compiled).2 ⟨rfl, values, rfl, found⟩⟩

/-- A field holds in the result what it extracts alone. -/
theorem member?_of_extract (wellFormed : schema.WellFormed) (free : schema.ProducerFree)
    {result : Json} {s s' : σ} (given : Gives (extractor.extract schema document) s result s')
    {entry : String × Rule σ} (member : entry ∈ schema) :
    ∃ value, result.member? entry.1 = some value ∧
      Gives (extractor.extract [entry] document) s (.object [(entry.1, value)]) s := by
  obtain ⟨rfl, values, rfl, each⟩ := (gives_extract_iff wellFormed free).1 given
  obtain ⟨value, present, alone⟩ := mem_zip_of_forall₂ each member
  refine ⟨value, Keyed.get?_of_mem ?_ ?_, alone⟩
  · have whole : schema.keys.length ≤ values.length := by simp [Keyed.keys, each.length_eq]
    cases wellFormed with
    | intro distinct _ => rwa [Keyed.Distinct, Keyed.keys, List.map_fst_zip whole]
  · rw [Keyed.keys, List.zip_map_left]
    exact List.mem_map_of_mem present

theorem succeeds_iff_each (wellFormed : schema.WellFormed) (free : schema.ProducerFree) {s : σ} :
    Succeeds (extractor.extract schema document) s ↔
      ∀ entry ∈ schema, Succeeds (extractor.extract [entry] document) s := by
  constructor
  · rintro ⟨result, s', given⟩ entry member
    obtain ⟨value, _, alone⟩ := member?_of_extract wellFormed free given member
    exact ⟨_, _, alone⟩
  · intro each
    have found : ∀ entry ∈ schema, ∃ value,
        Gives (extractor.extract [entry] document) s (.object [(entry.1, value)]) s := by
      intro entry member
      obtain ⟨result, s', given⟩ := each entry member
      obtain ⟨value, _, alone⟩ := member?_of_extract (wellFormed.single member)
        (free.single member) given List.mem_cons_self
      exact ⟨value, alone⟩
    obtain ⟨values, all⟩ := exists_forall₂.2 found
    exact ⟨_, s, (gives_extract_iff wellFormed free).2 ⟨rfl, values, rfl, all⟩⟩

/-- A failure is the failure of a field alone. -/
theorem fails_alone (wellFormed : schema.WellFormed) (free : schema.ProducerFree)
    {e : Error} {s s' : σ} (failed : Fails (extractor.extract schema document) s e s') :
    ∃ entry ∈ schema, Fails (extractor.extract [entry] document) s e s' := by
  obtain ⟨fault, rfl⟩ | ⟨plan, compiled, ran⟩ := fails_extract.1 failed
  · obtain ⟨entry, member, alone⟩ := Plan.error_of_compile fault
    exact ⟨entry, member, fails_extract.2 (.inl ⟨alone, rfl⟩)⟩
  · obtain ⟨before, instruction, after, _, between, split, _, stopped⟩ :=
      fails_mapM.1 (fails_run.1 ran)
    have member : instruction ∈ plan := split ▸ List.mem_append_right before List.mem_cons_self
    obtain rfl := (steady_extract wellFormed free failed).1
    have here := (steady_of_compile wellFormed free compiled document instruction member
      (fails_map.1 stopped)).2 s'
    obtain ⟨entry, beside, alone⟩ :=
      mem_zip_of_forall₂ (Plan.compile_iff_each.1 compiled).flip member
    exact ⟨entry, (List.of_mem_zip beside).2, fails_field alone here⟩

/-- Schemas that share a field extract the same value for it, from whatever states. -/
theorem member?_of_shared {other : Schema σ} (wellFormed : schema.WellFormed)
    (free : schema.ProducerFree) (otherWellFormed : other.WellFormed)
    (otherFree : other.ProducerFree) {s t s' t' : σ} {result changed : Json}
    (given : Gives (extractor.extract schema document) s result s')
    (too : Gives (extractor.extract other document) t changed t')
    {entry : String × Rule σ} (member : entry ∈ schema) (shared : entry ∈ other) :
    ∃ value, result.member? entry.1 = some value ∧ changed.member? entry.1 = some value := by
  obtain ⟨value, stands, here⟩ := member?_of_extract wellFormed free given member
  obtain ⟨again, there, alone⟩ := member?_of_extract otherWellFormed otherFree too shared
  have steady : Steady (extractor.extract [entry] document) :=
    steady_extract (wellFormed.single member) (free.single member)
  obtain ⟨same, _⟩ := alone.unique ((steady here).2 t)
  simp only [Json.object.injEq, List.cons.injEq, Prod.mk.injEq, and_true, true_and] at same
  exact ⟨value, stands, same ▸ there⟩

/-- **Fields are independent.** A schema without producers compiles just if each of its fields
compiles alone, extracts just if each of them extracts alone, and makes the ordered union of what
they make; where it fails, one of them fails alone in the same way. Hence a schema with some of its
fields, or with all of them in another order, extracts if it does, and schemas that share a field
extract the same value for it. -/
theorem fields_independent (wellFormed : schema.WellFormed) (free : schema.ProducerFree)
    (extractor : Extractor σ) (document : Json) :
    ((∃ plan, Plan.compile extractor.settings.maxDepth schema = .ok plan) ↔
      ∀ entry ∈ schema, ∃ plan, Plan.compile extractor.settings.maxDepth [entry] = .ok plan) ∧
    Steady (extractor.extract schema document) ∧
    (∀ s, Succeeds (extractor.extract schema document) s ↔
      ∀ entry ∈ schema, Succeeds (extractor.extract [entry] document) s) ∧
    (∀ s result s', Gives (extractor.extract schema document) s result s' ↔
      s' = s ∧ ∃ values, result = .object (schema.keys.zip values) ∧
        List.Forall₂ (fun entry value =>
          Gives (extractor.extract [entry] document) s (.object [(entry.1, value)]) s) schema
          values) ∧
    (∀ s e s', Fails (extractor.extract schema document) s e s' →
      ∃ entry ∈ schema, Fails (extractor.extract [entry] document) s e s') ∧
    ∀ other : Schema σ, other.WellFormed → other.ProducerFree →
      (other ⊆ schema → ∀ s, Succeeds (extractor.extract schema document) s →
        Succeeds (extractor.extract other document) s) ∧
      (other.Perm schema → ∀ s, Succeeds (extractor.extract other document) s ↔
        Succeeds (extractor.extract schema document) s) ∧
      ∀ s t result changed s' t', Gives (extractor.extract schema document) s result s' →
        Gives (extractor.extract other document) t changed t' →
        ∀ entry ∈ schema, entry ∈ other → ∃ value,
          result.member? entry.1 = some value ∧ changed.member? entry.1 = some value := by
  refine ⟨Plan.exists_compile_iff _ schema, steady_extract wellFormed free,
    fun s => succeeds_iff_each wellFormed free,
    fun s result s' => gives_extract_iff wellFormed free,
    fun s e s' => fails_alone wellFormed free, fun other sound alsoFree => ⟨?_, ?_, ?_⟩⟩
  · intro subset s given
    rw [succeeds_iff_each wellFormed free] at given
    exact (succeeds_iff_each sound alsoFree).2 fun entry member => given entry (subset member)
  · intro reordered s
    simp only [succeeds_iff_each wellFormed free, succeeds_iff_each sound alsoFree,
      reordered.mem_iff]
  · exact fun s t result changed s' t' given too entry member shared =>
      member?_of_shared wellFormed free sound alsoFree given too member shared

/-- The holder of a card, and who the card links to. -/
def holderRule : String × Rule Nat := ("holder", .path "$.holder")

def linksRule : String × Rule Nat :=
  ("links",
    .record ⟨some "$.links[*]", some (.value (.string "none")), [], [], true,
      some [("to", .path "$.to")]⟩)

def holderPlan : Plan Nat := [⟨"holder", "holder", .ofPath (.simple "$.holder" [.key "holder"])⟩]

def linksPlan : Plan Nat :=
  [⟨"links", "links",
    ⟨some (.simple "$.links[*]" [.key "links", .every]), some (.value (.string "none")), [], [],
      true, some [⟨"to", "links.to", .ofPath (.simple "$.to" [.key "to"])⟩]⟩⟩]

def links : Json := .array [.object [("to", .string "Bob")]]

def card : Json := .object [("holder", .string "Ada"), ("links", links)]

theorem holder_alone :
    Gives (Extractor.extract (.initial .standard) [holderRule] card) 0
      (.object [("holder", .string "Ada")]) 0 := by
  have path : Path.compile "$.holder" = .ok (.simple "$.holder" [.key "holder"]) :=
    Path.compile_written (by simp) (by decide) rfl
  refine gives_extract.2 ⟨holderPlan, ?_, by decide +kernel⟩
  simp [holderRule, holderPlan, Plan.compile, Plan.compileRules, Plan.compileRule,
    Schema.scopedKey, path, bind, Except.bind, pure, Except.pure, Functor.map, Except.map]

theorem links_alone :
    Gives (Extractor.extract (.initial .standard) [linksRule] card) 0
      (.object [("links", links)]) 0 := by
  have path : Path.compile "$.links[*]" = .ok (.simple "$.links[*]" [.key "links", .every]) :=
    Path.compile_written (by simp) (by decide) rfl
  have below : Path.compile "$.to" = .ok (.simple "$.to" [.key "to"]) :=
    Path.compile_written (by simp) (by decide) rfl
  refine gives_extract.2 ⟨linksPlan, ?_, by decide +kernel⟩
  simp [linksRule, linksPlan, Plan.compile, Plan.compileRules, Plan.compileRule,
    Plan.compileNested, Field.check, Schema.scopedKey, Extractor.initial, Extractor.ofRegistry,
    Settings.standard, path, below, bind, Except.bind, pure, Except.pure, Functor.map, Except.map]

theorem card_wellFormed {schema : Schema Nat} (distinct : schema.Distinct)
    (fields : schema ⊆ [holderRule, linksRule]) : schema.WellFormed ∧ schema.ProducerFree := by
  have either : ∀ entry ∈ schema, entry = holderRule ∨ entry = linksRule := by
    intro entry member
    simpa using fields member
  constructor
  · refine .intro distinct fun entry member inner nested => ?_
    obtain rfl | rfl := either entry member
    · cases nested
    · cases nested
      refine .intro (by decide) (List.forall_mem_singleton.2 ?_)
      rintro _ ⟨⟩
  · refine .intro (fun entry member next default => ?_) fun entry member inner nested => ?_
    · obtain rfl | rfl := either entry member
      · cases default
      · cases default
    · obtain rfl | rfl := either entry member
      · cases nested
      · cases nested
        refine .intro (List.forall_mem_singleton.2 ?_) (List.forall_mem_singleton.2 ?_)
        · rintro _ ⟨⟩
        · rintro _ ⟨⟩

/-- A card gives the same fields in both orders of its schema. -/
theorem card_in_both_orders :
    Schema.WellFormed [holderRule, linksRule] ∧ Schema.ProducerFree [holderRule, linksRule] ∧
      Schema.WellFormed [linksRule, holderRule] ∧ Schema.ProducerFree [linksRule, holderRule] ∧
      Gives (Extractor.extract (.initial .standard) [holderRule, linksRule] card) 0
        (.object [("holder", .string "Ada"), ("links", links)]) 0 ∧
      ∃ changed s', Gives (Extractor.extract (.initial .standard) [linksRule, holderRule] card) 0
          changed s' ∧
        changed.member? "holder" = some (.string "Ada") ∧ changed.member? "links" = some links := by
  obtain ⟨wellFormed, free⟩ := card_wellFormed (by decide)
    (List.Subset.refl [holderRule, linksRule])
  have reordered : List.Perm [linksRule, holderRule] [holderRule, linksRule] := .swap ..
  obtain ⟨sound, alsoFree⟩ := card_wellFormed (by decide) reordered.subset
  obtain ⟨_, _, _, gives, _, others⟩ :=
    fields_independent wellFormed free (.initial .standard) card
  obtain ⟨_, same, shared⟩ := others _ sound alsoFree
  have whole := (gives 0 (.object [("holder", .string "Ada"), ("links", links)]) 0).2
    ⟨rfl, [.string "Ada", links], rfl, .cons holder_alone (.cons links_alone .nil)⟩
  obtain ⟨changed, s', given⟩ := (same reordered 0).2 ⟨_, _, whole⟩
  have values := shared _ _ _ _ _ _ whole given
  obtain ⟨holder, here, there⟩ := values holderRule (by simp) (by simp)
  obtain ⟨linked, first, second⟩ := values linksRule (by simp) (by simp)
  cases here
  cases first
  exact ⟨wellFormed, free, sound, alsoFree, whole, changed, s', given, there, second⟩

end Extraction

end Reshape
