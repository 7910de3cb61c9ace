import Reshape.Proofs.Compilation
import Reshape.Proofs.Outcome

/-!
# What a result looks like

A result read off its plan, without the order of writes over a template:

* `Becomes` is what a field makes of one found value, `FallsBack` what it makes of none;
* `MembersConform`, `ValueConforms` and `Resolves` say which values a plan, an instruction and the
  values found by an instruction allow, level by level;
* `gives_run_iff`: the results of a well-formed plan are the objects whose members conform to it;
* `run_conforms`: a compiled plan gives an object with the keys of its schema in the order of the
  schema, filled as the plan says at every level.
-/

namespace Reshape.Extraction

variable {σ : Type}

/-! ## Members in the order of instructions -/

/-- The entry that an instruction writes. -/
def entry (registry : Registry) (settings : Settings) (document : Json)
    (instruction : Instruction σ) : Extraction σ (String × Json) :=
  (fun value => (instruction.key, value)) <$> evaluate registry settings document instruction

/-- The entries that instructions write, in order. -/
def entries (registry : Registry) (settings : Settings) (document : Json) (plan : Plan σ) :
    Extraction σ (List (String × Json)) :=
  plan.mapM (entry registry settings document)

variable {registry : Registry} {settings : Settings}

/-- What is written does not depend on what was there. -/
theorem fill_eq (document : Json) (plan : Plan σ) (result : Keyed Json) :
    fill registry settings document plan result =
      (fun written => result.insertAll written) <$> entries registry settings document plan := by
  induction plan generalizing result with
  | nil => simp [fill, entries]
  | cons instruction rest ih =>
    simp only [entries] at ih
    simp only [fill, entries, entry, List.mapM_cons, ih, map_eq_pure_bind, bind_assoc, pure_bind,
      Keyed.insertAll_cons]

theorem keys_of_entries {document : Json} {plan : Plan σ} {s s' : σ}
    {written : List (String × Json)}
    (h : Gives (entries registry settings document plan) s written s') :
    Keyed.keys written = plan.map Instruction.key := by
  have threaded := gives_mapM.1 h
  clear h
  induction threaded with
  | nil => rfl
  | cons first _ ih =>
    obtain ⟨value, rfl, _⟩ := gives_map.1 first
    simp [ih]

/-- Written over the template, the entries of a plan are the whole result. -/
theorem gives_fill {document : Json} {plan : Plan σ} (distinct : (plan.map Instruction.key).Nodup)
    {s s' : σ} {table : Keyed Json} :
    Gives (fill registry settings document plan plan.template) s table s' ↔
      Gives (entries registry settings document plan) s table s' := by
  -- The template holds the keys of the plan, each once, so writing replaces all of its slots.
  have written (ms : List (String × Json)) (t t' : σ)
      (h : Gives (entries registry settings document plan) t ms t') :
      plan.template.insertAll ms = ms := by
    have keys := keys_of_entries h
    apply Keyed.insertAll_eq
    · have slots :
          Keyed.keys (plan.map fun i => (i.key, i.field.slot)) = plan.map Instruction.key := by
        simp [Keyed.keys]
      rw [keys, Plan.template, Keyed.ofList_eq, slots]
      rwa [Keyed.Distinct, slots]
    · simpa [Keyed.Distinct, keys] using distinct
  rw [fill_eq, gives_map]
  constructor
  · rintro ⟨ms, rfl, h⟩
    rwa [written ms _ _ h]
  · intro h
    exact ⟨table, (written table _ _ h).symm, h⟩

theorem evaluate_eq (document : Json) (instruction : Instruction σ) :
    evaluate registry settings document instruction =
      match instruction.field.found document with
      | [] => absent instruction.field
      | found =>
        found.mapM (present registry settings instruction.field) >>= fun values =>
          gather registry settings instruction.scopedKey instruction.field.array
            instruction.field.nested values := by
  obtain ⟨key, scopedKey, ⟨path, fallback, modifiers, maps, array, nested⟩⟩ := instruction
  rfl

/-! ## What a plan allows -/

/-- A found value became `element`: a `null` gave way to a default of its own, and then modifiers
and maps changed it. -/
def Becomes {ν : Type} (registry : Registry) (settings : Settings) (field : Field σ Path ν) (s : σ)
    (found element : Json) (s' : σ) : Prop :=
  ∃ source,
    (if found = .null then field.fetchDefault s = (source, s') else source = found ∧ s' = s) ∧
      field.transform registry settings.strictModifiers source = .ok element

/-- Nothing was found: the value is the default as it was fetched, or what stands for the lack of
any value when that is `null`. -/
def FallsBack {ν : Type} (field : Field σ Path ν) (s : σ) (value : Json) (s' : σ) : Prop :=
  ∃ fetched, field.fetchDefault s = (fetched, s') ∧
    value =
      if fetched ≠ .null then fetched
      else if field.array then .array []
      else if field.nested.isSome then .object []
      else .null

mutual

/-- One member for each instruction, in order, under its key and with a value it allows. -/
def MembersConform (registry : Registry) (settings : Settings) :
    List (Instruction σ) → Json → σ → List (String × Json) → σ → Prop
  | [], _, s, members, s' => members = [] ∧ s' = s
  | instruction :: rest, document, s, members, s' =>
    ∃ value others between, members = (instruction.key, value) :: others ∧
      ValueConforms registry settings instruction document s value between ∧
      MembersConform registry settings rest document between others s'

/-- A value that an instruction allows, by how many values its path finds. -/
def ValueConforms (registry : Registry) (settings : Settings) :
    Instruction σ → Json → σ → Json → σ → Prop
  | ⟨_, _, ⟨path, fallback, modifiers, maps, array, nested⟩⟩, document, s, value, s' =>
    let field : Field σ Path (List (Instruction σ)) :=
      ⟨path, fallback, modifiers, maps, array, nested⟩
    ((field.found document).length = 0 → FallsBack field s value s') ∧
    (1 ≤ (field.found document).length → ∃ elements between,
      elements.length = (field.found document).length ∧
        Threads (Becomes registry settings field) s (field.found document) elements between ∧
        Resolves registry settings array nested between elements value s')

/-- A value that the elements of a field allow: without a nested plan the elements themselves, with
one an object for each element of an array field and for the first element of any other. -/
def Resolves (registry : Registry) (settings : Settings) (array : Bool) :
    Option (List (Instruction σ)) → σ → List Json → Json → σ → Prop
  | none, s, elements, value, s' =>
    s' = s ∧
    (array = true → value = .array elements) ∧
    (array = false → elements.length = 1 → elements = [value]) ∧
    (array = false → 2 ≤ elements.length →
      value = .array elements ∧ settings.cardinality = .sequence)
  | some plan, s, elements, value, s' =>
    (array = true → ∃ results, value = .array results ∧ results.length = elements.length ∧
      Threads (fun s element result s' => ∃ members, result = .object members ∧
        MembersConform registry settings plan element s members s') s elements results s') ∧
    (array = false → ∃ first rest members, elements = first :: rest ∧ value = .object members ∧
      MembersConform registry settings plan first s members s')

end

/-! ## Results are what plans allow -/

theorem isNull_iff {value : Json} : value.isNull = true ↔ value = .null := by
  cases value <;> simp [Json.isNull]

theorem gives_present {ν : Type} {field : Field σ Path ν} {found element : Json} {s s' : σ} :
    Gives (present registry settings field found) s element s' ↔
      Becomes registry settings field s found element s' := by
  unfold present Becomes
  by_cases h : found = .null
  · simp only [isNull_iff, if_pos h, gives_bind, gives_lift, gives_mk]
    constructor
    · rintro ⟨source, between, fetched, made, rfl⟩
      exact ⟨source, fetched, made⟩
    · rintro ⟨source, fetched, made⟩
      exact ⟨source, s', fetched, made, rfl⟩
  · simp only [isNull_iff, if_neg h, gives_bind, gives_pure, gives_mk]
    constructor
    · rintro ⟨source, between, ⟨rfl, rfl⟩, made, rfl⟩
      exact ⟨source, ⟨rfl, rfl⟩, made⟩
    · rintro ⟨source, ⟨rfl, rfl⟩, made⟩
      exact ⟨source, s', ⟨rfl, rfl⟩, made, rfl⟩

theorem gives_absent {ν : Type} {field : Field σ Path ν} {value : Json} {s s' : σ} :
    Gives (liftM (absent field)) s value s' ↔ FallsBack field s value s' := by
  rw [gives_lift]
  change (match field.fetchDefault s with
    | (fetched, between) => (if fetched.isNull then field.slot else fetched, between)) =
      (value, s') ↔
      ∃ fetched, field.fetchDefault s = (fetched, s') ∧ _
  obtain ⟨fetched, between⟩ := field.fetchDefault s
  simp only [isNull_iff, Field.slot, ne_eq, ite_not]
  constructor
  · intro h
    cases h
    exact ⟨fetched, rfl, rfl⟩
  · rintro ⟨_, same, rfl⟩
    cases same
    rfl

theorem collect_eq_ok {scopedKey : String} {array : Bool} {elements : List Json} {value : Json}
    (found : 1 ≤ elements.length) :
    collect settings scopedKey array elements = .ok value ↔
      (array = true → value = .array elements) ∧
      (array = false → elements.length = 1 → elements = [value]) ∧
      (array = false → 2 ≤ elements.length →
        value = .array elements ∧ settings.cardinality = .sequence) := by
  cases array with
  | true => simp [collect, eq_comm]
  | false =>
    match elements, found with
    | [element], _ => simp [collect]
    | first :: second :: rest, _ =>
      cases h : settings.cardinality with
      | sequence => simp [collect, h, eq_comm]
      | error => simp [collect, h]

/-- `ValueConforms` describes the values that an instruction gives. -/
def Described (registry : Registry) (settings : Settings) (instruction : Instruction σ) : Prop :=
  ∀ document s value s', Gives (evaluate registry settings document instruction) s value s' ↔
    ValueConforms registry settings instruction document s value s'

theorem gives_entries_iff {plan : Plan σ}
    (each : ∀ instruction ∈ plan, Described registry settings instruction) {document : Json}
    {s s' : σ} {members : List (String × Json)} :
    Gives (entries registry settings document plan) s members s' ↔
      MembersConform registry settings plan document s members s' := by
  induction plan generalizing s members with
  | nil => simp [entries, MembersConform]
  | cons instruction rest ih =>
    obtain ⟨first, others⟩ := List.forall_mem_cons.1 each
    simp only [entries] at ih
    simp only [entries, entry, List.mapM_cons, gives_bind, gives_map, gives_pure, MembersConform]
    constructor
    · rintro ⟨_, between, ⟨value, rfl, given⟩, later, _, rest, rfl, rfl⟩
      exact ⟨value, later, between, rfl, (first ..).1 given, (ih others).1 rest⟩
    · rintro ⟨value, later, between, rfl, given, rest⟩
      exact ⟨_, between, ⟨value, rfl, (first ..).2 given⟩, later, s', (ih others).2 rest, rfl, rfl⟩

theorem gives_fill_iff {plan : Plan σ} (wellFormed : plan.WellFormed)
    (each : ∀ instruction ∈ plan, Described registry settings instruction) {document : Json}
    {s s' : σ} {members : List (String × Json)} :
    Gives (fill registry settings document plan plan.template) s members s' ↔
      MembersConform registry settings plan document s members s' := by
  cases wellFormed with
  | intro distinct _ => rw [gives_fill distinct, gives_entries_iff each]

theorem gives_gather_iff {scopedKey : String} {array : Bool} {nested : Option (Plan σ)}
    (wellFormed : ∀ plan, nested = some plan → plan.WellFormed)
    (each : ∀ plan, nested = some plan → ∀ inner ∈ plan, Described registry settings inner)
    {elements : List Json} (found : 1 ≤ elements.length) {s s' : σ} {value : Json} :
    Gives (gather registry settings scopedKey array nested elements) s value s' ↔
      Resolves registry settings array nested s elements value s' := by
  cases nested with
  | none => simp only [gather, Resolves, gives_mk, collect_eq_ok found, and_comm]
  | some plan =>
    have below (element : Json) (s : σ) (members : List (String × Json)) (s' : σ) :
        Gives (fill registry settings element plan plan.template) s members s' ↔
          MembersConform registry settings plan element s members s' :=
      gives_fill_iff (wellFormed plan rfl) (each plan rfl)
    cases array with
    | true =>
      simp only [gather, if_true, gives_bind, gives_mapM, gives_pure, below, Resolves, threads_map]
      constructor
      · rintro ⟨objects, _, threaded, rfl, rfl⟩
        refine ⟨fun _ => ⟨_, rfl, ?_, objects, rfl, threaded⟩, fun h => ?_⟩
        · simp [threaded.length_eq]
        · cases h
      · rintro ⟨h, _⟩
        obtain ⟨_, rfl, _, objects, rfl, threaded⟩ := h trivial
        exact ⟨objects, s', threaded, rfl, rfl⟩
    | false =>
      obtain ⟨first, rest, rfl⟩ := List.exists_cons_of_length_pos found
      simp only [gather, if_false, Bool.false_eq_true, gives_map, below, Resolves]
      constructor
      · rintro ⟨members, rfl, conforms⟩
        exact ⟨False.elim, fun _ => ⟨first, rest, members, rfl, rfl, conforms⟩⟩
      · rintro ⟨_, h⟩
        obtain ⟨_, _, members, same, rfl, conforms⟩ := h trivial
        obtain ⟨rfl, rfl⟩ := List.cons.inj same
        exact ⟨members, rfl, conforms⟩

/-- The plan nested in an instruction, if any, holds no key twice. -/
def NestsWellFormed (instruction : Instruction σ) : Prop :=
  ∀ plan : Plan σ, instruction.field.nested = some plan → plan.WellFormed

theorem described (instruction : Instruction σ) :
    NestsWellFormed instruction → Described registry settings instruction := by
  induction instruction using Instruction.induction with
  | step instruction ih =>
    intro wellFormed document s value s'
    have each (plan : Plan σ) (nested : instruction.field.nested = some plan) :
        ∀ inner ∈ plan, Described registry settings inner := by
      intro inner member
      cases wellFormed plan nested with
      | intro _ below => exact ih plan nested inner member (below inner member)
    rw [evaluate_eq]
    obtain ⟨key, scopedKey, ⟨path, fallback, modifiers, maps, array, nested⟩⟩ := instruction
    simp only [ValueConforms]
    split
    · rename_i none_found
      rw [gives_absent, none_found]
      simp
    · rename_i some_found
      have found :
          1 ≤ (Field.found ⟨path, fallback, modifiers, maps, array, nested⟩ document).length :=
        List.length_pos_iff.2 some_found
      rw [gives_bind]
      simp only [gives_mapM, gives_present]
      constructor
      · rintro ⟨elements, between, threaded, gathered⟩
        refine ⟨fun h => by omega, fun _ => ⟨elements, between, threaded.length_eq, threaded, ?_⟩⟩
        have many : 1 ≤ elements.length := threaded.length_eq ▸ found
        exact (gives_gather_iff wellFormed each many).1 gathered
      · rintro ⟨_, h⟩
        obtain ⟨elements, between, same, threaded, resolved⟩ := h found
        exact ⟨elements, between, threaded,
          (gives_gather_iff wellFormed each (by omega)).2 resolved⟩

/-- The results of a plan without repeated keys are the objects whose members conform to it. -/
theorem gives_run_iff {plan : Plan σ} (wellFormed : plan.WellFormed) {document result : Json}
    {s s' : σ} :
    Gives (plan.run registry settings document) s result s' ↔
      ∃ members, result = .object members ∧
        MembersConform registry settings plan document s members s' := by
  have each : ∀ instruction ∈ plan, Described registry settings instruction := by
    intro instruction member
    cases wellFormed with
    | intro _ below => exact described instruction (below instruction member)
  simp only [Plan.run, gives_map, gives_fill_iff wellFormed each]

theorem keys_of_membersConform {plan : Plan σ} {document : Json} {s s' : σ}
    {members : List (String × Json)}
    (h : MembersConform registry settings plan document s members s') :
    Keyed.keys members = plan.map Instruction.key := by
  induction plan generalizing s members with
  | nil => obtain ⟨rfl, _⟩ := h; rfl
  | cons instruction rest ih =>
    obtain ⟨value, others, between, rfl, _, later⟩ := h
    simp [ih later]

/-- A compiled plan gives an object with the keys of its schema, in the order of the schema, filled
as the plan says at every level; and the plan mirrors the schema at every level. -/
theorem run_conforms {schema : Schema σ} {limit : Nat} {plan : Plan σ} {document result : Json}
    {s s' : σ} (wellFormed : schema.WellFormed) (compiled : Plan.compile limit schema = .ok plan)
    (given : Gives (plan.run registry settings document) s result s') :
    Plan.Mirrors plan schema ∧ ∃ members, result = .object members ∧
      Keyed.keys members = schema.keys ∧
      MembersConform registry settings plan document s members s' := by
  have mirrors := Plan.mirrors_of_compile compiled
  obtain ⟨members, rfl, conforms⟩ :=
    (gives_run_iff (Plan.wellFormed_of_mirrors wellFormed mirrors)).1 given
  refine ⟨mirrors, members, rfl, ?_, conforms⟩
  rw [keys_of_membersConform conforms, Plan.keys_of_mirrors mirrors]

/-! ## A run that counts -/

/-- A default that counts its uses. -/
def counted : Default Nat := .producer fun count => (.ofNat count, count + 1)

/-- The names of friends under a modifier, and a number that is made anew each time. -/
def friendRules (modifier : String) : Schema Nat :=
  [("friends", .record ⟨some "$.friends[*]", none, [], [], true,
      some [("name", .record ⟨some "$.name", none, [.named modifier], [], false, none⟩)]⟩),
   ("id", .record ⟨none, some counted, [], [], false, none⟩)]

def friendPlan (modifier : String) : Plan Nat :=
  [⟨"friends", "friends",
    ⟨some (.simple "$.friends[*]" [.key "friends", .every]), none, [], [], true,
      some [⟨"name", "friends.name",
        ⟨some (.simple "$.name" [.key "name"]), none, [.named modifier], [], false, none⟩⟩]⟩⟩,
   ⟨"id", "id", ⟨none, some counted, [], [], false, none⟩⟩]

/-- A friend with a name and one without. -/
def friends : Json :=
  .object [("friends", .array [.object [("name", .string "Ada")], .object []])]

def friendResult (count : Nat) : Json :=
  .object
    [("friends", .array [.object [("name", .string "ada")], .object [("name", .null)]]),
     ("id", .ofNat count)]

theorem friendRules_wellFormed (modifier : String) : (friendRules modifier).WellFormed := by
  refine .intro (by simp [friendRules, Keyed.Distinct]) ?_
  intro entry member inner nested
  simp only [friendRules, List.mem_cons, List.not_mem_nil, or_false] at member
  obtain rfl | rfl := member
  · cases nested
    refine .intro (by simp [Keyed.Distinct]) ?_
    intro entry member inner nested
    obtain rfl := List.mem_singleton.1 member
    cases nested
  · cases nested

theorem friendRules_compile {modifier : String} (named : Text.isBlankText modifier = false) :
    Plan.compile 32 (friendRules modifier) = .ok (friendPlan modifier) := by
  have outer : Path.compile "$.friends[*]" =
      .ok (.simple "$.friends[*]" [.key "friends", .every]) :=
    Path.compile_written (by simp) (by decide) rfl
  have inner : Path.compile "$.name" = .ok (.simple "$.name" [.key "name"]) :=
    Path.compile_written (by simp) (by decide) rfl
  simp [friendRules, friendPlan, Plan.compile, Plan.compileRules, Plan.compileRule,
    Plan.compileNested, Field.check, Modifier.validate, Modifier.name?, Schema.scopedKey, named,
    outer, inner, bind, Except.bind, pure, Except.pure, Functor.map, Except.map]

theorem friends_conform :
    (friendRules "downcase").WellFormed ∧
      Plan.compile 32 (friendRules "downcase") = .ok (friendPlan "downcase") ∧
      Gives ((friendPlan "downcase").run .initial .standard friends) 7 (friendResult 7) 8 ∧
      Plan.Mirrors (friendPlan "downcase") (friendRules "downcase") ∧
      ∃ members, friendResult 7 = .object members ∧
        Keyed.keys members = (friendRules "downcase").keys ∧
        MembersConform .initial .standard (friendPlan "downcase") friends 7 members 8 := by
  have wellFormed := friendRules_wellFormed "downcase"
  have compiled : Plan.compile 32 (friendRules "downcase") = .ok (friendPlan "downcase") :=
    friendRules_compile (by decide)
  have given : Gives ((friendPlan "downcase").run .initial .standard friends) 7
      (friendResult 7) 8 := by
    decide +kernel
  exact ⟨wellFormed, compiled, given, run_conforms wellFormed compiled given⟩

end Reshape.Extraction
