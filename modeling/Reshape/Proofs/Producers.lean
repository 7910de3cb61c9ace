import Reshape.Proofs.Supply

/-!
# What a plan calls

The calls of producers of defaults that a plan makes, in the order in which it makes them:

* `planScript`: instructions come one after another, the uses of a field before its nested runs;
* `performs_run`: the runs of a plan follow this script;
* `employs_of_runScript`: it calls the producers of the plan and of those nested in it only.
-/

namespace Reshape.Extraction

variable {σ : Type} {registry : Registry} {settings : Settings}

/-- Nothing was found: one use of the default, whatever the rest of the field. -/
def absentScript {π ν : Type} (field : Field σ π ν) : Script σ Json :=
  (useScript field.default).map fun answer => if answer.isNull then field.slot else answer

mutual

/-- What the instructions of a plan do with a document, one after another. -/
def planScript (registry : Registry) (settings : Settings) (document : Json) :
    List (Instruction σ) → Script σ (List (String × Json))
  | [] => Script.result (.ok [])
  | instruction :: rest =>
    (instructionScript registry settings document instruction).andThen fun value =>
      (planScript registry settings document rest).map ((instruction.key, value) :: ·)

/-- What an instruction does with a document: the uses of its own default come first. -/
def instructionScript (registry : Registry) (settings : Settings) (document : Json) :
    Instruction σ → Script σ Json
  | ⟨_, scopedKey, ⟨path, fallback, modifiers, maps, array, nested⟩⟩ =>
    let field : Field σ Path (List (Instruction σ)) :=
      ⟨path, fallback, modifiers, maps, array, nested⟩
    match field.found document with
    | [] => absentScript field
    | found =>
      (elementsScript registry settings field found).andThen fun elements =>
        nestedScript registry settings scopedKey array nested elements

/-- What the values of a field make: a nested plan runs on each of them for a list, in order, and on
the first of them otherwise. -/
def nestedScript (registry : Registry) (settings : Settings) (scopedKey : String) (array : Bool) :
    Option (List (Instruction σ)) → List Json → Script σ Json
  | none, elements => Script.result (collect settings scopedKey array elements)
  | some plan, elements =>
    if array then
      (Script.each (fun element => planScript registry settings element plan) elements).map
        fun tables => .array (tables.map .object)
    else
      match elements with
      | [] => Script.result (.ok (.object []))
      | element :: _ => (planScript registry settings element plan).map .object

end

theorem instructionScript_eq (document : Json) (instruction : Instruction σ) :
    instructionScript registry settings document instruction =
      match instruction.field.found document with
      | [] => absentScript instruction.field
      | found =>
        (elementsScript registry settings instruction.field found).andThen fun elements =>
          nestedScript registry settings instruction.scopedKey instruction.field.array
            instruction.field.nested elements := by
  obtain ⟨key, scopedKey, ⟨path, fallback, modifiers, maps, array, nested⟩⟩ := instruction
  rfl

/-- What the run of a plan on a document does. -/
def runScript (registry : Registry) (settings : Settings) (plan : Plan σ) (document : Json) :
    Script σ Json :=
  (planScript registry settings document plan).map .object

theorem performs_absent {π ν : Type} (field : Field σ π ν) :
    Performs (liftM (absent field)) (absentScript field) := by
  have same : (liftM (absent field) : Extraction σ Json) =
      (fun answer => if answer.isNull then field.slot else answer) <$>
        liftM field.fetchDefault := rfl
  rw [same]
  exact (performs_fetch field).map

/-- Filling the slots of its template, a plan does what its instructions do. -/
theorem fill_template {plan : Plan σ} (distinct : (plan.map Instruction.key).Nodup)
    (document : Json) :
    fill registry settings document plan plan.template =
      entries registry settings document plan := by
  funext s
  obtain ⟨table, s', given⟩ | ⟨e, s', failed⟩ :=
    gives_or_fails (entries registry settings document plan) s
  · exact ((gives_fill distinct).2 given).trans given.symm
  · have stopped : Fails (fill registry settings document plan plan.template) s e s' := by
      rw [fill_eq]
      exact fails_map.2 failed
    exact stopped.trans failed.symm

theorem entries_cons (document : Json) (instruction : Instruction σ) (rest : Plan σ) :
    entries registry settings document (instruction :: rest) =
      evaluate registry settings document instruction >>= fun value =>
        ((instruction.key, value) :: ·) <$> entries registry settings document rest := by
  simp only [entries, entry, List.mapM_cons, map_eq_pure_bind, bind_assoc, pure_bind]

/-- An instruction follows its script on every document. -/
def Scripted (registry : Registry) (settings : Settings) (instruction : Instruction σ) : Prop :=
  ∀ document, Performs (evaluate registry settings document instruction)
    (instructionScript registry settings document instruction)

theorem performs_entries {plan : Plan σ}
    (each : ∀ instruction ∈ plan, Scripted registry settings instruction) (document : Json) :
    Performs (entries registry settings document plan)
      (planScript registry settings document plan) := by
  induction plan with
  | nil => exact performs_pure []
  | cons instruction rest ih =>
    obtain ⟨first, others⟩ := List.forall_mem_cons.1 each
    rw [entries_cons]
    exact (first document).bind fun value => (ih others).map

theorem performs_fill {plan : Plan σ} (wellFormed : plan.WellFormed)
    (each : ∀ instruction ∈ plan, Scripted registry settings instruction) (document : Json) :
    Performs (fill registry settings document plan plan.template)
      (planScript registry settings document plan) := by
  cases wellFormed with
  | intro distinct _ =>
    rw [fill_template distinct]
    exact performs_entries each document

theorem performs_gather {nested : Option (Plan σ)}
    (wellFormed : ∀ plan, nested = some plan → plan.WellFormed)
    (each : ∀ plan, nested = some plan → ∀ inner ∈ plan, Scripted registry settings inner)
    (scopedKey : String) (array : Bool) (elements : List Json) :
    Performs (gather registry settings scopedKey array nested elements)
      (nestedScript registry settings scopedKey array nested elements) := by
  cases nested with
  | none => exact performs_mk _
  | some plan =>
    have below := performs_fill (wellFormed plan rfl) (each plan rfl)
    cases array with
    | true =>
      simp only [gather, nestedScript, if_true, bind_pure_comp]
      exact (Performs.each below elements).map
    | false =>
      simp only [gather, nestedScript, Bool.false_eq_true, if_false]
      cases elements with
      | nil => exact performs_pure _
      | cons element _ => exact (below element).map

theorem scripted (instruction : Instruction σ) :
    NestsWellFormed instruction → Scripted registry settings instruction := by
  induction instruction using Instruction.induction with
  | step instruction ih =>
    intro wellFormed document
    have each (plan : Plan σ) (nested : instruction.field.nested = some plan) :
        ∀ inner ∈ plan, Scripted registry settings inner := by
      intro inner member
      cases wellFormed plan nested with
      | intro _ below => exact ih plan nested inner member (below inner member)
    rw [evaluate_eq, instructionScript_eq]
    cases instruction.field.found document with
    | nil => exact performs_absent instruction.field
    | cons first rest =>
      exact (performs_elements instruction.field (first :: rest)).bind fun elements =>
        performs_gather wellFormed each instruction.scopedKey instruction.field.array elements

/-- From every state, a run of a plan makes the calls of its script and no others. -/
theorem performs_run {plan : Plan σ} (wellFormed : plan.WellFormed) (document : Json) :
    Performs (plan.run registry settings document) (runScript registry settings plan document) := by
  have each : ∀ instruction ∈ plan, Scripted registry settings instruction := by
    intro instruction member
    cases wellFormed with
    | intro _ below => exact scripted instruction (below instruction member)
  exact (performs_fill wellFormed each document).map

/-! ## Only the producers of the plan -/

/-- The producer is the default of an instruction of the plan or of a plan nested in it. -/
inductive Employs (producer : StateM σ Json) : Plan σ → Prop where
  | own {plan : Plan σ} {instruction : Instruction σ} (member : instruction ∈ plan)
      (default : instruction.field.default = some (.producer producer)) : Employs producer plan
  | nested {plan inner : Plan σ} {instruction : Instruction σ} (member : instruction ∈ plan)
      (nests : instruction.field.nested = some inner) (below : Employs producer inner) :
      Employs producer plan

theorem producer_of_supplies {fallback : Option (Default σ)} {answers : List Json}
    {calls : List (Call σ)} (h : Supplies fallback answers calls) {call : Call σ}
    (member : call ∈ calls) : fallback = some (.producer call.producer) := by
  unfold Supplies at h
  split at h
  · subst h
    obtain ⟨answer, _, rfl⟩ := List.mem_map.1 member
    rfl
  · rw [h.1] at member
    cases member
  · rw [h.1] at member
    cases member

/-- A call of a producer of this instruction or of a plan nested in it. -/
def Own (instruction : Instruction σ) (call : Call σ) : Prop := Employs call.producer [instruction]

theorem within_absent (instruction : Instruction σ) :
    (absentScript instruction.field).Within (Own instruction) := by
  refine Script.Within.map ?_
  rintro calls _ ⟨answer, supplied, rfl⟩ call member
  exact .own List.mem_cons_self (producer_of_supplies supplied member)

theorem within_elements (instruction : Instruction σ) (found : List Json) :
    (elementsScript registry settings instruction.field found).Within (Own instruction) := by
  intro calls o made call member
  cases o with
  | ok elements =>
    obtain ⟨answers, _, supplied, _⟩ := made
    exact .own List.mem_cons_self (producer_of_supplies supplied member)
  | error e =>
    obtain ⟨_, _, _, answers, _, _, _, supplied, _⟩ := made
    exact .own List.mem_cons_self (producer_of_supplies supplied member)

theorem Employs.of_mem {producer : StateM σ Json} {plan : Plan σ} {instruction : Instruction σ}
    (member : instruction ∈ plan) (h : Employs producer [instruction]) : Employs producer plan := by
  cases h with
  | own single default =>
    cases List.mem_singleton.1 single
    exact .own member default
  | nested single nests below =>
    cases List.mem_singleton.1 single
    exact .nested member nests below

theorem within_plan {property : Call σ → Prop} {plan : Plan σ} {document : Json}
    (each : ∀ instruction ∈ plan,
      (instructionScript registry settings document instruction).Within property) :
    (planScript registry settings document plan).Within property := by
  induction plan with
  | nil => exact Script.within_result _
  | cons instruction rest ih =>
    obtain ⟨first, others⟩ := List.forall_mem_cons.1 each
    exact first.andThen fun _ => (ih others).map

theorem within_nested {property : Call σ → Prop} {nested : Option (Plan σ)}
    (each : ∀ plan, nested = some plan → ∀ document,
      (planScript registry settings document plan).Within property)
    (scopedKey : String) (array : Bool) (elements : List Json) :
    (nestedScript registry settings scopedKey array nested elements).Within property := by
  cases nested with
  | none => exact Script.within_result _
  | some plan =>
    cases array with
    | true => exact (Script.Within.each (each plan rfl) elements).map
    | false =>
      cases elements with
      | nil => exact Script.within_result _
      | cons element _ => exact (each plan rfl element).map

theorem within_instruction (instruction : Instruction σ) (document : Json) :
    (instructionScript registry settings document instruction).Within (Own instruction) := by
  induction instruction using Instruction.induction generalizing document with
  | step instruction ih =>
    have below (plan : Plan σ) (nests : instruction.field.nested = some plan) (document : Json) :
        (planScript registry settings document plan).Within (Own instruction) := by
      refine within_plan fun inner member calls o made call present => ?_
      have own := ih plan nests inner member document calls o made call present
      exact .nested List.mem_cons_self nests (own.of_mem member)
    rw [instructionScript_eq]
    cases instruction.field.found document with
    | nil => exact within_absent instruction
    | cons first rest =>
      exact (within_elements instruction (first :: rest)).andThen fun elements =>
        within_nested below instruction.scopedKey instruction.field.array elements

/-- Every call of a run is one of a producer of the plan. -/
theorem employs_of_runScript {plan : Plan σ} {document : Json} {calls : List (Call σ)}
    {o : Except Error Json} (made : runScript registry settings plan document calls o)
    {call : Call σ} (member : call ∈ calls) : Employs call.producer plan := by
  have each : ∀ instruction ∈ plan,
      (instructionScript registry settings document instruction).Within
        fun call => Employs call.producer plan := by
    intro instruction present others p also call member
    exact (within_instruction instruction document others p also call member).of_mem present
  exact (within_plan each).map calls o made call member

end Reshape.Extraction
