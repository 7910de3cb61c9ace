import Reshape.Proofs.Producers

/-!
# Counters

A producer that counts its uses hands out consecutive values, whatever plan uses it and however many
runs there are:

* `Counter`: a producer, the part of the state that it counts in, and what it makes of a count;
* `counts`: calls hand out consecutive values, if no other producer among them touches the count;
* `gives_values`, `fails_values`: the nulls that a field finds get consecutive values, in order, up
  to the value that cannot be changed;
* `producers_called_once_per_use` puts this together with the calls of a plan, for runs in sequence.
-/

namespace Reshape.Extraction

open Call (Answered)

variable {σ : Type} {registry : Registry} {settings : Settings}

/-- A producer that makes a value of a count in the state and adds one to it. -/
structure Counter (σ : Type) where
  producer : StateM σ Json
  count : σ → Nat
  value : Nat → Json
  answers (s : σ) : (producer s).1 = value (count s)
  advances (s : σ) : count (producer s).2 = count s + 1

namespace Counter

variable (counter : Counter σ)

/-- The other producer leaves the count alone. -/
def Spared (other : StateM σ Json) : Prop := ∀ s, counter.count (other s).2 = counter.count s

/-- So many values in a row, from a count on. -/
def values (start length : Nat) : List Json := (List.range' start length).map counter.value

open Classical in
/-- The answers of the counter among those of all calls. -/
noncomputable def handed (calls : List (Call σ)) : List Json :=
  (calls.filter fun call => call.producer = counter.producer).map Call.answer

variable {counter}

theorem values_succ (start length : Nat) :
    counter.values start (length + 1) =
      counter.value start :: counter.values (start + 1) length := rfl

theorem handed_own {call : Call σ} (h : call.producer = counter.producer) (rest : List (Call σ)) :
    counter.handed (call :: rest) = call.answer :: counter.handed rest := by
  simp [handed, h]

theorem handed_other {call : Call σ} (h : call.producer ≠ counter.producer)
    (rest : List (Call σ)) : counter.handed (call :: rest) = counter.handed rest := by
  simp [handed, h]

theorem handed_calls (answers : List Json) :
    counter.handed (answers.map (Call.mk counter.producer)) = answers := by
  induction answers with
  | nil => rfl
  | cons answer rest ih => rw [List.map_cons, handed_own rfl, ih]

/-- A call of the counter answers with the value of the count and adds one to it. -/
theorem call_eq {s between : σ} {answer : Json} (h : counter.producer s = (answer, between)) :
    answer = counter.value (counter.count s) ∧ counter.count between = counter.count s + 1 := by
  have made := counter.answers s
  have moved := counter.advances s
  rw [h] at made moved
  exact ⟨made, moved⟩

/-- Among calls of producers that leave the count alone, the calls of the counter hand out
consecutive values, and the count moves on by their number. -/
theorem counts {calls : List (Call σ)} {s s' : σ} (answered : Answered calls s s')
    (others : ∀ call ∈ calls, call.producer = counter.producer ∨ counter.Spared call.producer) :
    counter.handed calls = counter.values (counter.count s) (counter.handed calls).length ∧
      counter.count s' = counter.count s + (counter.handed calls).length := by
  induction calls generalizing s with
  | nil => exact ⟨rfl, congrArg counter.count answered⟩
  | cons call rest ih =>
    obtain ⟨between, here, later⟩ := answered
    obtain ⟨first, further⟩ := List.forall_mem_cons.1 others
    obtain ⟨listed, moved⟩ := ih later further
    by_cases own : call.producer = counter.producer
    · rw [own] at here
      obtain ⟨made, one⟩ := call_eq here
      rw [one] at listed moved
      rw [handed_own own, List.length_cons, values_succ, ← listed, ← made, moved]
      exact ⟨rfl, by omega⟩
    · have untouched : counter.count between = counter.count s := by
        have spared := first.resolve_left own s
        rwa [here] at spared
      rw [untouched] at listed moved
      rw [handed_other own]
      exact ⟨listed, moved⟩

/-- Uses of a default that is the counter get consecutive values. -/
theorem values_of_supplies {fallback : Option (Default σ)} {answers : List Json}
    {calls : List (Call σ)} {s s' : σ} (counted : fallback = some (.producer counter.producer))
    (supplied : Supplies fallback answers calls) (answered : Answered calls s s') :
    answers = counter.values (counter.count s) answers.length ∧
      counter.count s' = counter.count s + answers.length := by
  subst counted
  have made : calls = answers.map (Call.mk counter.producer) := supplied
  subst made
  have own : ∀ call ∈ answers.map (Call.mk counter.producer),
      call.producer = counter.producer ∨ counter.Spared call.producer := by
    intro call member
    obtain ⟨answer, _, rfl⟩ := List.mem_map.1 member
    exact .inl rfl
  simpa only [handed_calls] using counts answered own

end Counter

/-! ## The nulls of a field -/

section

variable {ν : Type} {field : Field σ Path ν} {found : List Json} {counter : Counter σ} {s s' : σ}

/-- The nulls among the values that a field finds get consecutive values, in order. -/
theorem gives_values (counted : field.default = some (.producer counter.producer))
    {elements : List Json}
    (given : Gives (found.mapM (present registry settings field)) s elements s') :
    (supply found (counter.values (counter.count s) (nulls found))).mapM
        (field.transform registry settings.strictModifiers) = .ok elements ∧
      counter.count s' = counter.count s + nulls found := by
  obtain ⟨calls, ⟨answers, enough, supplied, made⟩, answered⟩ :=
    (performs_elements field found).outcome_eq_iff.1 given
  obtain ⟨listed, moved⟩ := Counter.values_of_supplies counted supplied answered
  rw [enough] at listed moved
  rw [← listed]
  exact ⟨made, moved⟩

/-- A field that finds nothing uses the counter once. -/
theorem gives_value {instruction : Instruction σ}
    (counted : instruction.field.default = some (.producer counter.producer)) {document : Json}
    (none_found : instruction.field.found document = []) (s : σ) :
    ∃ s', Gives (evaluate registry settings document instruction) s
        (if (counter.value (counter.count s)).isNull then instruction.field.slot
          else counter.value (counter.count s)) s' ∧
      counter.count s' = counter.count s + 1 := by
  have fetched : instruction.field.fetchDefault s =
      (counter.value (counter.count s), (counter.producer s).2) := by
    rw [Field.fetchDefault, counted, ← counter.answers s]
    rfl
  refine ⟨(counter.producer s).2, ?_, counter.advances s⟩
  rw [evaluate_eq, none_found]
  refine gives_absent.2 ⟨_, fetched, ?_⟩
  simp only [isNull_iff, ne_eq, ite_not, Field.slot]

/-- Where a value cannot be changed, the nulls up to it, itself included, have got consecutive
values, and those after it none. -/
theorem fails_values (counted : field.default = some (.producer counter.producer)) {e : Error}
    (failed : Fails (found.mapM (present registry settings field)) s e s') :
    ∃ before element after done, found = before ++ element :: after ∧
      (supply before (counter.values (counter.count s) (nulls (before ++ [element])))).mapM
        (field.transform registry settings.strictModifiers) = .ok done ∧
      (supply (before ++ [element])
        (counter.values (counter.count s) (nulls (before ++ [element])))).mapM
          (field.transform registry settings.strictModifiers) = .error e ∧
      counter.count s' = counter.count s + nulls (before ++ [element]) := by
  obtain ⟨calls, ⟨before, element, after, answers, done, rfl, enough, supplied, made, stopped⟩,
    answered⟩ := (performs_elements field found).outcome_eq_iff.1 failed
  obtain ⟨listed, moved⟩ := Counter.values_of_supplies counted supplied answered
  rw [enough] at listed moved
  rw [listed] at made stopped
  exact ⟨before, element, after, done, rfl, made, stopped, moved⟩

end

/-! ## Runs in sequence -/

/-- The run of a plan on a document makes these calls and comes to this outcome. -/
def Made (registry : Registry) (settings : Settings) (plan : Plan σ) (s : σ) (document : Json)
    (run : List (Call σ) × Except Error Json) (s' : σ) : Prop :=
  outcome (plan.run registry settings document) s = (run.2, s') ∧
    runScript registry settings plan document run.1 run.2 ∧ Answered run.1 s s'

variable {plan : Plan σ}

theorem exists_made (wellFormed : plan.WellFormed) (document : Json) (s : σ) :
    ∃ run s', Made registry settings plan s document run s' := by
  obtain ⟨calls, made, answered⟩ := (performs_run wellFormed document).made s
  exact ⟨(calls, _), _, rfl, made, answered⟩

theorem exists_runs (registry : Registry) (settings : Settings) (wellFormed : plan.WellFormed)
    (documents : List Json) (s : σ) :
    ∃ runs s', Threads (Made registry settings plan) s documents runs s' := by
  induction documents generalizing s with
  | nil => exact ⟨[], s, .nil s⟩
  | cons document rest ih =>
    obtain ⟨run, between, made⟩ := exists_made wellFormed document s
    obtain ⟨runs, s', others⟩ := ih between
    exact ⟨run :: runs, s', .cons made others⟩

/-- The calls of runs in sequence are made in sequence. -/
theorem answered_runs {documents : List Json} {runs : List (List (Call σ) × Except Error Json)}
    {s s' : σ} (h : Threads (Made registry settings plan) s documents runs s') :
    Answered (runs.flatMap Prod.fst) s s' := by
  induction h with
  | nil => rfl
  | cons made _ ih => exact Call.answered_append.2 ⟨_, made.2.2, ih⟩

theorem employs_of_runs {documents : List Json} {runs : List (List (Call σ) × Except Error Json)}
    {s s' : σ} (h : Threads (Made registry settings plan) s documents runs s') :
    ∀ call ∈ runs.flatMap Prod.fst, Employs call.producer plan := by
  induction h with
  | nil => nofun
  | cons made _ ih =>
    intro call member
    obtain here | later := List.mem_append.1 member
    · exact employs_of_runScript made.2.1 here
    · exact ih call later

/-- Runs in sequence, each of which moves the count on by its own calls of the counter. -/
theorem exists_counted_runs (registry : Registry) (settings : Settings) {counter : Counter σ}
    (wellFormed : plan.WellFormed)
    (spared : ∀ producer, Employs producer plan →
      producer = counter.producer ∨ counter.Spared producer) (documents : List Json) (s : σ) :
    ∃ runs s',
      Threads (fun s document run s' => Made registry settings plan s document run s' ∧
        counter.count s' = counter.count s + (counter.handed run.1).length) s documents runs s' ∧
      counter.handed (runs.flatMap Prod.fst) =
        counter.values (counter.count s) (counter.count s' - counter.count s) := by
  obtain ⟨runs, s', threaded⟩ := exists_runs registry settings wellFormed documents s
  obtain ⟨listed, moved⟩ := counter.counts (answered_runs threaded) fun call member =>
    spared _ (employs_of_runs threaded call member)
  have each := threaded.imp fun made => And.intro made (counter.counts made.2.2 fun call member =>
    spared _ (employs_of_runScript made.2.1 member)).2
  refine ⟨runs, s', each, ?_⟩
  rw [moved, Nat.add_sub_cancel_left]
  exact listed

/-- **Producers are called once per use.** Every run of a compiled plan makes just the calls of its
script, in order. Hence a counter hands out consecutive values over any number of runs, each of
which takes up where the one before it stopped, and without repetition if it never makes one value
twice. A field that finds nothing takes one value of it; the nulls that a field finds take one each,
in order, up to the value at which a change fails, if any: its own use comes before the change. -/
theorem producers_called_once_per_use {schema : Schema σ} {limit : Nat}
    (wellFormed : schema.WellFormed) (compiled : Plan.compile limit schema = .ok plan)
    (registry : Registry) (settings : Settings) :
    (∀ document, Performs (plan.run registry settings document)
      (runScript registry settings plan document)) ∧
    ∀ counter : Counter σ, (∀ producer, Employs producer plan →
        producer = counter.producer ∨ counter.Spared producer) →
      (∀ documents s, ∃ runs s',
        Threads (fun s document run s' => Made registry settings plan s document run s' ∧
          counter.count s' = counter.count s + (counter.handed run.1).length) s documents runs s' ∧
        counter.handed (runs.flatMap Prod.fst) =
          counter.values (counter.count s) (counter.count s' - counter.count s) ∧
        (counter.value.Injective → (counter.handed (runs.flatMap Prod.fst)).Nodup)) ∧
      ∀ (instruction : Instruction σ) document s,
        instruction.field.default = some (.producer counter.producer) →
        let found := instruction.field.found document
        let change := instruction.field.transform registry settings.strictModifiers
        (found = [] → ∃ s', Gives (evaluate registry settings document instruction) s
            (if (counter.value (counter.count s)).isNull then instruction.field.slot
              else counter.value (counter.count s)) s' ∧
          counter.count s' = counter.count s + 1) ∧
        (∀ elements s', Gives (found.mapM (present registry settings instruction.field)) s
            elements s' →
          (supply found (counter.values (counter.count s) (nulls found))).mapM change =
            .ok elements ∧
          counter.count s' = counter.count s + nulls found) ∧
        (∀ e s', Fails (found.mapM (present registry settings instruction.field)) s e s' →
          ∃ before element after done, found = before ++ element :: after ∧
            (supply before (counter.values (counter.count s) (nulls (before ++ [element])))).mapM
              change = .ok done ∧
            (supply (before ++ [element])
              (counter.values (counter.count s) (nulls (before ++ [element])))).mapM change =
                .error e ∧
            counter.count s' = counter.count s + nulls (before ++ [element])) := by
  have sound := Plan.wellFormed_of_mirrors wellFormed (Plan.mirrors_of_compile compiled)
  refine ⟨performs_run sound, fun counter spared => ⟨fun documents s => ?_, ?_⟩⟩
  · obtain ⟨runs, s', threaded, listed⟩ :=
      exists_counted_runs registry settings sound spared documents s
    refine ⟨runs, s', threaded, listed, fun injective => ?_⟩
    rw [listed]
    refine List.Pairwise.map counter.value ?_ List.nodup_range'
    exact fun _ _ other same => other (injective same)
  · intro instruction document s counted
    exact ⟨fun none_found => gives_value counted none_found s,
      fun _ _ given => gives_values counted given, fun _ _ failed => fails_values counted failed⟩

/-- Tickets under numbers; those without one get the next. -/
def ticketRules : Schema Nat :=
  [("ids", .record ⟨some "$.tickets[*]", some counted, [.named "abs"], [], true, none⟩)]

def ticketPlan : Plan Nat :=
  [⟨"ids", "ids",
    ⟨some (.simple "$.tickets[*]" [.key "tickets", .every]), some counted, [.named "abs"], [], true,
      none⟩⟩]

def tickets (numbers : List Json) : Json := .object [("tickets", .array numbers)]

/-- The counter of the tickets. -/
def ticketCounter : Counter Nat where
  producer := fun count => (.ofNat count, count + 1)
  count := id
  value := .ofNat
  answers _ := rfl
  advances _ := rfl

/-- A run that fails at a text has used one number, and the runs after it take the next three. -/
theorem tickets_numbered :
    ticketRules.WellFormed ∧ Plan.compile 32 ticketRules = .ok ticketPlan ∧
      (∀ producer, Employs producer ticketPlan →
        producer = ticketCounter.producer ∨ ticketCounter.Spared producer) ∧
      Fails (ticketPlan.run .initial .standard (tickets [.null, .string "x", .null])) 0
        (.unresolvedModifier "abs" (.string "x")) 1 ∧
      Gives (ticketPlan.run .initial .standard (tickets [.null, .ofInt 7, .null])) 1
        (.object [("ids", .array [.ofNat 1, .ofInt 7, .ofNat 2])]) 3 ∧
      Gives (ticketPlan.run .initial .standard (.object [])) 3 (.object [("ids", .ofNat 3)]) 4 ∧
      ∃ runs s',
        Threads (fun s document run s' => Made .initial .standard ticketPlan s document run s' ∧
          ticketCounter.count s' =
            ticketCounter.count s + (ticketCounter.handed run.1).length) 0
          [tickets [.null, .string "x", .null], tickets [.null, .ofInt 7, .null], .object []]
          runs s' ∧
        ticketCounter.handed (runs.flatMap Prod.fst) = ticketCounter.values 0 s' ∧
        (ticketCounter.handed (runs.flatMap Prod.fst)).Nodup := by
  have wellFormed : ticketRules.WellFormed := by
    refine .intro (by decide) ?_
    intro entry member inner nested
    obtain rfl := List.mem_singleton.1 member
    cases nested
  have compiled : Plan.compile 32 ticketRules = .ok ticketPlan := by
    have path : Path.compile "$.tickets[*]" =
        .ok (.simple "$.tickets[*]" [.key "tickets", .every]) :=
      Path.compile_written (by simp) (by decide) rfl
    have named : Text.isBlankText "abs" = false := by decide
    simp [ticketRules, ticketPlan, Plan.compile, Plan.compileRules, Plan.compileRule,
      Plan.compileNested, Field.check, Modifier.validate, Modifier.name?, Schema.scopedKey, named,
      path, bind, Except.bind, pure, Except.pure, Functor.map, Except.map]
  have spared : ∀ producer, Employs producer ticketPlan →
      producer = ticketCounter.producer ∨ ticketCounter.Spared producer := by
    intro producer employed
    cases employed with
    | own member default =>
      obtain rfl := List.mem_singleton.1 member
      cases default
      exact .inl rfl
    | nested member nests _ =>
      obtain rfl := List.mem_singleton.1 member
      cases nests
  obtain ⟨runs, s', threaded, listed, distinct⟩ :=
    ((producers_called_once_per_use wellFormed compiled .initial .standard).2 ticketCounter
      spared).1 [tickets [.null, .string "x", .null], tickets [.null, .ofInt 7, .null],
        .object []] 0
  refine ⟨wellFormed, compiled, spared, by decide +kernel, by decide +kernel, by decide +kernel,
    runs, s', threaded, listed, distinct ?_⟩
  intro first second same
  have equal : (first : Int) = second := by
    simpa [ticketCounter, Json.ofNat, Json.ofInt] using same
  exact Int.ofNat.inj equal

end Reshape.Extraction
