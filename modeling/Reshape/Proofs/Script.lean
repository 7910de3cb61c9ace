import Reshape.Proofs.Outcome

/-!
# Calls of producers

A run uses the state of the producers of defaults only to call them. What it calls, and what it
comes to, can therefore be said without any state:

* a `Call` is a use of a producer together with its answer, and `Call.Answered` makes calls one
  after another;
* a `Script` says which calls with which answers lead to which outcome. `Script.andThen` goes on
  after a success and stops at a failure;
* `Performs`: from every state the run makes the calls of its script, in one way only. There is one
  law for each way to build a run.
-/

namespace Reshape

variable {σ α β : Type}

/-- A use of a producer, and what it made. -/
structure Call (σ : Type) where
  producer : StateM σ Json
  answer : Json

namespace Call

/-- The calls are made one after another, each from the state that the one before it left. -/
def Answered : List (Call σ) → σ → σ → Prop
  | [], s, s' => s' = s
  | call :: rest, s, s' =>
    ∃ between, call.producer s = (call.answer, between) ∧ Answered rest between s'

theorem answered_append {first second : List (Call σ)} {s s' : σ} :
    Answered (first ++ second) s s' ↔
      ∃ between, Answered first s between ∧ Answered second between s' := by
  induction first generalizing s with
  | nil => simp [Answered]
  | cons call rest ih =>
    simp only [List.cons_append, Answered, ih]
    constructor
    · rintro ⟨middle, here, between, earlier, later⟩
      exact ⟨between, ⟨middle, here, earlier⟩, later⟩
    · rintro ⟨between, ⟨middle, here, earlier⟩, later⟩
      exact ⟨middle, here, between, earlier, later⟩

end Call

open Call (Answered)

/-- Which calls, with which answers, lead to which outcome. -/
abbrev Script (σ α : Type) := List (Call σ) → Except Error α → Prop

namespace Script

/-- No call, and this outcome. -/
def result (outcome : Except Error α) : Script σ α := fun calls o => calls = [] ∧ o = outcome

/-- The calls of the first script and then, unless it fails, those of the next. -/
def andThen (first : Script σ α) (next : α → Script σ β) : Script σ β := fun calls o =>
  (∃ e, first calls (.error e) ∧ o = .error e) ∨
    ∃ a own later, calls = own ++ later ∧ first own (.ok a) ∧ next a later o

/-- The same calls, with a function applied to a success. -/
def map (f : α → β) (script : Script σ α) : Script σ β :=
  script.andThen fun a => result (.ok (f a))

theorem map_iff {f : α → β} {script : Script σ α} {calls : List (Call σ)} {o : Except Error β} :
    script.map f calls o ↔
      (∃ e, script calls (.error e) ∧ o = .error e) ∨
        ∃ a, script calls (.ok a) ∧ o = .ok (f a) := by
  refine or_congr_right ?_
  constructor
  · rintro ⟨a, own, _, rfl, given, rfl, rfl⟩
    exact ⟨a, by simpa using given, rfl⟩
  · rintro ⟨a, given, rfl⟩
    exact ⟨a, calls, [], by simp, given, rfl, rfl⟩

/-- The scripts of the entries of a list one after another, up to the first failure. -/
def each (step : α → Script σ β) : List α → Script σ (List β)
  | [] => result (.ok [])
  | a :: as => (step a).andThen fun b => (each step as).map (b :: ·)

theorem each_nil_ok {step : α → Script σ β} {calls : List (Call σ)} {bs : List β} :
    each step [] calls (.ok bs) ↔ bs = [] ∧ calls = [] := by
  simp [each, result, and_comm]

theorem each_nil_error {step : α → Script σ β} {calls : List (Call σ)} {e : Error} :
    ¬ each step [] calls (.error e) := by
  simp [each, result]

theorem each_cons_ok {step : α → Script σ β} {a : α} {as : List α} {calls : List (Call σ)}
    {bs : List β} :
    each step (a :: as) calls (.ok bs) ↔
      ∃ b rest own later, bs = b :: rest ∧ calls = own ++ later ∧ step a own (.ok b) ∧
        each step as later (.ok rest) := by
  simp only [each, andThen, map_iff]
  constructor
  · rintro (⟨_, _, other⟩ | ⟨b, own, later, rfl, first, ⟨_, _, other⟩ | ⟨rest, others, same⟩⟩)
    · cases other
    · cases other
    · cases same
      exact ⟨b, rest, own, later, rfl, rfl, first, others⟩
  · rintro ⟨b, rest, own, later, rfl, rfl, first, others⟩
    exact .inr ⟨b, own, later, rfl, first, .inr ⟨rest, others, rfl⟩⟩

theorem each_cons_error {step : α → Script σ β} {a : α} {as : List α} {calls : List (Call σ)}
    {e : Error} :
    each step (a :: as) calls (.error e) ↔
      step a calls (.error e) ∨ ∃ b own later, calls = own ++ later ∧ step a own (.ok b) ∧
        each step as later (.error e) := by
  simp only [each, andThen, map_iff]
  constructor
  · rintro (⟨_, failed, same⟩ | ⟨b, own, later, rfl, first, ⟨_, failed, same⟩ | ⟨_, _, other⟩⟩)
    · cases same
      exact .inl failed
    · cases same
      exact .inr ⟨b, own, later, rfl, first, failed⟩
    · cases other
  · rintro (failed | ⟨b, own, later, rfl, first, failed⟩)
    · exact .inl ⟨e, failed, rfl⟩
    · exact .inr ⟨b, own, later, rfl, first, .inl ⟨e, failed, rfl⟩⟩

/-- From one state the script can go one way only. -/
def Determined (script : Script σ α) : Prop :=
  ∀ ⦃s calls o s' others p t⦄, script calls o → Answered calls s s' → script others p →
    Answered others s t → calls = others ∧ o = p ∧ s' = t

theorem determined_result (outcome : Except Error α) :
    Determined (result outcome : Script σ α) := by
  rintro s _ _ s' _ _ t ⟨rfl, rfl⟩ here ⟨rfl, rfl⟩ there
  exact ⟨rfl, rfl, here.trans there.symm⟩

theorem Determined.andThen {first : Script σ α} {next : α → Script σ β} (h : first.Determined)
    (later : ∀ a, (next a).Determined) : (first.andThen next).Determined := by
  intro s calls o s' others p t made answered also too
  obtain ⟨e, failed, rfl⟩ | ⟨a, own, rest, rfl, given, more⟩ := made
  · obtain ⟨f, stopped, rfl⟩ | ⟨b, start, left, rfl, went, _⟩ := also
    · obtain ⟨rfl, same, rfl⟩ := h failed answered stopped too
      cases same
      exact ⟨rfl, rfl, rfl⟩
    · obtain ⟨between, begun, _⟩ := Call.answered_append.1 too
      obtain ⟨_, other, _⟩ := h failed answered went begun
      cases other
  · obtain ⟨between, begun, ended⟩ := Call.answered_append.1 answered
    obtain ⟨f, stopped, rfl⟩ | ⟨b, start, left, rfl, went, on⟩ := also
    · obtain ⟨_, other, _⟩ := h given begun stopped too
      cases other
    · obtain ⟨middle, started, finished⟩ := Call.answered_append.1 too
      obtain ⟨rfl, same, rfl⟩ := h given begun went started
      cases same
      obtain ⟨rfl, rfl, rfl⟩ := later a more ended on finished
      exact ⟨rfl, rfl, rfl⟩

/-- All calls of a script have a property. -/
def Within (property : Call σ → Prop) (script : Script σ α) : Prop :=
  ∀ calls o, script calls o → ∀ call ∈ calls, property call

variable {property : Call σ → Prop}

theorem within_result (outcome : Except Error α) :
    Within property (result outcome : Script σ α) := by
  rintro _ _ ⟨rfl, rfl⟩ call member
  cases member

theorem Within.andThen {first : Script σ α} {next : α → Script σ β} (h : first.Within property)
    (later : ∀ a, (next a).Within property) : (first.andThen next).Within property := by
  rintro _ o (⟨e, failed, rfl⟩ | ⟨a, own, rest, rfl, given, more⟩) call member
  · exact h _ _ failed call member
  · obtain here | there := List.mem_append.1 member
    · exact h _ _ given call here
    · exact later a _ _ more call there

theorem Within.map {f : α → β} {script : Script σ α} (h : script.Within property) :
    (script.map f).Within property :=
  h.andThen fun _ => within_result _

theorem Within.each {step : α → Script σ β} (h : ∀ a, (step a).Within property) :
    (as : List α) → (Script.each step as).Within property
  | [] => within_result _
  | a :: as => (h a).andThen fun _ => (Within.each h as).map

end Script

namespace Extraction

/-! ## Runs that follow a script -/

/-- From every state the run makes the calls of the script that come to its outcome, and the script
leaves it no other way. -/
structure Performs (run : Extraction σ α) (script : Script σ α) : Prop where
  made : ∀ s, ∃ calls, script calls (outcome run s).1 ∧ Answered calls s (outcome run s).2
  determined : script.Determined

theorem Performs.outcome_eq_iff {run : Extraction σ α} {script : Script σ α}
    (h : Performs run script) {s s' : σ} {o : Except Error α} :
    outcome run s = (o, s') ↔ ∃ calls, script calls o ∧ Answered calls s s' := by
  obtain ⟨calls, made, answered⟩ := h.made s
  constructor
  · intro same
    rw [same] at made answered
    exact ⟨calls, made, answered⟩
  · rintro ⟨others, also, too⟩
    obtain ⟨_, same, left⟩ := h.determined made answered also too
    exact Prod.ext same left

theorem performs_mk (o : Except Error α) :
    Performs (ExceptT.mk (pure o) : Extraction σ α) (Script.result o) where
  made _ := ⟨[], ⟨rfl, rfl⟩, rfl⟩
  determined := Script.determined_result o

theorem performs_pure (a : α) : Performs (pure a : Extraction σ α) (Script.result (.ok a)) :=
  performs_mk (.ok a)

theorem Performs.bind {run : Extraction σ α} {next : α → Extraction σ β} {script : Script σ α}
    {further : α → Script σ β} (first : Performs run script)
    (later : ∀ a, Performs (next a) (further a)) :
    Performs (run >>= next) (script.andThen further) where
  made s := by
    obtain ⟨calls, made, answered⟩ := first.made s
    rw [outcome_bind]
    rcases h : outcome run s with ⟨e | a, between⟩
    · rw [h] at made answered
      exact ⟨calls, .inl ⟨e, made, rfl⟩, answered⟩
    · rw [h] at made answered
      obtain ⟨more, also, too⟩ := (later a).made between
      exact ⟨calls ++ more, .inr ⟨a, calls, more, rfl, made, also⟩,
        Call.answered_append.2 ⟨between, answered, too⟩⟩
  determined := first.determined.andThen fun a => (later a).determined

theorem Performs.map {f : α → β} {run : Extraction σ α} {script : Script σ α}
    (h : Performs run script) : Performs (f <$> run) (script.map f) := by
  rw [map_eq_pure_bind]
  exact h.bind fun a => performs_pure (f a)

theorem Performs.each {step : α → Extraction σ β} {script : α → Script σ β}
    (h : ∀ a, Performs (step a) (script a)) :
    (as : List α) → Performs (as.mapM step) (Script.each script as)
  | [] => performs_pure []
  | a :: as => by
    rw [List.mapM_cons]
    refine (h a).bind fun b => ?_
    rw [← map_eq_pure_bind]
    exact (Performs.each h as).map

end Extraction

end Reshape
