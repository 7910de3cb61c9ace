import Reshape.Proofs.Conformance
import Reshape.Proofs.SchemaFault

/-!
# Where a run fails

A run that fails tells truthfully what went wrong:

* `Enters` follows a run into the runs of nested plans, each on the part of the document that it is
  given and from the state in which it starts;
* `Unresolved` and `Ambiguous` are what can go wrong at one instruction on one document;
* `fault_of_fails`: a run fails at an instruction of a plan that it enters, by one of the two;
* `errors_truthful` adds that schemas are refused before any run, and that a run that tolerates both
  gives a result.
-/

namespace Reshape.Extraction

open Results

variable {σ : Type} {registry : Registry} {settings : Settings}

/-! ## What can go wrong at one instruction -/

/-- When strict, a name among these modifiers meets a value of a kind without such an operation, and
no modifier is registered under it if it may be. -/
def Unresolved (registry : Registry) (settings : Settings) (modifiers : List Modifier)
    (e : Error) : Prop :=
  settings.strictModifiers = true ∧ ∃ modifier ∈ modifiers, ∃ name value,
    e = .unresolvedModifier name value ∧ registry.capabilities.find? name value = none ∧
      (modifier = .ambient name ∨
        modifier = .named name ∧ registry.modifiers.get? name = none)

/-- When several values are an error, a field that is neither a list nor nested finds some. -/
def Ambiguous (settings : Settings) (instruction : Instruction σ) (document : Json)
    (e : Error) : Prop :=
  settings.cardinality = .error ∧ instruction.field.array = false ∧
    instruction.field.nested = none ∧ 2 ≤ (instruction.field.found document).length ∧
    e = .ambiguousCardinality instruction.scopedKey (instruction.field.found document).length

theorem unresolved_of_applyAll {modifiers : List Modifier} {value : Json} {e : Error}
    (h : registry.applyAll settings.strictModifiers modifiers value = .error e) :
    Unresolved registry settings modifiers e := by
  induction modifiers generalizing value with
  | nil => cases h
  | cons modifier rest ih =>
    rw [Registry.applyAll] at h
    obtain here | ⟨changed, _, later⟩ := bind_eq_error.1 h
    · simp only [Registry.apply] at here
      split at here
      · cases here
      · rename_i unresolved
        split at here
        · rename_i strict
          cases here
          refine ⟨strict, modifier, List.mem_cons_self, ?_⟩
          cases modifier with
          | call operation => cases unresolved
          | named name =>
            simp only [Registry.resolve?, Option.or_eq_none_iff] at unresolved
            exact ⟨name, value, rfl, unresolved.2, .inr ⟨rfl, unresolved.1⟩⟩
          | ambient name => exact ⟨name, value, rfl, unresolved, .inl rfl⟩
        · cases here
    · obtain ⟨strict, other, member, found⟩ := ih later
      exact ⟨strict, other, List.mem_cons_of_mem _ member, found⟩

theorem unresolved_of_present {ν : Type} {field : Field σ Path ν} {found : Json} {e : Error}
    {s s' : σ} (h : Fails (present registry settings field found) s e s') :
    Unresolved registry settings field.modifiers e := by
  have transformed {value : Json} {s₁ : σ}
      (h : Fails (ExceptT.mk (pure (field.transform registry settings.strictModifiers value)))
        s₁ e s') : Unresolved registry settings field.modifiers e :=
    unresolved_of_applyAll (map_eq_error.1 (fails_mk.1 h).1)
  unfold present at h
  split at h
  · obtain fetched | ⟨value, between, _, later⟩ := fails_bind.1 h
    · exact absurd fetched fails_lift
    · exact transformed later
  · obtain kept | ⟨value, between, _, later⟩ := fails_bind.1 h
    · exact absurd kept fails_pure
    · exact transformed later

theorem ambiguous_of_collect {scopedKey : String} {array : Bool} {elements : List Json} {e : Error}
    (found : 1 ≤ elements.length) (h : collect settings scopedKey array elements = .error e) :
    settings.cardinality = .error ∧ array = false ∧ 2 ≤ elements.length ∧
      e = .ambiguousCardinality scopedKey elements.length := by
  cases array with
  | true => cases h
  | false =>
    match elements, found with
    | [element], _ => cases h
    | first :: second :: rest, _ =>
      cases policy : settings.cardinality with
      | sequence => simp [collect, policy] at h
      | error =>
        simp only [collect, policy, Bool.false_eq_true, if_false, Except.error.injEq] at h
        exact ⟨rfl, rfl, by simp, h.symm⟩

/-! ## Following a run into nested plans -/

/-- An instruction of a plan runs its nested plan `inner` on `part` from the state `t`: what stands
before the instruction is done, its values are found and changed, and so are the runs for the values
before `part`, of which a field that is no list has none. -/
def Descends (registry : Registry) (settings : Settings) (plan : Plan σ) (document : Json) (s : σ)
    (inner : Plan σ) (part : Json) (t : σ) : Prop :=
  ∃ before instruction after written s₁ done rest s₂ results,
    plan = before ++ instruction :: after ∧
    Gives (entries registry settings document before) s written s₁ ∧
    instruction.field.nested = some inner ∧
    Threads (Becomes registry settings instruction.field) s₁ (instruction.field.found document)
      (done ++ part :: rest) s₂ ∧
    (instruction.field.array = false → done = []) ∧
    Threads (fun s element result s' =>
      Gives (Plan.run registry settings inner element) s result s') s₂ done results t

/-- The run of a plan on a document from a state includes the run of `inner` on `part` from `t`. -/
inductive Enters (registry : Registry) (settings : Settings) :
    Plan σ → Json → σ → Plan σ → Json → σ → Prop where
  | self (plan : Plan σ) (document : Json) (s : σ) :
      Enters registry settings plan document s plan document s
  | nested {plan inner deepest : Plan σ} {document element part : Json} {s between t : σ} :
      Descends registry settings plan document s inner element between →
      Enters registry settings inner element between deepest part t →
      Enters registry settings plan document s deepest part t

/-- A plan that the run enters has an instruction at which `e` arises. -/
def Faulty (registry : Registry) (settings : Settings) (plan : Plan σ) (document : Json) (s : σ)
    (e : Error) : Prop :=
  ∃ inner part t, Enters registry settings plan document s inner part t ∧
    ∃ instruction ∈ inner, Unresolved registry settings instruction.field.modifiers e ∨
      Ambiguous settings instruction part e

theorem Descends.faulty {plan inner : Plan σ} {document part : Json} {s t : σ} {e : Error}
    (down : Descends registry settings plan document s inner part t)
    (h : Faulty registry settings inner part t e) :
    Faulty registry settings plan document s e := by
  obtain ⟨deepest, piece, u, enters, fault⟩ := h
  exact ⟨deepest, piece, u, .nested down enters, fault⟩

theorem fails_run {plan : Plan σ} {document : Json} {s s' : σ} {e : Error} :
    Fails (plan.run registry settings document) s e s' ↔
      Fails (entries registry settings document plan) s e s' := by
  rw [Plan.run, fails_map, fill_eq, fails_map]

/-- Where the values of a field are made one object, a nested run fails after those before it. -/
theorem descends_of_gather {scopedKey : String} {array : Bool} {inner : Plan σ}
    {elements : List Json} {s s' : σ} {e : Error}
    (h : Fails (gather registry settings scopedKey array (some inner) elements) s e s') :
    ∃ done part rest results between, elements = done ++ part :: rest ∧
      (array = false → done = []) ∧
      Threads (fun s element result s' =>
        Gives (Plan.run registry settings inner element) s result s') s done results between ∧
      Fails (Plan.run registry settings inner part) between e s' := by
  unfold gather at h
  split at h
  · rename_i list
    simp only [fails_bind, fails_pure, and_false, exists_false, or_false] at h
    obtain ⟨done, part, rest, objects, between, rfl, threaded, failed⟩ := fails_mapM.1 h
    refine ⟨done, part, rest, objects.map .object, between, rfl, by simp [list], ?_,
      fails_map.2 failed⟩
    simp only [Plan.run, gives_map]
    exact threads_map.2 ⟨objects, rfl, threaded⟩
  · split at h
    · exact absurd h fails_pure
    · rename_i part rest
      exact ⟨[], part, rest, [], s, rfl, fun _ => rfl, .nil s, h⟩

/-- One instruction fails by a fault of its own or in a run of its nested plan. -/
theorem fault_or_nested_of_evaluate {instruction : Instruction σ} {document : Json} {s s' : σ}
    {e : Error} (h : Fails (evaluate registry settings document instruction) s e s') :
    (Unresolved registry settings instruction.field.modifiers e ∨
      Ambiguous settings instruction document e) ∨
    ∃ inner done part rest s₂ results t, instruction.field.nested = some inner ∧
      Threads (Becomes registry settings instruction.field) s (instruction.field.found document)
        (done ++ part :: rest) s₂ ∧
      (instruction.field.array = false → done = []) ∧
      Threads (fun s element result s' =>
        Gives (Plan.run registry settings inner element) s result s') s₂ done results t ∧
      Fails (Plan.run registry settings inner part) t e s' := by
  rw [evaluate_eq] at h
  split at h
  · exact absurd h fails_lift
  · rename_i some_found
    have found : 1 ≤ (instruction.field.found document).length := List.length_pos_iff.2 some_found
    obtain changing | ⟨elements, between, changed, gathering⟩ := fails_bind.1 h
    · obtain ⟨_, value, _, _, _, _, _, failed⟩ := fails_mapM.1 changing
      exact .inl (.inl (unresolved_of_present failed))
    · simp only [gives_mapM, gives_present] at changed
      have many := changed.length_eq
      cases nested : instruction.field.nested with
      | none =>
        rw [nested, gather, fails_mk] at gathering
        obtain ⟨policy, single, several, rfl⟩ := ambiguous_of_collect (many ▸ found) gathering.1
        rw [many] at several ⊢
        exact .inl (.inr ⟨policy, single, nested, several, rfl⟩)
      | some inner =>
        rw [nested] at gathering
        obtain ⟨done, part, rest, results, t, rfl, first, made, failed⟩ :=
          descends_of_gather gathering
        exact .inr ⟨inner, done, part, rest, between, results, t, rfl, changed, first, made, failed⟩

/-- Failing runs of the plan nested in an instruction are faulty. -/
def NestsFaulty (registry : Registry) (settings : Settings) (instruction : Instruction σ) : Prop :=
  ∀ inner, instruction.field.nested = some inner → ∀ document s e s',
    Fails (Plan.run registry settings inner document) s e s' →
      Faulty registry settings inner document s e

theorem faulty_of_fails {plan : Plan σ}
    (each : ∀ instruction ∈ plan, NestsFaulty registry settings instruction) {document : Json}
    {s s' : σ} {e : Error} (h : Fails (plan.run registry settings document) s e s') :
    Faulty registry settings plan document s e := by
  obtain ⟨before, instruction, after, written, s₁, split, given, failed⟩ :=
    fails_mapM.1 (fails_run.1 h)
  have member : instruction ∈ plan := split ▸ List.mem_append_right before List.mem_cons_self
  obtain fault | ⟨inner, done, part, rest, s₂, results, t, nested, changed, first, made, failed⟩ :=
    fault_or_nested_of_evaluate (fails_map.1 failed)
  · exact ⟨plan, document, s, .self .., instruction, member, fault⟩
  · have down : Descends registry settings plan document s inner part t :=
      ⟨before, instruction, after, written, s₁, done, rest, s₂, results, split, gives_mapM.2 given,
        nested, changed, first, made⟩
    exact down.faulty (each instruction member inner nested part t e s' failed)

theorem nestsFaulty (instruction : Instruction σ) : NestsFaulty registry settings instruction := by
  induction instruction using Instruction.induction with
  | step instruction ih =>
    intro inner nested document s e s' failed
    exact faulty_of_fails (ih inner nested) failed

/-- Every failing run is faulty at an instruction of a plan that it enters. -/
theorem fault_of_fails {plan : Plan σ} {document : Json} {s s' : σ} {e : Error}
    (h : Fails (plan.run registry settings document) s e s') :
    Faulty registry settings plan document s e :=
  faulty_of_fails (fun instruction _ => nestsFaulty instruction) h

/-- **Errors are truthful.** Reading and compiling report faults of schemas only. A run reports none
of these: it names a modifier of a plan it enters that does not resolve, or the key of a field that
found several values where one is expected, in the part of the document that it is at. When neither
is an error, every run gives a result. -/
theorem errors_truthful :
    (∀ value e, (Schema.ofJson value : Except Error (Schema σ)) = .error e →
      e.isCompileError = true) ∧
    (∀ limit (schema : Schema σ) e, Plan.compile limit schema = .error e →
      e.isCompileError = true) ∧
    (∀ limit (schema : Schema σ) plan registry settings document s e s',
      Plan.compile limit schema = .ok plan →
      Fails (plan.run registry settings document) s e s' →
      e.isCompileError = false ∧
        ∃ inner part t, Enters registry settings plan document s inner part t ∧
          ∃ instruction ∈ inner, Unresolved registry settings instruction.field.modifiers e ∨
            Ambiguous settings instruction part e) ∧
    (∀ (plan : Plan σ) registry (settings : Settings) document s,
      settings.strictModifiers = false → settings.cardinality = .sequence →
      ∃ result s', Gives (plan.run registry settings document) s result s') := by
  refine ⟨Schema.compileOnly_ofJson, Plan.compileOnly_compile, ?_, ?_⟩
  · intro limit schema plan registry settings document s e s' _ failed
    obtain ⟨inner, part, t, enters, instruction, member, fault⟩ := fault_of_fails failed
    refine ⟨?_, inner, part, t, enters, instruction, member, fault⟩
    obtain ⟨_, _, _, _, _, rfl, _⟩ | ⟨_, _, _, _, rfl⟩ := fault
    · rfl
    · rfl
  · intro plan registry settings document s lenient sequence
    obtain gives | ⟨e, s', failed⟩ := gives_or_fails (plan.run registry settings document) s
    · exact gives
    · obtain ⟨_, _, _, _, _, _, ⟨strict, _⟩ | ⟨policy, _⟩⟩ := fault_of_fails failed
      · rw [lenient] at strict; cases strict
      · rw [sequence] at policy; cases policy

/-- The name of a friend meets a modifier that nobody registered, two levels down; without
strictness it stays as it is. -/
theorem friends_fail_truthfully :
    ((Schema.ofJson (.array []) : Except Error (Schema Nat)) =
        .error (.invalidSchema "$" .notRules) ∧
      (Error.invalidSchema "$" .notRules).isCompileError = true) ∧
    (Plan.compile 0 (friendRules "shout") = .error (.schemaTooDeep "friends" 0) ∧
      (Error.schemaTooDeep "friends" 0).isCompileError = true) ∧
    (Plan.compile 32 (friendRules "shout") = .ok (friendPlan "shout") ∧
      Fails ((friendPlan "shout").run .initial .standard friends) 7
        (.unresolvedModifier "shout" (.string "Ada")) 7 ∧
      (Error.unresolvedModifier "shout" (.string "Ada")).isCompileError = false ∧
      ∃ inner part t, Enters .initial .standard (friendPlan "shout") friends 7 inner part t ∧
        ∃ instruction ∈ inner,
          Unresolved .initial .standard instruction.field.modifiers
            (.unresolvedModifier "shout" (.string "Ada")) ∨
          Ambiguous .standard instruction part (.unresolvedModifier "shout" (.string "Ada"))) ∧
    ∃ result s', Gives ((friendPlan "shout").run .initial { strictModifiers := false } friends) 7
      result s' := by
  obtain ⟨reading, compiling, running, tolerating⟩ := errors_truthful (σ := Nat)
  have unread : (Schema.ofJson (.array []) : Except Error (Schema Nat)) =
      .error (.invalidSchema "$" .notRules) := rfl
  have deep : Plan.compile 0 (friendRules "shout") = .error (.schemaTooDeep "friends" 0) := by
    have outer : Path.compile "$.friends[*]" =
        .ok (.simple "$.friends[*]" [.key "friends", .every]) :=
      Path.compile_written (by simp) (by decide) rfl
    simp [friendRules, Plan.compile, Plan.compileRules, Plan.compileRule, Plan.compileNested,
      Field.check, Schema.scopedKey, outer, bind, Except.bind, pure, Except.pure, Functor.map,
      Except.map]
  have compiled : Plan.compile 32 (friendRules "shout") = .ok (friendPlan "shout") :=
    friendRules_compile (by decide)
  have failed : Fails ((friendPlan "shout").run .initial .standard friends) 7
      (.unresolvedModifier "shout" (.string "Ada")) 7 := by
    decide +kernel
  exact ⟨⟨unread, reading _ _ unread⟩, ⟨deep, compiling _ _ _ deep⟩,
    ⟨compiled, failed, running _ _ _ _ _ _ _ _ _ compiled failed⟩,
    tolerating _ _ _ _ _ rfl rfl⟩

end Reshape.Extraction
