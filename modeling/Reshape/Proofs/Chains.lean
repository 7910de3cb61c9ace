import Reshape.Modifier
import Reshape.Proofs.Results

/-!
# Chains of modifiers

What a list of modifiers makes of a value, turn by turn:

* `Resolves` says which operation a modifier is on a value;
* `Chain` lists the turns: each modifier with the value it meets, which is what the modifiers before
  it made of the first one. Modifiers without an operation there change nothing;
* `applyAll_lenient`, `applyAll_strict` and `applyAll_unresolved` read the results off the turns,
  and `chains_run_turn_by_turn` puts these together.
-/

namespace Reshape

/-- The modifier is this operation on this value. -/
inductive Registry.Resolves (registry : Registry) : Modifier → Json → Operation → Prop where
  | call (operation : Operation) (value : Json) :
      Resolves registry (.call operation) value operation
  | registered {name : String} {operation : Operation}
      (known : registry.modifiers.get? name = some operation) (value : Json) :
      Resolves registry (.named name) value operation
  | supported {name : String} {value : Json} {operation : Operation}
      (unknown : registry.modifiers.get? name = none)
      (capability : (registry.capabilities.operations value.kind).get? name = some operation) :
      Resolves registry (.named name) value operation
  | ambient {name : String} {value : Json} {operation : Operation}
      (capability : (registry.capabilities.operations value.kind).get? name = some operation) :
      Resolves registry (.ambient name) value operation

/-- A modifier and the value that it meets. -/
structure Turn where
  modifier : Modifier
  value : Json

/-- The modifier of the turn is some operation on the value of the turn. -/
def Turn.Resolves (registry : Registry) (turn : Turn) : Prop :=
  ∃ operation, registry.Resolves turn.modifier turn.value operation

namespace Registry

variable {registry : Registry}

theorem resolves_iff {modifier : Modifier} {value : Json} {operation : Operation} :
    registry.Resolves modifier value operation ↔
      registry.resolve? modifier value = some operation := by
  constructor
  · intro h
    cases h with
    | call => rfl
    | registered known => rw [resolve?, known, Option.some_or]
    | supported unknown capability =>
      rw [resolve?, unknown, Option.none_or]
      exact capability
    | ambient capability => exact capability
  · intro h
    cases modifier with
    | call own =>
      cases h
      exact .call operation value
    | named name =>
      cases known : registry.modifiers.get? name with
      | none =>
        rw [resolve?, known, Option.none_or] at h
        exact .supported known h
      | some registered =>
        rw [resolve?, known, Option.some_or] at h
        cases h
        exact .registered known value
    | ambient name => exact .ambient h

theorem turn_resolves_iff {turn : Turn} :
    turn.Resolves registry ↔ (registry.resolve? turn.modifier turn.value).isSome = true := by
  simp only [Turn.Resolves, resolves_iff, Option.isSome_iff_exists]

instance (turn : Turn) : Decidable (turn.Resolves registry) :=
  decidable_of_iff _ turn_resolves_iff.symm

/-! ## One turn -/

theorem apply_of_resolves {modifier : Modifier} {value : Json} {operation : Operation}
    (h : registry.Resolves modifier value operation) (strict : Bool) :
    registry.apply strict modifier value = .ok (operation value) := by
  rw [apply, resolves_iff.1 h]

theorem resolve?_of_not_resolves {modifier : Modifier} {value : Json}
    (h : ¬ Turn.Resolves registry ⟨modifier, value⟩) : registry.resolve? modifier value = none := by
  rw [turn_resolves_iff, Option.not_isSome_iff_eq_none] at h
  exact h

theorem apply_lenient {modifier : Modifier} {value : Json}
    (h : ¬ Turn.Resolves registry ⟨modifier, value⟩) :
    registry.apply false modifier value = .ok value := by
  rw [apply, resolve?_of_not_resolves h]
  rfl

/-- A modifier that does not resolve goes by a name, and the error says which. -/
theorem apply_strict {modifier : Modifier} {value : Json}
    (h : ¬ Turn.Resolves registry ⟨modifier, value⟩) :
    ∃ name, modifier.name? = some name ∧
      registry.apply true modifier value = .error (.unresolvedModifier name value) := by
  have unresolved := resolve?_of_not_resolves h
  rw [apply, unresolved]
  cases modifier with
  | call operation => exact absurd ⟨operation, .call operation value⟩ h
  | named name => exact ⟨name, rfl, rfl⟩
  | ambient name => exact ⟨name, rfl, rfl⟩

/-! ## All turns -/

/-- From the first value the turns lead to the last one. -/
inductive Chain (registry : Registry) : Json → List Turn → Json → Prop where
  | done (value : Json) : Chain registry value [] value
  | changed {modifier : Modifier} {value last : Json} {operation : Operation} {turns : List Turn}
      (resolves : registry.Resolves modifier value operation)
      (later : Chain registry (operation value) turns last) :
      Chain registry value (⟨modifier, value⟩ :: turns) last
  | passed {modifier : Modifier} {value last : Json} {turns : List Turn}
      (unresolved : ∀ operation, ¬ registry.Resolves modifier value operation)
      (later : Chain registry value turns last) :
      Chain registry value (⟨modifier, value⟩ :: turns) last

theorem exists_chain (registry : Registry) (modifiers : List Modifier) (value : Json) :
    ∃ turns last, turns.map Turn.modifier = modifiers ∧ registry.Chain value turns last := by
  induction modifiers generalizing value with
  | nil => exact ⟨[], value, rfl, .done value⟩
  | cons modifier rest ih =>
    by_cases h : Turn.Resolves registry ⟨modifier, value⟩
    · obtain ⟨operation, resolves⟩ := h
      obtain ⟨turns, last, rfl, later⟩ := ih (operation value)
      exact ⟨⟨modifier, value⟩ :: turns, last, rfl, .changed resolves later⟩
    · obtain ⟨turns, last, rfl, later⟩ := ih value
      have unresolved := not_exists.1 h
      exact ⟨⟨modifier, value⟩ :: turns, last, rfl, .passed unresolved later⟩

theorem applyAll_cons {strict : Bool} {modifier : Modifier} {rest : List Modifier}
    {value changed : Json} (h : registry.apply strict modifier value = .ok changed) :
    registry.applyAll strict (modifier :: rest) value = registry.applyAll strict rest changed := by
  rw [applyAll, h]
  rfl

/-- Without errors for modifiers that do not resolve, the chain gives the last value. -/
theorem applyAll_lenient {value last : Json} {turns : List Turn}
    (chain : registry.Chain value turns last) :
    registry.applyAll false (turns.map Turn.modifier) value = .ok last := by
  induction chain with
  | done value => rfl
  | changed resolves _ ih =>
    have here := apply_of_resolves resolves false
    rw [List.map_cons, applyAll_cons here, ih]
  | passed unresolved _ ih =>
    have here := apply_lenient (not_exists.2 unresolved)
    rw [List.map_cons, applyAll_cons here, ih]

/-- The modifiers that resolve at their turns come to the same without the others. -/
theorem applyAll_resolved {value last : Json} {turns : List Turn}
    (chain : registry.Chain value turns last) :
    registry.applyAll true ((turns.filter fun turn => turn.Resolves registry).map Turn.modifier)
      value = .ok last := by
  induction chain with
  | done value => rfl
  | @changed modifier value _ operation _ resolves _ ih =>
    have kept : Turn.Resolves registry ⟨modifier, value⟩ := ⟨operation, resolves⟩
    have here := apply_of_resolves resolves true
    rw [List.filter_cons, if_pos (decide_eq_true kept), List.map_cons, applyAll_cons here, ih]
  | @passed modifier value _ _ unresolved _ ih =>
    have dropped : ¬ Turn.Resolves registry ⟨modifier, value⟩ := not_exists.2 unresolved
    rw [List.filter_cons, if_neg (by simpa only [decide_eq_true_eq] using dropped), ih]

theorem applyAll_strict {value last : Json} {turns : List Turn}
    (chain : registry.Chain value turns last) (all : ∀ turn ∈ turns, turn.Resolves registry) :
    registry.applyAll true (turns.map Turn.modifier) value = .ok last := by
  have whole : (turns.filter fun turn => turn.Resolves registry) = turns :=
    List.filter_eq_self.2 fun turn member => decide_eq_true (all turn member)
  rw [← applyAll_resolved chain, whole]

/-- The first modifier that does not resolve at its turn stops a strict chain. -/
theorem applyAll_unresolved {value last : Json} {turns : List Turn}
    (chain : registry.Chain value turns last) (other : ¬ ∀ turn ∈ turns, turn.Resolves registry) :
    ∃ before turn after name, turns = before ++ turn :: after ∧
      (∀ earlier ∈ before, earlier.Resolves registry) ∧ ¬ turn.Resolves registry ∧
      turn.modifier.name? = some name ∧
      registry.applyAll true (turns.map Turn.modifier) value =
        .error (.unresolvedModifier name turn.value) := by
  induction chain with
  | done value => exact absurd (fun turn => nofun) other
  | @changed modifier value _ operation turns resolves _ ih =>
    have first : Turn.Resolves registry ⟨modifier, value⟩ := ⟨operation, resolves⟩
    have later : ¬ ∀ turn ∈ turns, turn.Resolves registry := fun all =>
      other (List.forall_mem_cons.2 ⟨first, all⟩)
    obtain ⟨before, turn, after, name, rfl, earlier, stops, named, failed⟩ := ih later
    have here := apply_of_resolves resolves true
    refine ⟨⟨modifier, value⟩ :: before, turn, after, name, rfl, ?_, stops, named, ?_⟩
    · exact List.forall_mem_cons.2 ⟨first, earlier⟩
    · rw [List.map_cons, applyAll_cons here, failed]
  | @passed modifier value _ turns unresolved _ _ =>
    have stops : ¬ Turn.Resolves registry ⟨modifier, value⟩ := not_exists.2 unresolved
    obtain ⟨name, named, failed⟩ := apply_strict stops
    refine ⟨[], ⟨modifier, value⟩, turns, name, rfl, nofun, stops, named, ?_⟩
    rw [List.map_cons, applyAll, failed]
    rfl

/-- **Chains run turn by turn.** Each modifier meets what those before it made of the value, and is
resolved on that. A chain that tolerates unresolved modifiers gives the value after the last turn,
and so does a strict chain of just those that resolve at their turns. A strict chain of all of them
gives that value if they all resolve; otherwise it fails with the name of the first that does not
and the value it meets. -/
theorem chains_run_turn_by_turn (registry : Registry) (modifiers : List Modifier) (value : Json) :
    (∃ turns last, turns.map Turn.modifier = modifiers ∧ registry.Chain value turns last) ∧
    ∀ turns last, turns.map Turn.modifier = modifiers → registry.Chain value turns last →
      registry.applyAll false modifiers value = .ok last ∧
      registry.applyAll true
        ((turns.filter fun turn => turn.Resolves registry).map Turn.modifier) value = .ok last ∧
      ((∀ turn ∈ turns, turn.Resolves registry) ∧
          registry.applyAll true modifiers value = .ok last ∨
        ∃ before turn after name, turns = before ++ turn :: after ∧
          (∀ earlier ∈ before, earlier.Resolves registry) ∧ ¬ turn.Resolves registry ∧
          turn.modifier.name? = some name ∧
          registry.applyAll true modifiers value =
            .error (.unresolvedModifier name turn.value)) := by
  refine ⟨exists_chain registry modifiers value, ?_⟩
  rintro turns last rfl chain
  refine ⟨applyAll_lenient chain, applyAll_resolved chain, ?_⟩
  by_cases all : ∀ turn ∈ turns, turn.Resolves registry
  · exact .inl ⟨all, applyAll_strict chain all⟩
  · exact .inr (applyAll_unresolved chain all)

/-- A text gives way to its length, which has no upper case until it is a text again. -/
def lengthTurns : List Turn :=
  [⟨.named "length", .string "Ada"⟩, ⟨.named "upcase", .ofNat 3⟩, ⟨.ambient "to_s", .ofNat 3⟩,
    ⟨.named "upcase", .string "3"⟩]

theorem lengthTurns_chain : initial.Chain (.string "Ada") lengthTurns (.string "3") := by
  have length : initial.Resolves (.named "length") (.string "Ada")
      (Capabilities.onString fun s => .ofNat s.length) :=
    resolves_iff.2 rfl
  have unresolved (operation : Operation) :
      ¬ initial.Resolves (.named "upcase") (.ofNat 3) operation := by
    intro h
    cases resolves_iff.1 h
  have text : initial.Resolves (.ambient "to_s") (.ofNat 3) Capabilities.toText :=
    resolves_iff.2 rfl
  have upcase : initial.Resolves (.named "upcase") (.string "3")
      (Capabilities.onString fun s => .string (Text.upper s)) :=
    resolves_iff.2 rfl
  have count : Json.ofNat "Ada".length = .ofNat 3 := by decide +kernel
  have digits : Capabilities.toText (.ofNat 3) = .string "3" := by decide +kernel
  have upper : Json.string (Text.upper "3") = .string "3" := by decide +kernel
  refine .changed length ?_
  simp only [Capabilities.onString, count]
  refine .passed unresolved (.changed text ?_)
  rw [digits]
  refine .changed upcase ?_
  simp only [Capabilities.onString, upper]
  exact .done _

/-- The strict chain stops at the length, and without this turn it does not. -/
theorem length_stops_strict_chain :
    let modifiers : List Modifier :=
      [.named "length", .named "upcase", .ambient "to_s", .named "upcase"]
    lengthTurns.map Turn.modifier = modifiers ∧
      initial.Chain (.string "Ada") lengthTurns (.string "3") ∧
      initial.applyAll false modifiers (.string "Ada") = .ok (.string "3") ∧
      initial.applyAll true [.named "length", .ambient "to_s", .named "upcase"] (.string "Ada") =
        .ok (.string "3") ∧
      initial.applyAll true modifiers (.string "Ada") =
        .error (.unresolvedModifier "upcase" (.ofNat 3)) := by
  intro modifiers
  have same : lengthTurns.map Turn.modifier = modifiers := rfl
  have kept : (lengthTurns.filter fun turn => turn.Resolves initial).map Turn.modifier =
      [.named "length", .ambient "to_s", .named "upcase"] := rfl
  have first : Turn.Resolves initial ⟨.named "length", .string "Ada"⟩ := by decide +kernel
  have second : ¬ Turn.Resolves initial ⟨.named "upcase", .ofNat 3⟩ := by decide +kernel
  obtain ⟨_, run⟩ := chains_run_turn_by_turn initial modifiers (.string "Ada")
  obtain ⟨lenient, resolved, strict⟩ := run lengthTurns (.string "3") same lengthTurns_chain
  refine ⟨same, lengthTurns_chain, lenient, kept ▸ resolved, ?_⟩
  obtain ⟨all, _⟩ | ⟨before, turn, after, name, split, earlier, unresolved, named, failed⟩ := strict
  · exact absurd (all _ (List.mem_cons_of_mem _ List.mem_cons_self)) second
  · -- It is the second turn: the first resolves, and a later one is not the first to stop.
    obtain _ | ⟨_, _ | ⟨_, before⟩⟩ := before
    · obtain ⟨rfl, _⟩ := List.cons.inj split
      exact absurd first unresolved
    · obtain ⟨_, later⟩ := List.cons.inj split
      obtain ⟨rfl, _⟩ := List.cons.inj later
      cases named
      exact failed
    · obtain ⟨_, later⟩ := List.cons.inj split
      obtain ⟨rfl, _⟩ := List.cons.inj later
      exact absurd (earlier _ (List.mem_cons_of_mem _ List.mem_cons_self)) second

end Registry

end Reshape
