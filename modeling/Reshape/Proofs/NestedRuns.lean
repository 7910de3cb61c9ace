import Reshape.Json.Location
import Reshape.Proofs.Failure

/-!
# Results of nested runs

What a run that gives a result says of the runs that it enters:

* `gives_of_enters`: each of them gives a result of its own, which stands somewhere in the result of
  the whole;
* `gives_evaluate`: each instruction of a run gives a value, which stands under its key.
-/

namespace Reshape.Extraction

variable {σ : Type} {registry : Registry} {settings : Settings}

theorem Becomes.unique {ν : Type} {field : Field σ Path ν} {s t u : σ} {found a b : Json}
    (first : Becomes registry settings field s found a t)
    (second : Becomes registry settings field s found b u) : a = b ∧ t = u :=
  (gives_present.2 first).unique (gives_present.2 second)

/-- Without repeated keys a plan gives the object of the entries that its instructions write. -/
theorem gives_run {plan : Plan σ} (distinct : (plan.map Instruction.key).Nodup) {document : Json}
    {s s' : σ} {result : Json} :
    Gives (plan.run registry settings document) s result s' ↔
      ∃ members, result = .object members ∧
        Gives (entries registry settings document plan) s members s' := by
  simp only [Plan.run, gives_map, gives_fill distinct]

theorem member?_of_entries {plan : Plan σ} (distinct : (plan.map Instruction.key).Nodup)
    {document : Json} {s s' : σ} {members : List (String × Json)}
    (given : Gives (entries registry settings document plan) s members s') {key : String}
    {value : Json} (member : (key, value) ∈ members) :
    (Json.object members).member? key = some value :=
  Keyed.get?_of_mem (by rwa [Keyed.Distinct, keys_of_entries given]) member

/-- Every instruction of a run gives a value, which stands under its key in the result. -/
theorem gives_evaluate {plan : Plan σ} (distinct : (plan.map Instruction.key).Nodup)
    {document result : Json} {s s' : σ}
    (given : Gives (plan.run registry settings document) s result s') {instruction : Instruction σ}
    (member : instruction ∈ plan) :
    ∃ t value t', Gives (evaluate registry settings document instruction) t value t' ∧
      result.member? instruction.key = some value := by
  obtain ⟨members, rfl, written⟩ := (gives_run distinct).1 given
  obtain ⟨t, _, t', present, entered⟩ := (gives_mapM.1 written).exists_of_mem member
  obtain ⟨value, rfl, evaluated⟩ := gives_map.1 entered
  exact ⟨t, value, t', evaluated, member?_of_entries distinct written present⟩

/-- An instruction goes on from the values that it found and changed. -/
theorem gives_gather {instruction : Instruction σ} {document value : Json} {s between s' : σ}
    {elements : List Json} (some_element : elements ≠ [])
    (given : Gives (evaluate registry settings document instruction) s value s')
    (changed : Threads (Becomes registry settings instruction.field) s
      (instruction.field.found document) elements between) :
    Gives (gather registry settings instruction.scopedKey instruction.field.array
      instruction.field.nested elements) between value s' := by
  rw [evaluate_eq] at given
  split at given
  · rename_i none_found
    rw [none_found] at changed
    exact absurd (threads_nil.1 changed).1 some_element
  · simp only [gives_bind, gives_mapM, gives_present] at given
    obtain ⟨others, middle, threaded, gathered⟩ := given
    obtain ⟨rfl, rfl⟩ := threaded.unique changed Becomes.unique
    exact gathered

theorem gives_run_of_gather {scopedKey : String} {array : Bool} {inner : Plan σ}
    {done rest results : List Json} {part value : Json} {s t s' : σ}
    (given : Gives (gather registry settings scopedKey array (some inner) (done ++ part :: rest)) s
      value s')
    (single : array = false → done = [])
    (before : Threads (fun s element result s' =>
      Gives (Plan.run registry settings inner element) s result s') s done results t) :
    ∃ nested t' place, Gives (Plan.run registry settings inner part) t nested t' ∧
      value.at? place = some nested := by
  cases array with
  | true =>
    simp only [gather, if_true, gives_bind, gives_mapM, gives_pure] at given
    obtain ⟨objects, _, threaded, rfl, rfl⟩ := given
    obtain ⟨first, _, between, rfl, earlier, later⟩ := threads_append.1 threaded
    obtain ⟨object, others, next, rfl, here, _⟩ := threads_cons.1 later
    -- The runs before `part` are those of `gather` too, so they leave the state `t`.
    simp only [Plan.run, gives_map] at before
    obtain ⟨tables, rfl, filled⟩ := threads_map.1 before
    obtain ⟨rfl, rfl⟩ := filled.unique earlier Gives.unique
    refine ⟨.object object, next, [.index done.length], gives_map.2 ⟨object, rfl, here⟩, ?_⟩
    simp [Json.at?, Json.step?, Json.item?, filled.length_eq]
  | false =>
    obtain rfl := single rfl
    obtain ⟨rfl, rfl⟩ := threads_nil.1 before
    exact ⟨value, s', [], given, rfl⟩

theorem gives_of_descends {plan inner : Plan σ} (distinct : (plan.map Instruction.key).Nodup)
    {document part result : Json} {s s' t : σ}
    (given : Gives (plan.run registry settings document) s result s')
    (down : Descends registry settings plan document s inner part t) :
    ∃ nested t' place, Gives (inner.run registry settings part) t nested t' ∧
      result.at? place = some nested := by
  obtain ⟨before, instruction, after, written, s₁, done, rest, s₂, results, rfl, earlier, nests,
    changed, single, runs⟩ := down
  obtain ⟨members, rfl, whole⟩ := (gives_run distinct).1 given
  obtain ⟨first, _, between, rfl, started, left⟩ := threads_append.1 (gives_mapM.1 whole)
  obtain ⟨_, others, next, rfl, here, _⟩ := threads_cons.1 left
  obtain ⟨rfl, rfl⟩ := (gives_mapM.2 started).unique earlier
  obtain ⟨value, rfl, evaluated⟩ := gives_map.1 here
  have gathered := gives_gather (by simp) evaluated changed
  rw [nests] at gathered
  obtain ⟨nested, t', place, ran, stands⟩ := gives_run_of_gather gathered single runs
  refine ⟨nested, t', .key instruction.key :: place, ran, ?_⟩
  have present : (instruction.key, value) ∈ first ++ (instruction.key, value) :: others :=
    List.mem_append_right _ List.mem_cons_self
  simp only [Json.at?, Json.step?, member?_of_entries distinct whole present, Option.bind_some,
    stands]

/-- Every run that a run with a result enters gives a result, which stands in that of the whole. -/
theorem gives_of_enters {plan inner : Plan σ} {document part result : Json} {s s' t : σ}
    (enters : Enters registry settings plan document s inner part t) (wellFormed : plan.WellFormed)
    (given : Gives (plan.run registry settings document) s result s') :
    inner.WellFormed ∧ ∃ nested t' place, Gives (inner.run registry settings part) t nested t' ∧
      result.at? place = some nested := by
  induction enters generalizing result s' with
  | self plan document s => exact ⟨wellFormed, result, s', [], given, rfl⟩
  | nested down _ ih =>
    cases wellFormed with
    | intro distinct below =>
      obtain ⟨middle, u, outer, ran, stands⟩ := gives_of_descends distinct given down
      obtain ⟨before, instruction, after, _, _, _, _, _, _, split, _, nests, _⟩ := down
      have member := split ▸ List.mem_append_right before List.mem_cons_self
      obtain ⟨sound, nested, t', place, deeper, inside⟩ :=
        ih (below instruction member _ nests) ran
      refine ⟨sound, nested, t', outer ++ place, deeper, ?_⟩
      rw [Json.at?_append, stands, Option.bind_some, inside]

/-- The first instruction of a plan runs its nested plan on values it found and changed. -/
theorem descends_first {instruction : Instruction σ} {after inner : Plan σ} {document part : Json}
    {results : List Json} {s between t : σ} (done rest : List Json)
    (nests : instruction.field.nested = some inner)
    (changed : Gives ((instruction.field.found document).mapM
      (present registry settings instruction.field)) s (done ++ part :: rest) between)
    (single : instruction.field.array = false → done = [])
    (runs : Threads (fun s element result s' =>
      Gives (Plan.run registry settings inner element) s result s') between done results t) :
    Descends registry settings (instruction :: after) document s inner part t := by
  simp only [gives_mapM, gives_present] at changed
  exact ⟨[], instruction, after, [], s, done, rest, between, results, rfl, gives_pure.2 ⟨rfl, rfl⟩,
    nests, changed, single, runs⟩

end Reshape.Extraction
