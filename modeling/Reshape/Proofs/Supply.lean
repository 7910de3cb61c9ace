import Reshape.Proofs.Conformance
import Reshape.Proofs.Script

/-!
# Uses of a default

What the values that a field finds call:

* `Supplies`: a producer is called for each use of its default, and nothing is called for any other
  default;
* `supply` puts the answers in place of the nulls among the values;
* `elementsScript`: the default is used once for each `null`, in order, up to the first value that
  cannot be changed;
* `performs_elements`: a field follows this script, although it changes each value before it uses
  the default for the next.
-/

namespace Reshape.Extraction

open Results

variable {σ : Type} {registry : Registry} {settings : Settings}

/-- The answers to the uses of a default, one after another, and the calls made for them. -/
def Supplies (fallback : Option (Default σ)) (answers : List Json) (calls : List (Call σ)) : Prop :=
  match fallback with
  | some (.producer next) => calls = answers.map (Call.mk next)
  | some (.value content) => calls = [] ∧ ∀ answer ∈ answers, answer = content
  | none => calls = [] ∧ ∀ answer ∈ answers, answer = .null

theorem supplies_nil {fallback : Option (Default σ)} {calls : List (Call σ)} :
    Supplies fallback [] calls ↔ calls = [] := by
  unfold Supplies
  split <;> simp

theorem supplies_append {fallback : Option (Default σ)} {answers more : List Json}
    {calls : List (Call σ)} :
    Supplies fallback (answers ++ more) calls ↔
      ∃ own later, calls = own ++ later ∧ Supplies fallback answers own ∧
        Supplies fallback more later := by
  have constant (content : Json) : (calls = [] ∧ ∀ answer ∈ answers ++ more, answer = content) ↔
      ∃ own later, calls = own ++ later ∧ (own = [] ∧ ∀ answer ∈ answers, answer = content) ∧
        later = [] ∧ ∀ answer ∈ more, answer = content := by
    constructor
    · rintro ⟨rfl, same⟩
      exact ⟨[], [], rfl, ⟨rfl, fun answer member => same answer (List.mem_append_left _ member)⟩,
        rfl, fun answer member => same answer (List.mem_append_right _ member)⟩
    · rintro ⟨_, _, rfl, ⟨rfl, first⟩, rfl, second⟩
      refine ⟨rfl, fun answer member => ?_⟩
      exact (List.mem_append.1 member).elim (first answer) (second answer)
  unfold Supplies
  split
  · simp
  · exact constant _
  · exact constant _

/-- One use of a default. -/
def useScript (fallback : Option (Default σ)) : Script σ Json := fun calls o =>
  ∃ answer, Supplies fallback [answer] calls ∧ o = .ok answer

theorem useScript_value (content : Json) :
    useScript (σ := σ) (some (.value content)) = Script.result (.ok content) := by
  funext calls o
  simp [useScript, Supplies, Script.result, and_assoc]

theorem useScript_none : useScript (σ := σ) none = Script.result (.ok .null) := by
  funext calls o
  simp [useScript, Supplies, Script.result, and_assoc]

theorem performs_call (next : StateM σ Json) :
    Performs (liftM next) (useScript (some (.producer next))) where
  made s := ⟨[⟨next, (next s).1⟩], ⟨_, rfl, rfl⟩, _, rfl, rfl⟩
  determined := by
    rintro s _ _ s' _ _ t ⟨answer, rfl, rfl⟩ ⟨_, here, rfl⟩ ⟨other, rfl, rfl⟩ ⟨_, there, rfl⟩
    cases here.symm.trans there
    exact ⟨rfl, rfl, rfl⟩

theorem performs_fetch {π ν : Type} (field : Field σ π ν) :
    Performs (liftM field.fetchDefault) (useScript field.default) := by
  unfold Field.fetchDefault
  cases field.default with
  | none =>
    rw [useScript_none]
    exact performs_pure _
  | some fallback =>
    cases fallback with
    | value content =>
      rw [useScript_value]
      exact performs_pure _
    | producer next => exact performs_call next

/-! ## Uses for the values of a field -/

/-- How many of the values are `null`. -/
def nulls (found : List Json) : Nat := found.countP Json.isNull

/-- The values, with answers in place of the nulls: the first for the first, and so on. -/
def supply : List Json → List Json → List Json
  | .null :: rest, answer :: answers => answer :: supply rest answers
  | value :: rest, answers => value :: supply rest answers
  | [], _ => []

@[simp] theorem nulls_nil : nulls [] = 0 := rfl

@[simp] theorem nulls_null (rest : List Json) : nulls (.null :: rest) = nulls rest + 1 :=
  List.countP_cons_of_pos rfl

theorem nulls_of_ne {value : Json} (h : value ≠ .null) (rest : List Json) :
    nulls (value :: rest) = nulls rest := by
  have other : ¬ value.isNull = true := fun null => h (isNull_iff.1 null)
  simp [nulls, other]

@[simp] theorem supply_null (rest answers : List Json) (answer : Json) :
    supply (.null :: rest) (answer :: answers) = answer :: supply rest answers := rfl

theorem supply_of_ne {value : Json} (h : value ≠ .null) (rest answers : List Json) :
    supply (value :: rest) answers = value :: supply rest answers := by
  cases value with
  | null => exact absurd rfl h
  | bool | number | string | array | object => rfl

/-- The answers of the first values do not reach the others. -/
theorem supply_append {first : List Json} (second : List Json) {answers : List Json}
    (more : List Json) (enough : answers.length = nulls first) :
    supply (first ++ second) (answers ++ more) = supply first answers ++ supply second more := by
  induction first generalizing answers with
  | nil =>
    obtain rfl := List.length_eq_zero_iff.1 enough
    rfl
  | cons value rest ih =>
    by_cases h : value = .null
    · subst h
      obtain _ | ⟨answer, answers⟩ := answers
      · simp at enough
      · simp only [List.length_cons, nulls_null, Nat.add_right_cancel_iff] at enough
        simp [ih enough]
    · rw [nulls_of_ne h] at enough
      simp [supply_of_ne h, ih enough]

/-- What a field makes of one found value, with a use of its default if the value is `null`. -/
def elementScript {ν : Type} (registry : Registry) (settings : Settings) (field : Field σ Path ν)
    (found : Json) : Script σ Json := fun calls o =>
  ∃ answers source, answers.length = nulls [found] ∧ Supplies field.default answers calls ∧
    supply [found] answers = [source] ∧ o = field.transform registry settings.strictModifiers source

theorem elementScript_null {ν : Type} (field : Field σ Path ν) :
    elementScript registry settings field .null =
      (useScript field.default).andThen fun source =>
        Script.result (field.transform registry settings.strictModifiers source) := by
  funext calls o
  apply propext
  constructor
  · rintro ⟨answers, source, one, supplied, taken, rfl⟩
    obtain ⟨answer, rfl⟩ := List.length_eq_one_iff.1 one
    cases taken
    exact .inr ⟨source, calls, [], by simp, ⟨source, supplied, rfl⟩, rfl, rfl⟩
  · rintro (⟨e, ⟨answer, _, failed⟩, _⟩ | ⟨source, own, _, rfl, ⟨answer, supplied, same⟩, rfl, rfl⟩)
    · cases failed
    · cases same
      exact ⟨[source], source, rfl, by simpa using supplied, rfl, rfl⟩

theorem elementScript_of_ne {ν : Type} (field : Field σ Path ν) {found : Json}
    (h : found ≠ .null) :
    elementScript registry settings field found =
      Script.result (field.transform registry settings.strictModifiers found) := by
  funext calls o
  apply propext
  constructor
  · rintro ⟨answers, source, none, supplied, taken, rfl⟩
    rw [nulls_of_ne h, nulls_nil, List.length_eq_zero_iff] at none
    subst none
    rw [supply_of_ne h] at taken
    cases taken
    exact ⟨supplies_nil.1 supplied, rfl⟩
  · rintro ⟨rfl, rfl⟩
    exact ⟨[], found, (nulls_of_ne h []).symm, supplies_nil.2 rfl, supply_of_ne h [] [], rfl⟩

theorem performs_present {ν : Type} (field : Field σ Path ν) (found : Json) :
    Performs (present registry settings field found)
      (elementScript registry settings field found) := by
  unfold present
  by_cases h : found = .null
  · rw [if_pos (isNull_iff.2 h), h, elementScript_null]
    exact (performs_fetch field).bind fun source => performs_mk _
  · rw [if_neg fun null => h (isNull_iff.1 null), elementScript_of_ne field h, pure_bind]
    exact performs_mk _

/-- What a field makes of all the values it found. The default is used once for each `null`, in
order, up to the first value that cannot be changed, that value included. -/
def elementsScript {ν : Type} (registry : Registry) (settings : Settings) (field : Field σ Path ν)
    (found : List Json) : Script σ (List Json) := fun calls o =>
  let change := field.transform registry settings.strictModifiers
  match o with
  | .ok elements => ∃ answers, answers.length = nulls found ∧
      Supplies field.default answers calls ∧ (supply found answers).mapM change = .ok elements
  | .error e => ∃ before element after answers done, found = before ++ element :: after ∧
      answers.length = nulls (before ++ [element]) ∧ Supplies field.default answers calls ∧
      (supply before answers).mapM change = .ok done ∧
      (supply (before ++ [element]) answers).mapM change = .error e

/-- Answers for the nulls of two lists are answers for those of the first and of the second. -/
theorem split_answers (first second : List Json) {answers : List Json}
    (enough : answers.length = nulls (first ++ second)) :
    ∃ own later, answers = own ++ later ∧ own.length = nulls first ∧
      later.length = nulls second := by
  have both : nulls (first ++ second) = nulls first + nulls second := List.countP_append
  refine ⟨answers.take (nulls first), answers.drop (nulls first), (List.take_append_drop ..).symm,
    ?_, ?_⟩
  · rw [List.length_take]
    omega
  · rw [List.length_drop]
    omega

theorem supply_single {value : Json} {answers : List Json}
    (enough : answers.length = nulls [value]) : ∃ source, supply [value] answers = [source] := by
  by_cases h : value = .null
  · subst h
    obtain ⟨answer, rfl⟩ := List.length_eq_one_iff.1 enough
    exact ⟨answer, rfl⟩
  · exact ⟨value, supply_of_ne h [] answers⟩

theorem supply_cons {value source : Json} {answers : List Json} (rest more : List Json)
    (enough : answers.length = nulls [value]) (taken : supply [value] answers = [source]) :
    supply (value :: rest) (answers ++ more) = source :: supply rest more := by
  rw [← List.singleton_append, supply_append rest more enough, taken, List.singleton_append]

theorem nulls_cons (value : Json) (rest : List Json) :
    nulls (value :: rest) = nulls [value] + nulls rest := by
  rw [← List.singleton_append]
  exact List.countP_append

section

variable {ν : Type} {field : Field σ Path ν} {value : Json} {rest : List Json}
  {calls : List (Call σ)}

theorem elementsScript_cons_ok {elements : List Json} :
    elementsScript registry settings field (value :: rest) calls (.ok elements) ↔
      ∃ element others own later, elements = element :: others ∧ calls = own ++ later ∧
        elementScript registry settings field value own (.ok element) ∧
        elementsScript registry settings field rest later (.ok others) := by
  constructor
  · rintro ⟨answers, enough, supplied, made⟩
    obtain ⟨first, second, rfl, one, more⟩ := split_answers [value] _ enough
    obtain ⟨source, taken⟩ := supply_single one
    obtain ⟨own, later, rfl, here, there⟩ := supplies_append.1 supplied
    rw [supply_cons rest second one taken] at made
    obtain ⟨element, others, rfl, changed, remaining⟩ := mapM_cons_eq_ok.1 made
    exact ⟨element, others, own, later, rfl, rfl, ⟨first, source, one, here, taken, changed.symm⟩,
      second, more, there, remaining⟩
  · rintro ⟨element, others, own, later, rfl, rfl, ⟨first, source, one, here, taken, changed⟩,
      second, more, there, remaining⟩
    refine ⟨first ++ second, ?_, supplies_append.2 ⟨own, later, rfl, here, there⟩, ?_⟩
    · rw [List.length_append, nulls_cons, one, more]
    · rw [supply_cons rest second one taken]
      exact mapM_cons_eq_ok.2 ⟨element, others, rfl, changed.symm, remaining⟩

theorem elementsScript_cons_error {e : Error} :
    elementsScript registry settings field (value :: rest) calls (.error e) ↔
      elementScript registry settings field value calls (.error e) ∨
      ∃ element own later, calls = own ++ later ∧
        elementScript registry settings field value own (.ok element) ∧
        elementsScript registry settings field rest later (.error e) := by
  constructor
  · rintro ⟨_ | ⟨head, before⟩, bad, after, answers, done, split, enough, supplied, made, failed⟩
    · obtain ⟨rfl, rfl⟩ := List.cons.inj split
      obtain ⟨source, taken⟩ := supply_single enough
      rw [List.nil_append, taken] at failed
      obtain here | ⟨_, _, later⟩ := mapM_cons_eq_error.1 failed
      · exact .inl ⟨answers, source, enough, supplied, taken, here.symm⟩
      · cases later
    · obtain ⟨rfl, rfl⟩ := List.cons.inj split
      obtain ⟨first, second, rfl, one, more⟩ := split_answers [value] _ enough
      obtain ⟨source, taken⟩ := supply_single one
      obtain ⟨own, later, rfl, here, there⟩ := supplies_append.1 supplied
      rw [supply_cons before second one taken] at made
      rw [List.cons_append, supply_cons (before ++ [bad]) second one taken] at failed
      obtain ⟨element, others, rfl, changed, remaining⟩ := mapM_cons_eq_ok.1 made
      obtain stopped | ⟨_, _, stopped⟩ := mapM_cons_eq_error.1 failed
      · cases changed.symm.trans stopped
      · exact .inr ⟨element, own, later, rfl, ⟨first, source, one, here, taken, changed.symm⟩,
          before, bad, after, second, others, rfl, more, there, remaining, stopped⟩
  · rintro (⟨answers, source, one, supplied, taken, failed⟩ |
      ⟨element, own, later, rfl, ⟨first, source, one, here, taken, changed⟩,
        before, bad, after, second, others, rfl, more, there, remaining, stopped⟩)
    · refine ⟨[], value, rest, answers, [], rfl, one, supplied, rfl, ?_⟩
      rw [List.nil_append, taken]
      exact mapM_cons_eq_error.2 (.inl failed.symm)
    · refine ⟨value :: before, bad, after, first ++ second, element :: others, rfl, ?_,
        supplies_append.2 ⟨own, later, rfl, here, there⟩, ?_, ?_⟩
      · rw [List.length_append, List.cons_append, nulls_cons, one, more]
      · rw [supply_cons before second one taken]
        exact mapM_cons_eq_ok.2 ⟨element, others, rfl, changed.symm, remaining⟩
      · rw [List.cons_append, supply_cons (before ++ [bad]) second one taken]
        exact mapM_cons_eq_error.2 (.inr ⟨element, changed.symm, stopped⟩)

end

/-- Value by value, a field makes these uses of its default. -/
theorem each_elementScript {ν : Type} (field : Field σ Path ν) (found : List Json) :
    Script.each (elementScript registry settings field) found =
      elementsScript registry settings field found := by
  induction found with
  | nil =>
    funext calls o
    apply propext
    cases o with
    | error e => simp [Script.each_nil_error, elementsScript]
    | ok elements =>
      rw [Script.each_nil_ok]
      constructor
      · rintro ⟨rfl, rfl⟩
        exact ⟨[], rfl, supplies_nil.2 rfl, rfl⟩
      · rintro ⟨answers, enough, supplied, made⟩
        obtain rfl := List.length_eq_zero_iff.1 enough
        cases made
        exact ⟨rfl, supplies_nil.1 supplied⟩
  | cons value rest ih =>
    funext calls o
    cases o with
    | error e => rw [Script.each_cons_error, elementsScript_cons_error, ih]
    | ok elements => rw [Script.each_cons_ok, elementsScript_cons_ok, ih]

theorem performs_elements {ν : Type} (field : Field σ Path ν) (found : List Json) :
    Performs (found.mapM (present registry settings field))
      (elementsScript registry settings field found) := by
  rw [← each_elementScript]
  exact .each (performs_present field) found

end Reshape.Extraction
