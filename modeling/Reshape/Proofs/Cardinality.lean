import Reshape.Proofs.NestedRuns

/-!
# One value or a list

What the array flag of a field says of its value, at every level of a result:

* `array_or_default`: a list is an array, unless nothing is found and the default is something else,
  and `default_stands`: where nothing is found a default is the value as it is;
* `one_or_nested`: where several values are an error, a field that is no list finds at most one, or
  has a nested plan, which then runs on the first of them;
* `lists_unless_defaulted`, `one_match_unless_nested`: the same of every run that a run enters.
-/

namespace Reshape.Extraction

variable {σ : Type} {registry : Registry} {settings : Settings}

/-- The value of a field that is a list is an array, or the default in place of any value. -/
theorem array_or_default {instruction : Instruction σ} {document value : Json} {s s' : σ}
    (list : instruction.field.array = true)
    (given : Gives (evaluate registry settings document instruction) s value s') :
    (∃ items, value = .array items) ∨
      instruction.field.found document = [] ∧ value ≠ .null ∧
        instruction.field.fetchDefault s = (value, s') := by
  rw [evaluate_eq] at given
  split at given
  · rename_i none_found
    obtain ⟨fetched, call, rfl⟩ := gives_absent.1 given
    by_cases h : fetched = .null
    · exact .inl ⟨[], by simp [h, list]⟩
    · exact .inr ⟨none_found, by simpa [h] using call⟩
  · obtain ⟨elements, between, _, gathered⟩ := gives_bind.1 given
    rw [list] at gathered
    cases nested : instruction.field.nested with
    | none =>
      rw [nested, gather, gives_mk] at gathered
      cases gathered.1
      exact .inl ⟨elements, rfl⟩
    | some inner =>
      simp only [nested, gather, if_true, gives_bind, gives_pure] at gathered
      obtain ⟨objects, _, _, rfl, _⟩ := gathered
      exact .inl ⟨objects.map .object, rfl⟩

/-- Where nothing is found, a default other than `null` is the value as it is. -/
theorem default_stands {instruction : Instruction σ} {document value default : Json}
    {s s' fetched : σ} (given : Gives (evaluate registry settings document instruction) s value s')
    (none_found : instruction.field.found document = [])
    (call : instruction.field.fetchDefault s = (default, fetched)) (present : default ≠ .null) :
    value = default := by
  rw [evaluate_eq, none_found] at given
  obtain ⟨_, called, rfl⟩ := gives_absent.1 given
  cases call.symm.trans called
  rw [if_pos present]

/-- Where several values are an error, a field that is no list finds at most one, or turns the first
of them into an object. -/
theorem one_or_nested {instruction : Instruction σ} {document value : Json} {s s' : σ}
    (policy : settings.cardinality = .error) (single : instruction.field.array = false)
    (given : Gives (evaluate registry settings document instruction) s value s') :
    (instruction.field.found document).length ≤ 1 ∨
      ∃ below first others between, instruction.field.nested = some below ∧
        Threads (Becomes registry settings instruction.field) s (instruction.field.found document)
          (first :: others) between ∧
        Gives (Plan.run registry settings below first) between value s' := by
  rw [evaluate_eq] at given
  split at given
  · rename_i none_found
    exact .inl (by simp [none_found])
  · rename_i some_found
    have found : 1 ≤ (instruction.field.found document).length := List.length_pos_iff.2 some_found
    simp only [gives_bind, gives_mapM, gives_present] at given
    obtain ⟨elements, between, changed, gathered⟩ := given
    have many : elements.length = (instruction.field.found document).length := changed.length_eq
    rw [single] at gathered
    cases nested : instruction.field.nested with
    | none =>
      rw [nested, gather, gives_mk, collect_eq_ok (many ▸ found)] at gathered
      refine .inl (Nat.not_lt.1 fun several => ?_)
      have tolerated := (gathered.1.2.2 rfl (many ▸ several)).2
      rw [policy] at tolerated
      cases tolerated
    | some below =>
      obtain ⟨first, others, rfl⟩ := List.exists_cons_of_length_pos (many ▸ found)
      rw [nested] at gathered
      exact .inr ⟨below, first, others, between, rfl, changed, gathered⟩

/-! ## Lists -/

/-- In every run that a run with a result enters, each field that is a list is an array in the
result of its own run, unless it finds nothing and has a default in place that is neither `null` nor
an array. Where it finds nothing, a default other than `null` is its value as it is, array or not.
-/
theorem lists_unless_defaulted {schema : Schema σ} {limit : Nat} {plan inner : Plan σ}
    {document part result : Json} {s s' t : σ} (wellFormed : schema.WellFormed)
    (compiled : Plan.compile limit schema = .ok plan)
    (given : Gives (plan.run registry settings document) s result s')
    (enters : Enters registry settings plan document s inner part t) :
    ∃ nested t' place, Gives (inner.run registry settings part) t nested t' ∧
      result.at? place = some nested ∧
      ∀ instruction ∈ inner, instruction.field.array = true →
        ∃ u value u', Gives (evaluate registry settings part instruction) u value u' ∧
          nested.member? instruction.key = some value ∧
          ((∃ items, value = .array items) ∨
            instruction.field.found part = [] ∧ value ≠ .null ∧
              instruction.field.fetchDefault u = (value, u')) ∧
          (instruction.field.found part = [] → ∀ default fetched,
            instruction.field.fetchDefault u = (default, fetched) → default ≠ .null →
            value = default) := by
  have sound := Plan.wellFormed_of_mirrors wellFormed (Plan.mirrors_of_compile compiled)
  obtain ⟨⟨distinct, _⟩, nested, t', place, ran, stands⟩ := gives_of_enters enters sound given
  refine ⟨nested, t', place, ran, stands, fun instruction member list => ?_⟩
  obtain ⟨u, value, u', evaluated, found⟩ := gives_evaluate distinct ran member
  exact ⟨u, value, u', evaluated, found, array_or_default list evaluated,
    fun none_found _ _ => default_stands evaluated none_found⟩

/-- The members of a group, or a word for the lack of any. -/
def memberRules : Schema Unit :=
  [("members",
    .record ⟨some "$.members[*]", some (.value (.string "nobody")), [], [], true, none⟩)]

def memberPlan (scope : String) : Plan Unit :=
  [⟨"members", Schema.scopedKey scope "members",
    ⟨some (.simple "$.members[*]" [.key "members", .every]), some (.value (.string "nobody")), [],
      [], true, none⟩⟩]

def groupRules : Schema Unit :=
  [("groups", .record ⟨some "$.groups[*]", none, [], [], true, some memberRules⟩)]

def groupPlan : Plan Unit :=
  [⟨"groups", "groups",
    ⟨some (.simple "$.groups[*]" [.key "groups", .every]), none, [], [], true,
      some (memberPlan "groups")⟩⟩]

/-- A group of one and a group of none. -/
def groups : Json :=
  .object [("groups", .array [.object [("members", .array [.string "Ada"])], .object []])]

theorem memberRules_wellFormed : memberRules.WellFormed := by
  refine .intro (by decide) ?_
  intro entry member inner nested
  obtain rfl := List.mem_singleton.1 member
  cases nested

theorem compile_members (limit : Nat) (scope : String) (depth : Nat) :
    Plan.compileRules limit scope depth memberRules = .ok (memberPlan scope) := by
  have path : Path.compile "$.members[*]" =
      .ok (.simple "$.members[*]" [.key "members", .every]) :=
    Path.compile_written (by simp) (by decide) rfl
  simp [memberRules, memberPlan, Plan.compileRules, Plan.compileRule, Plan.compileNested,
    Field.check, path, bind, Except.bind, pure, Except.pure, Functor.map, Except.map]

/-- A group without members has a word where a list is expected. -/
theorem nobody_is_no_list :
    memberRules.WellFormed ∧ Plan.compile 32 memberRules = .ok (memberPlan "") ∧
      ∃ result, Gives ((memberPlan "").run .initial .standard (.object [])) () result () ∧
        ∃ instruction ∈ memberPlan "", instruction.field.array = true ∧
          ∃ value, result.member? instruction.key = some value ∧ ¬ ∃ items, value = .array items :=
  ⟨memberRules_wellFormed, compile_members 32 "" 0, .object [("members", .string "nobody")],
    by decide +kernel, _, List.mem_cons_self, rfl, .string "nobody", rfl, nofun⟩

/-- The groups are a list, and so are the members of the first; the second has the word. -/
theorem groups_listed :
    groupRules.WellFormed ∧ Plan.compile 32 groupRules = .ok groupPlan ∧
      ∃ result, Gives (groupPlan.run .initial .standard groups) () result () ∧
        Enters .initial .standard groupPlan groups () (memberPlan "groups") (.object []) () ∧
        ∃ nested t' place,
          Gives ((memberPlan "groups").run .initial .standard (.object [])) () nested t' ∧
          result.at? place = some nested ∧
          ∀ instruction ∈ memberPlan "groups", instruction.field.array = true →
            ∃ u value u',
              Gives (evaluate .initial .standard (.object []) instruction) u value u' ∧
              nested.member? instruction.key = some value ∧
              ((∃ items, value = .array items) ∨
                instruction.field.found (.object []) = [] ∧ value ≠ .null ∧
                  instruction.field.fetchDefault u = (value, u')) ∧
              (instruction.field.found (.object []) = [] → ∀ default fetched,
                instruction.field.fetchDefault u = (default, fetched) → default ≠ .null →
                value = default) := by
  have wellFormed : groupRules.WellFormed := by
    refine .intro (by decide) ?_
    intro entry member inner nested
    obtain rfl := List.mem_singleton.1 member
    cases nested
    exact memberRules_wellFormed
  have compiled : Plan.compile 32 groupRules = .ok groupPlan := by
    have path : Path.compile "$.groups[*]" =
        .ok (.simple "$.groups[*]" [.key "groups", .every]) :=
      Path.compile_written (by simp) (by decide) rfl
    simp [groupRules, groupPlan, Plan.compile, Plan.compileRules, Plan.compileRule,
      Plan.compileNested, Field.check, Schema.scopedKey, path, compile_members, bind, Except.bind,
      pure, Except.pure, Functor.map, Except.map]
  have given : Gives (groupPlan.run .initial .standard groups) ()
      (.object [("groups", .array
        [.object [("members", .array [.string "Ada"])], .object [("members", .string "nobody")]])])
      () := by
    decide +kernel
  have enters : Enters .initial .standard groupPlan groups () (memberPlan "groups") (.object [])
      () := by
    have first : Gives ((memberPlan "groups").run .initial .standard
        (.object [("members", .array [.string "Ada"])])) ()
        (.object [("members", .array [.string "Ada"])]) () := by
      decide +kernel
    have down : Descends .initial .standard groupPlan groups () (memberPlan "groups") (.object [])
        () :=
      descends_first _ [] rfl (by decide +kernel) (fun single => absurd single (by decide))
        (.cons first (.nil _))
    exact .nested down (.self ..)
  exact ⟨wellFormed, compiled, _, given, enters,
    lists_unless_defaulted wellFormed compiled given enters⟩

/-! ## Single values -/

/-- Where several values are an error, in every run that a run with a result enters, each field that
is no list and has no nested plan finds at most one value. One with a nested plan may find more: its
value is then what the nested plan makes of the first. -/
theorem one_match_unless_nested {schema : Schema σ} {limit : Nat} {plan inner : Plan σ}
    {document part result : Json} {s s' t : σ} (policy : settings.cardinality = .error)
    (wellFormed : schema.WellFormed) (compiled : Plan.compile limit schema = .ok plan)
    (given : Gives (plan.run registry settings document) s result s')
    (enters : Enters registry settings plan document s inner part t) :
    ∃ nested t' place, Gives (inner.run registry settings part) t nested t' ∧
      result.at? place = some nested ∧
      ∀ instruction ∈ inner, instruction.field.array = false →
        (instruction.field.found part).length ≤ 1 ∨
          ∃ below first others u between value u', instruction.field.nested = some below ∧
            Threads (Becomes registry settings instruction.field) u (instruction.field.found part)
              (first :: others) between ∧
            Gives (Plan.run registry settings below first) between value u' ∧
            nested.member? instruction.key = some value := by
  have sound := Plan.wellFormed_of_mirrors wellFormed (Plan.mirrors_of_compile compiled)
  obtain ⟨⟨distinct, _⟩, nested, t', place, ran, stands⟩ := gives_of_enters enters sound given
  refine ⟨nested, t', place, ran, stands, fun instruction member single => ?_⟩
  obtain ⟨u, value, u', evaluated, found⟩ := gives_evaluate distinct ran member
  obtain few | ⟨below, first, others, between, nests, changed, made⟩ :=
    one_or_nested policy single evaluated
  · exact .inl few
  · exact .inr ⟨below, first, others, u, between, value, u', nests, changed, made, found⟩

/-- One friend, where the path finds all of them. -/
def companionRules : Schema Unit :=
  [("friend", .record ⟨some "$.friends[*]", none, [], [], false, some [("name", .path "$.name")]⟩)]

def namePlan : Plan Unit :=
  [⟨"name", "friend.name", .ofPath (.simple "$.name" [.key "name"])⟩]

def companionPlan : Plan Unit :=
  [⟨"friend", "friend",
    ⟨some (.simple "$.friends[*]" [.key "friends", .every]), none, [], [], false, some namePlan⟩⟩]

theorem companionRules_wellFormed : companionRules.WellFormed := by
  refine .intro (by decide) ?_
  intro entry member inner nested
  obtain rfl := List.mem_singleton.1 member
  cases nested
  refine .intro (by decide) ?_
  intro entry member inner nested
  obtain rfl := List.mem_singleton.1 member
  cases nested

theorem companionRules_compile : Plan.compile 32 companionRules = .ok companionPlan := by
  have outer : Path.compile "$.friends[*]" =
      .ok (.simple "$.friends[*]" [.key "friends", .every]) :=
    Path.compile_written (by simp) (by decide) rfl
  have inner : Path.compile "$.name" = .ok (.simple "$.name" [.key "name"]) :=
    Path.compile_written (by simp) (by decide) rfl
  simp [companionRules, companionPlan, namePlan, Plan.compile, Plan.compileRules, Plan.compileRule,
    Plan.compileNested, Field.check, Schema.scopedKey, outer, inner, bind, Except.bind, pure,
    Except.pure, Functor.map, Except.map]

/-- Two friends are found where one is expected, several values are an error, and yet the run gives
a result: the second friend is dropped. -/
theorem second_friend_dropped :
    let settings : Settings := { cardinality := .error }
    companionRules.WellFormed ∧ Plan.compile 32 companionRules = .ok companionPlan ∧
      Gives (companionPlan.run .initial settings friends) ()
        (.object [("friend", .object [("name", .string "Ada")])]) () ∧
      ∃ instruction ∈ companionPlan, instruction.field.array = false ∧
        (instruction.field.found friends).length = 2 :=
  ⟨companionRules_wellFormed, companionRules_compile, by decide +kernel, _, List.mem_cons_self, rfl,
    by decide +kernel⟩

/-- The friend who is kept has one name. -/
theorem first_friend_kept :
    let settings : Settings := { cardinality := .error }
    let ada : Json := .object [("name", .string "Ada")]
    settings.cardinality = .error ∧ companionRules.WellFormed ∧
      Plan.compile 32 companionRules = .ok companionPlan ∧
      ∃ result, Gives (companionPlan.run .initial settings friends) () result () ∧
        Enters .initial settings companionPlan friends () namePlan ada () ∧
        ∃ nested t' place, Gives (namePlan.run .initial settings ada) () nested t' ∧
          result.at? place = some nested ∧
          ∀ instruction ∈ namePlan, instruction.field.array = false →
            (instruction.field.found ada).length ≤ 1 ∨
              ∃ below first others u between value u', instruction.field.nested = some below ∧
                Threads (Becomes .initial settings instruction.field) u
                  (instruction.field.found ada) (first :: others) between ∧
                Gives (Plan.run .initial settings below first) between value u' ∧
                nested.member? instruction.key = some value := by
  intro settings ada
  have given : Gives (companionPlan.run .initial settings friends) ()
      (.object [("friend", .object [("name", .string "Ada")])]) () := by
    decide +kernel
  have enters : Enters .initial settings companionPlan friends () namePlan ada () :=
    .nested (descends_first [] [.object []] rfl (by decide +kernel)
      (fun _ => rfl) (.nil _)) (.self ..)
  exact ⟨rfl, companionRules_wellFormed, companionRules_compile, _, given, enters,
    one_match_unless_nested rfl companionRules_wellFormed companionRules_compile given enters⟩

end Reshape.Extraction
