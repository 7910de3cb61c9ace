import Mathlib.Data.List.Forall2
import Reshape.Extractor
import Reshape.Proofs.FirstFault
import Reshape.Proofs.Grammar
import Reshape.Proofs.Trimming

/-!
# Shorthand

Schemas may be written briefly: a path for a whole rule, one of two spellings, one name for a list of
them, `null` for what is not there, members that mean nothing.

* `Schema.inFull` writes a schema in full, at every level;
* `Schema.unabridged` is what this does to the schema that was read: a path alone becomes a field,
  which compiles to the same (`compileRules_unabridged`);
* `flatFieldOf_inFull`: the members of a rule describe the same field in full, unless the rule has
  neither a path nor a default. Such a rule may lose all its members, but it does not compile;
* `Restates` says that a rule in full reads as the rule without shorthand if it compiles, and
  `paired_rulesInFull` says so of all rules that are read;
* `shorthand_means_nothing` puts these together.
-/

namespace Reshape

open Results

variable {σ : Type}

/-! ## Writing in full -/

namespace Rule

/-- A member of this name, if there is something to hold. -/
def slot (name : String) (content : Option Json) : Keyed Json :=
  (content.map fun value => (name, value)).toList

/-- A modifier without the blanks around its name. -/
def trimmedName : Json → Json
  | .string name => .string (Text.trim name)
  | other => other

/-- One modifier or several as a list. -/
def nameList : Json → Json
  | .array names => .array (names.map trimmedName)
  | name => .array [trimmedName name]

/-- The members of a rule in full, its nested schema aside. The order of members means nothing. -/
def flatInFull (members : Keyed Json) : Keyed Json :=
  slot "path" ((members.get? "path").filter (!·.isNull)) ++
    (slot "modifiers" ((firstMember? members ["modifiers", "modifier"]).map nameList) ++
      (slot "maps" (firstMember? members ["maps", "map"]) ++
        (slot "type" ((members.get? "type").filter (· = .string "array")) ++
          slot "default" (members.get? "default"))))

end Rule

namespace Schema

mutual

/-- Each rule in full. -/
def rulesInFull : List (String × Json) → List (String × Json)
  | [] => []
  | (key, value) :: rest => (key, ruleInFull value) :: rulesInFull rest

/-- A rule in full: a path is the `path` of a rule without other members. -/
def ruleInFull : Json → Json
  | .string path => .object [("path", .string path)]
  | .object members => .object (Rule.flatInFull members ++ nestedInFull members)
  | other => other

/-- The nested schema of a rule in full. -/
def nestedInFull : List (String × Json) → Keyed Json
  | [] => []
  | (name, value) :: rest =>
    if name = "schema" then
      match value with
      | .null => []
      | .object rules => [("schema", .object (Keyed.ofList (rulesInFull rules)))]
      | other => [("schema", other)]
    else nestedInFull rest

end

/-- A written schema in full. A repeated key counts once, as the reader has it. -/
def inFull : Json → Json
  | .object rules => .object (Keyed.ofList (rulesInFull rules))
  | other => other

end Schema

/-! ## The members of a rule -/

namespace Rule

theorem get?_slot (name : String) (content : Option Json) (key : String) :
    (slot name content).get? key = if name = key then content else none := by
  cases content <;> simp [slot, Keyed.get?]

section

variable (members : Keyed Json) (nested : Option Json)

/-- A rule in full with what it nests. -/
abbrev inFull : Keyed Json := flatInFull members ++ slot "schema" nested

theorem get?_path_inFull :
    (inFull members nested).get? "path" = (members.get? "path").filter (!·.isNull) := by
  simp [flatInFull, Keyed.get?_append, get?_slot]

theorem get?_type_inFull :
    (inFull members nested).get? "type" = (members.get? "type").filter (· = .string "array") := by
  simp [flatInFull, Keyed.get?_append, get?_slot]

theorem get?_default_inFull :
    (inFull members nested).get? "default" = members.get? "default" := by
  simp [flatInFull, Keyed.get?_append, get?_slot]

theorem get?_schema_inFull : (inFull members nested).get? "schema" = nested := by
  simp [flatInFull, Keyed.get?_append, get?_slot]

/-- What counts of two spellings is not `null`. -/
theorem filter_firstMember? (plural singular : String) :
    (firstMember? members [plural, singular]).filter (!·.isNull) =
      firstMember? members [plural, singular] := by
  cases counted : firstMember? members [plural, singular] with
  | none => rfl
  | some value =>
    obtain ⟨solid, _⟩ := firstMember?_eq_some_iff.1 counted
    simp [Option.filter, isNull_eq_false_iff.2 solid]

theorem firstMember?_modifiers_inFull :
    firstMember? (inFull members nested) ["modifiers", "modifier"] =
      (firstMember? members ["modifiers", "modifier"]).map nameList := by
  have solid (value : Json) : (nameList value).isNull = false := by
    cases value <;> rfl
  rw [firstMember?_eq_or (inFull members nested)]
  simp only [flatInFull, Keyed.get?_append, get?_slot]
  cases firstMember? members ["modifiers", "modifier"] <;> simp [solid]

theorem firstMember?_maps_inFull :
    firstMember? (inFull members nested) ["maps", "map"] =
      firstMember? members ["maps", "map"] := by
  rw [firstMember?_eq_or (inFull members nested), ← filter_firstMember? members]
  simp [flatInFull, Keyed.get?_append, get?_slot]

end

theorem pathOf_inFull (key : String) (members : Keyed Json) (nested : Option Json) :
    pathOf key (inFull members nested) = pathOf key members := by
  unfold pathOf
  rw [get?_path_inFull]
  cases members.get? "path" with
  | none => rfl
  | some value => cases value <;> rfl

theorem ofJson_trimmedName {key : String} {value : Json} {modifier : Modifier}
    (read : Modifier.ofJson key value = .ok modifier) :
    Modifier.ofJson key (trimmedName value) = .ok modifier := by
  cases value with
  | string name =>
    simp only [Modifier.ofJson] at read
    split at read
    · cases read
    · rename_i named
      simp only [trimmedName, Modifier.ofJson, Text.isBlankText_trim, Text.trim_trim]
      rwa [if_neg named]
  | null | bool | number | array | object => cases read

theorem mapM_trimmedName {key : String} {names : List Json} {modifiers : List Modifier}
    (read : names.mapM (Modifier.ofJson key) = .ok modifiers) :
    (names.map trimmedName).mapM (Modifier.ofJson key) = .ok modifiers := by
  induction names generalizing modifiers with
  | nil => exact read
  | cons name rest ih =>
    obtain ⟨modifier, others, rfl, here, later⟩ := mapM_cons_eq_ok.1 read
    exact mapM_cons_eq_ok.2 ⟨modifier, others, rfl, ofJson_trimmedName here, ih later⟩

theorem modifiersOf_inFull {key : String} {members : Keyed Json} {modifiers : List Modifier}
    (read : modifiersOf key members = .ok modifiers) (nested : Option Json) :
    modifiersOf key (inFull members nested) = .ok modifiers := by
  unfold modifiersOf at read ⊢
  rw [firstMember?_modifiers_inFull]
  cases counted : firstMember? members ["modifiers", "modifier"] with
  | none => rwa [counted] at read
  | some value =>
    rw [counted] at read
    have single {name : Json} (read : List.singleton <$> Modifier.ofJson key name = .ok modifiers) :
        [trimmedName name].mapM (Modifier.ofJson key) = .ok modifiers := by
      obtain ⟨modifier, named, rfl⟩ := map_eq_ok.1 read
      exact mapM_trimmedName (mapM_cons_eq_ok.2 ⟨modifier, [], rfl, named, List.mapM_nil⟩)
    cases value with
    | array names => exact mapM_trimmedName read
    | null | bool | number | string | object => exact single read

theorem mapsOf_inFull (key : String) (members : Keyed Json) (nested : Option Json) :
    mapsOf key (inFull members nested) = mapsOf key members := by
  unfold mapsOf
  rw [firstMember?_maps_inFull]

theorem arrayOf_inFull {key : String} {members : Keyed Json} {array : Bool}
    (read : arrayOf key members = .ok array) (nested : Option Json) :
    arrayOf key (inFull members nested) = .ok array := by
  unfold arrayOf at read ⊢
  rw [get?_type_inFull]
  cases found : members.get? "type" with
  | none => rwa [found] at read
  | some value =>
    rw [found] at read
    cases value with
    | string name =>
      obtain rfl : (name == "array") = array := Except.ok.inj read
      by_cases same : name = "array"
      · simp [Option.filter, same]
      · simp [Option.filter, same]
    | null => exact read
    | bool | number | array | object => cases read

/-- A rule that can be filled describes the same field in full. -/
theorem flatFieldOf_inFull {ν : Type} {key : String} {members : Keyed Json}
    {field : Field σ String ν} (read : flatFieldOf key members = .ok field)
    (filled : field.path.isSome ∨ field.default.isSome) (nested : Option Json) :
    flatFieldOf key (inFull members nested) = .ok field := by
  obtain ⟨_, path, modifiers, maps, array, paths, names, tables, list, rfl⟩ :=
    flatFieldOf_eq_ok.1 read
  refine flatFieldOf_eq_ok.2 ⟨?_, path, modifiers, maps, array,
    (pathOf_inFull key members nested).trans paths, modifiersOf_inFull names nested,
    (mapsOf_inFull key members nested).trans tables, arrayOf_inFull list nested, ?_⟩
  · -- Without members the rule would have neither a path nor a default.
    intro empty
    obtain located | fallback := filled
    · have nowhere := (pathOf_inFull key members nested).trans paths
      rw [empty] at nowhere
      cases nowhere
      cases located
    · have nothing := get?_default_inFull members nested
      rw [empty] at nothing
      rw [← nothing] at fallback
      cases fallback
  · rw [get?_default_inFull]

end Rule

/-! ## Tables with the same keys -/

namespace Keyed

variable {α β : Type} {R : String → α → β → Prop}

/-- Two tables have the same keys in the same order, with related contents under each. -/
abbrev Paired (R : String → α → β → Prop) : Keyed α → Keyed β → Prop :=
  List.Forall₂ fun first second => first.1 = second.1 ∧ R first.1 first.2 second.2

theorem paired_insert {first : Keyed α} {second : Keyed β} (paired : Paired R first second)
    {key : String} {a : α} {b : β} (related : R key a b) :
    Paired R (first.insert key a) (second.insert key b) := by
  induction paired with
  | nil => exact .cons ⟨rfl, related⟩ .nil
  | @cons head other rest others here later ih =>
    obtain ⟨k, v⟩ := head
    obtain ⟨l, w⟩ := other
    obtain ⟨rfl, below⟩ := here
    simp only [insert]
    split
    · rename_i same
      subst same
      exact .cons ⟨rfl, related⟩ later
    · exact .cons ⟨rfl, below⟩ ih

theorem paired_ofList {first : List (String × α)} {second : List (String × β)}
    (paired : Paired R first second) : Paired R (ofList first) (ofList second) := by
  suffices ∀ (done : Keyed α) (other : Keyed β), Paired R done other →
      Paired R (done.insertAll first) (other.insertAll second) from this [] [] .nil
  induction paired with
  | nil => exact fun _ _ h => h
  | @cons head partner rest others here later ih =>
    intro done other before
    obtain ⟨k, v⟩ := head
    obtain ⟨l, w⟩ := partner
    obtain ⟨rfl, related⟩ := here
    exact ih _ _ (paired_insert before related)

end Keyed

/-! ## What is read -/

namespace Schema

mutual

/-- The rules with every path alone made a field. -/
def unabridged : List (String × Rule σ) → List (String × Rule σ)
  | [] => []
  | (key, rule) :: rest => (key, unabridgedRule rule) :: unabridged rest

def unabridgedRule : Rule σ → Rule σ
  | .path expression => .record (.ofPath expression)
  | .record ⟨path, fallback, modifiers, maps, array, nested⟩ =>
    .record ⟨path, fallback, modifiers, maps, array, unabridgedNested nested⟩

def unabridgedNested : Option (List (String × Rule σ)) → Option (List (String × Rule σ))
  | none => none
  | some rules => some (unabridged rules)

end

theorem keys_unabridged (rules : List (String × Rule σ)) :
    Keyed.keys (unabridged rules) = Keyed.keys rules := by
  induction rules with
  | nil => rfl
  | cons entry rest ih =>
    obtain ⟨key, rule⟩ := entry
    simp [unabridged, ih]

mutual

theorem compileRules_unabridged (limit : Nat) (scope : String) (depth : Nat) :
    (rules : List (String × Rule σ)) →
      Plan.compileRules limit scope depth (unabridged rules) =
        Plan.compileRules limit scope depth rules
  | [] => rfl
  | (key, rule) :: rest => by
    simp only [unabridged, Plan.compileRules, compileRule_unabridged limit _ depth rule,
      compileRules_unabridged limit scope depth rest]

/-- A path alone compiles to what a field of nothing else compiles to. -/
theorem compileRule_unabridged (limit : Nat) (key : String) (depth : Nat) :
    (rule : Rule σ) →
      Plan.compileRule limit key depth (unabridgedRule rule) = Plan.compileRule limit key depth rule
  | .path expression => by
    rw [Plan.compileRule_eq, Plan.compileRule_eq]
    rfl
  | .record ⟨path, fallback, modifiers, maps, array, nested⟩ => by
    simp only [unabridgedRule, Plan.compileRule, compileNested_unabridged limit key depth nested]
    rfl

theorem compileNested_unabridged (limit : Nat) (key : String) (depth : Nat) :
    (nested : Option (List (String × Rule σ))) →
      Plan.compileNested limit key depth (unabridgedNested nested) =
        Plan.compileNested limit key depth nested
  | none => rfl
  | some rules => by
    simp only [unabridgedNested, Plan.compileNested, compileRules_unabridged limit key _ rules]

end

/-! ## Reading what is written in full -/

theorem nestedInFull_eq (members : Keyed Json) :
    nestedInFull members = Rule.slot "schema"
      (match members.get? "schema" with
        | some (.object rules) => some (.object (Keyed.ofList (rulesInFull rules)))
        | other => other.filter (!·.isNull)) := by
  induction members with
  | nil => rfl
  | cons member rest ih =>
    obtain ⟨name, value⟩ := member
    unfold nestedInFull Keyed.get?
    by_cases here : name = "schema"
    · rw [if_pos here, if_pos here]
      cases value <;> rfl
    · rw [if_neg here, if_neg here, ih]

/-- The value reads as the rule without its shorthand, provided that the rule compiles. -/
def Restates (scope key : String) (value : Json) (rule : Rule σ) : Prop :=
  ∀ limit depth field, Plan.compileRule limit (scopedKey scope key) depth rule = .ok field →
    ruleAt (scopedKey scope key) value = .ok (unabridgedRule rule)

theorem rulesBelow_of_restates {scope : String} {values : List (String × Json)}
    {rules : List (String × Rule σ)} (paired : Keyed.Paired (Restates scope) values rules)
    {limit depth : Nat} {plan : Plan σ}
    (compiled : Plan.compileRules limit scope depth rules = .ok plan) :
    rulesBelow scope values = .ok (unabridged rules) := by
  induction paired generalizing plan with
  | nil => rfl
  | @cons value rule values rules here _ ih =>
    obtain ⟨key, value⟩ := value
    obtain ⟨_, rule⟩ := rule
    obtain ⟨rfl, restates⟩ := here
    simp only [Plan.compileRules, bind_eq_ok] at compiled
    obtain ⟨field, first, others, later, _⟩ := compiled
    simp only [rulesBelow, unabridged, bind_eq_ok, pure_eq_ok]
    exact ⟨_, restates limit depth field first, _, ih later, rfl⟩

/-- Of rules that are read, those that are kept read without their shorthand if they compile. -/
theorem ofList_rulesInFull {scope : String} {rules : List (String × Json)}
    {entries : List (String × Rule σ)}
    (paired : Keyed.Paired (Restates scope) (rulesInFull rules) entries) {limit depth : Nat}
    {plan : Plan σ}
    (compiled : Plan.compileRules limit scope depth (Keyed.ofList entries) = .ok plan) :
    Keyed.ofList <$> rulesBelow scope (Keyed.ofList (rulesInFull rules)) =
      .ok (unabridged (Keyed.ofList entries)) := by
  have distinct : Keyed.Distinct (unabridged (Keyed.ofList entries)) := by
    rw [Keyed.Distinct, keys_unabridged]
    exact Keyed.distinct_ofList entries
  rw [rulesBelow_of_restates (Keyed.paired_ofList paired) compiled]
  exact congrArg Except.ok (Keyed.ofList_eq distinct)

/-- A rule that compiles has a path or a default, and what it nests compiles one level deeper. -/
theorem compiles_of_rule {limit depth : Nat} {key : String} {rule : Rule σ}
    {field : Field σ Path (Plan σ)} (compiled : Plan.compileRule limit key depth rule = .ok field) :
    (rule.field.path.isSome ∨ rule.field.default.isSome) ∧
      ∀ rules, rule.field.nested = some rules →
        ∃ plan, Plan.compileRules limit key (depth + 1) rules = .ok plan := by
  rw [Plan.compileRule_eq] at compiled
  simp only [bind_eq_ok] at compiled
  obtain ⟨_, checked, _, _, plan, below, _⟩ := compiled
  constructor
  · have sound := (Field.reports_check key rule.field).eq_ok_iff.1 ⟨_, checked⟩
    have filled := Field.gaps_eq_nil_iff.1 (List.append_eq_nil_iff.1 sound).1
    cases located : rule.field.path with
    | some path => exact .inl rfl
    | none => exact .inr (Option.isSome_iff_ne_none.2 fun absent => filled ⟨located, absent⟩)
  · intro rules nested
    rw [nested] at below
    unfold Plan.compileNested at below
    split at below
    · cases below
    · obtain ⟨inner, compiled, _⟩ := map_eq_ok.1 below
      exact ⟨inner, compiled⟩

theorem nestedOf_inFull {key : String} {members : Keyed Json} {nested : Option (Schema σ)}
    (read : nestedOf key members = .ok nested)
    (each : ∀ inner, members.get? "schema" = some (.object inner) →
      ∀ {entries : List (String × Rule σ)}, rulesBelow key inner = .ok entries →
        Keyed.Paired (Restates key) (rulesInFull inner) entries)
    (compiles : ∀ rules, nested = some rules →
      ∃ limit depth plan, Plan.compileRules limit key depth rules = .ok plan) :
    nestedOf key (Rule.flatInFull members ++ nestedInFull members) =
      .ok (unabridgedNested nested) := by
  rw [nestedInFull_eq, nestedOf_eq, Rule.get?_schema_inFull]
  rw [nestedOf_eq] at read
  cases found : members.get? "schema" with
  | none =>
    rw [found] at read
    cases read
    rfl
  | some value =>
    rw [found] at read
    cases value with
    | null =>
      cases read
      rfl
    | object inner =>
      obtain ⟨rules, outer, rfl⟩ := map_eq_ok.1 read
      obtain ⟨entries, inside, rfl⟩ := map_eq_ok.1 outer
      obtain ⟨limit, depth, plan, compiled⟩ := compiles _ rfl
      exact map_eq_ok.2 ⟨_, ofList_rulesInFull (each inner found inside) compiled, rfl⟩
    | bool | number | string | array => cases read

/-- Rules that are read read in full as the rules without their shorthand. -/
theorem paired_rulesInFull {scope : String} {rules : List (String × Json)}
    {entries : List (String × Rule σ)} (read : rulesBelow scope rules = .ok entries) :
    Keyed.Paired (Restates scope) (rulesInFull rules) entries := by
  induction rules using rules_induction generalizing scope entries with
  | nil =>
    cases read
    exact .nil
  | cons key value rest ih below =>
    simp only [rulesBelow, bind_eq_ok, pure_eq_ok] at read
    obtain ⟨rule, first, others, later, rfl⟩ := read
    refine .cons ⟨rfl, ?_⟩ (ih later)
    intro limit depth field compiled
    cases value with
    | string path =>
      cases first
      rfl
    | object members =>
      simp only [ruleAt, bind_eq_ok, pure_eq_ok] at first
      obtain ⟨flat, described, nested, nests, rfl⟩ := first
      obtain ⟨filled, deeper⟩ := compiles_of_rule compiled
      have flatly := Rule.flatFieldOf_inFull described filled
      have within : nestedOf (scopedKey scope key)
          (Rule.flatInFull members ++ nestedInFull members) = .ok (unabridgedNested nested) := by
        refine nestedOf_inFull nests ?_ fun rules same => ⟨limit, depth + 1, deeper rules same⟩
        intro inner found entries inside
        exact below members inner rfl (Keyed.mem_of_get? found) inside
      simp only [ruleInFull, ruleAt, bind_eq_ok, pure_eq_ok]
      refine ⟨flat, ?_, unabridgedNested nested, within, rfl⟩
      rw [nestedInFull_eq]
      exact flatly _
    | null | bool | number | array => cases first

theorem ofJson_inFull {value : Json} {schema : Schema σ} (read : ofJson value = .ok schema)
    {limit : Nat} {plan : Plan σ} (compiled : Plan.compile limit schema = .ok plan) :
    ofJson (inFull value) = .ok (unabridged schema) := by
  cases value with
  | object rules =>
    obtain ⟨entries, below, rfl⟩ := map_eq_ok.1 read
    exact ofList_rulesInFull (paired_rulesInFull below) compiled
  | null | bool | number | string | array => cases read

/-- **Shorthand means nothing.** A value that spells a schema which compiles also spells one when it
is written in full: paths alone as rules of one member, modifiers as one list of trimmed names and
maps under one spelling, without members that mean nothing, at every level. It compiles to the same
plan, so every extractor with the same limit makes the same of every document. -/
theorem shorthand_means_nothing (limit : Nat) (value : Json) (schema : Schema σ) (plan : Plan σ)
    (read : ofJson value = .ok schema) (compiled : Plan.compile limit schema = .ok plan) :
    ∃ full : Schema σ, ofJson (inFull value) = .ok full ∧ Plan.compile limit full = .ok plan ∧
      ∀ extractor : Extractor σ, extractor.settings.maxDepth = limit →
        ∀ document, extractor.extract full document = extractor.extract schema document := by
  have same : Plan.compile limit (unabridged schema) = Plan.compile limit schema :=
    compileRules_unabridged limit "" 0 schema
  refine ⟨unabridged schema, ofJson_inFull read compiled, same.trans compiled, ?_⟩
  rintro extractor rfl document
  simp only [Extractor.extract, same]

/-- A team, written briefly. -/
def briefTeam : Json := .object
  [("name", .string "$.name"),
   ("members", .object [("note", .string "all of them"), ("type", .null),
     ("path", .string "$.members[*]"), ("modifiers", .null), ("modifier", .string " upcase "),
     ("default", .null), ("schema", .object [("name", .string "$.name")])])]

/-- The same team in full. -/
def fullTeam : Json := .object
  [("name", .object [("path", .string "$.name")]),
   ("members", .object [("path", .string "$.members[*]"),
     ("modifiers", .array [.string "upcase"]), ("default", .null),
     ("schema", .object [("name", .object [("path", .string "$.name")])])])]

def teamSchema : Schema Nat :=
  [("name", .path "$.name"),
   ("members", .record ⟨some "$.members[*]", some (.value .null), [.named "upcase"], [], false,
     some [("name", .path "$.name")]⟩)]

def teamPlan : Plan Nat :=
  [⟨"name", "name", .ofPath (.simple "$.name" [.key "name"])⟩,
   ⟨"members", "members", ⟨some (.simple "$.members[*]" [.key "members", .every]),
     some (.value .null), [.named "upcase"], [], false,
     some [⟨"name", "members.name", .ofPath (.simple "$.name" [.key "name"])⟩]⟩⟩]

theorem team_spelled_twice :
    ofJson briefTeam = .ok teamSchema ∧ Plan.compile 32 teamSchema = .ok teamPlan ∧
      ∃ full : Schema Nat, ofJson fullTeam = .ok full ∧ Plan.compile 32 full = .ok teamPlan ∧
        ∀ extractor : Extractor Nat, extractor.settings.maxDepth = 32 →
          ∀ document, extractor.extract full document = extractor.extract teamSchema document := by
  have expands : inFull briefTeam = fullTeam := by decide +kernel
  have sound : Text.isBlankText "upcase" = false := by decide
  have read : ofJson briefTeam = .ok teamSchema := by rfl
  have outer : Path.compile "$.members[*]" =
      .ok (.simple "$.members[*]" [.key "members", .every]) :=
    Path.compile_written (by simp) (by decide) rfl
  have inner : Path.compile "$.name" = .ok (.simple "$.name" [.key "name"]) :=
    Path.compile_written (by simp) (by decide) rfl
  have compiled : Plan.compile 32 teamSchema = .ok teamPlan := by
    simp [teamSchema, teamPlan, Plan.compile, Plan.compileRules, Plan.compileRule,
      Plan.compileNested, Field.check, Modifier.validate, Modifier.name?, scopedKey, sound,
      outer, inner, bind, Except.bind, pure, Except.pure, Functor.map, Except.map]
  have same := shorthand_means_nothing 32 briefTeam teamSchema teamPlan read compiled
  rw [expands] at same
  exact ⟨read, compiled, same⟩

end Schema

end Reshape
