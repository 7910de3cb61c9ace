import Reshape.Proofs.Equality
import Reshape.Proofs.Failure
import Reshape.Proofs.FirstFault
import Reshape.Proofs.Grammar
import Reshape.Proofs.Routes

/-!
# What scoped keys locate

The keys by which instructions and errors say where they are, against the routes of keys that lead
there:

* `Plan.levels`, `Schema.levels` and `Schema.writtenLevels` are the levels of plans, of schemas and
  of the rules as written;
* `leads_of_compileRules`, `leads_of_mem_sitesBelow` and `leads_of_mem_written`: what is compiled,
  looked at or read under a scoped key stands at the end of a route with this key;
* `scoped_keys_locate`: in keys without points, scoped keys locate one place each just if nothing
  lies below an empty key of the outermost level, as the empty key looks like no key at all there.
-/

namespace Reshape

open Results

variable {σ : Type}

/-- The rules of a schema, and below a rule those of its nested schema. -/
def Schema.levels : Levels (Schema σ) (Rule σ) where
  entries schema := schema
  below rule := rule.field.nested

/-- The instructions of a plan, and below an instruction those of its nested plan. -/
def Plan.levels : Levels (Plan σ) (Instruction σ) where
  entries plan := plan.map fun instruction => (instruction.key, instruction)
  below instruction := instruction.field.nested

/-- The rules of a schema as written, and below a rule those of the object under `schema`. -/
def Schema.writtenLevels : Levels (List (String × Json)) Json where
  entries rules := rules
  below value :=
    match value.member? "schema" with
    | some (.object rules) => some rules
    | _ => none

/-! ## Plans -/

namespace Plan

theorem mem_entries {plan : Plan σ} {key : String} {instruction : Instruction σ} :
    (key, instruction) ∈ levels.entries plan ↔ instruction ∈ plan ∧ instruction.key = key := by
  simp only [levels, List.mem_map, Prod.mk.injEq]
  constructor
  · rintro ⟨_, member, same, rfl⟩
    exact ⟨member, same⟩
  · rintro ⟨member, same⟩
    exact ⟨instruction, member, same, rfl⟩

/-- Every instruction comes from a rule under its key, and so does its nested plan, one level
deeper. -/
theorem rule_of_compileRules {limit level : Nat} {scope : String} {rules : Schema σ} {plan : Plan σ}
    (compiled : compileRules limit scope level rules = .ok plan) :
    ∀ instruction ∈ plan, ∃ rule, (instruction.key, rule) ∈ rules ∧
      instruction.scopedKey = Schema.scopedKey scope instruction.key ∧
      ∀ inner, instruction.field.nested = some inner → ∃ below, rule.field.nested = some below ∧
        compileRules limit instruction.scopedKey (level + 1) below = .ok inner := by
  induction rules generalizing plan with
  | nil =>
    cases compiled
    nofun
  | cons entry rest ih =>
    obtain ⟨key, rule⟩ := entry
    simp only [compileRules, compileRule_eq, bind_eq_ok, pure_eq_ok] at compiled
    obtain ⟨_, ⟨_, _, path, _, nested, inside, rfl⟩, others, later, rfl⟩ := compiled
    refine List.forall_mem_cons.2 ⟨⟨rule, List.mem_cons_self, rfl, ?_⟩, ?_⟩
    · rintro inner rfl
      cases below : rule.field.nested with
      | none =>
        rw [below] at inside
        cases inside
      | some rules =>
        rw [below, compileNested] at inside
        split at inside
        · cases inside
        · obtain ⟨instructions, compiled, same⟩ := map_eq_ok.1 inside
          cases same
          exact ⟨rules, rfl, compiled⟩
    · intro instruction member
      obtain ⟨rule, present, found⟩ := ih later instruction member
      exact ⟨rule, List.mem_cons_of_mem _ present, found⟩

/-- Every rule becomes an instruction under its key, and so does what it nests, one level deeper. -/
theorem instruction_of_compileRules {limit level : Nat} {scope : String} {rules : Schema σ}
    {plan : Plan σ} (compiled : compileRules limit scope level rules = .ok plan) :
    ∀ entry ∈ rules, ∃ instruction ∈ plan, instruction.key = entry.1 ∧
      ∀ below, entry.2.field.nested = some below → ∃ inner, instruction.field.nested = some inner ∧
        compileRules limit instruction.scopedKey (level + 1) below = .ok inner := by
  induction rules generalizing plan with
  | nil => nofun
  | cons entry rest ih =>
    obtain ⟨key, rule⟩ := entry
    simp only [compileRules, compileRule_eq, bind_eq_ok, pure_eq_ok] at compiled
    obtain ⟨_, ⟨_, _, path, _, nested, inside, rfl⟩, others, later, rfl⟩ := compiled
    refine List.forall_mem_cons.2 ⟨⟨_, List.mem_cons_self, rfl, ?_⟩, ?_⟩
    · intro below found
      rw [found, compileNested] at inside
      split at inside
      · cases inside
      · obtain ⟨inner, compiled, rfl⟩ := map_eq_ok.1 inside
        exact ⟨inner, rfl, compiled⟩
    · intro entry member
      obtain ⟨instruction, present, found⟩ := ih later entry member
      exact ⟨instruction, List.mem_cons_of_mem _ present, found⟩

/-- The scoped key of an instruction is that of its route, on which there is a rule, too. -/
theorem leads_of_compileRules {limit level : Nat} {scope : String} {rules : Schema σ}
    {plan : Plan σ} (compiled : compileRules limit scope level rules = .ok plan)
    {route : List String} {instruction : Instruction σ}
    (leads : levels.Leads plan route instruction) :
    instruction.scopedKey = route.foldl Schema.scopedKey scope ∧
      ∃ rule, Schema.levels.Leads rules route rule := by
  -- Nested plans are compiled under a longer key, so the scope varies in the induction.
  induction leads generalizing scope level rules with
  | here member =>
    obtain ⟨present, rfl⟩ := mem_entries.1 member
    obtain ⟨rule, entry, scoped_key, _⟩ := rule_of_compileRules compiled _ present
    exact ⟨scoped_key, rule, .here entry⟩
  | inside member below further ih =>
    obtain ⟨present, rfl⟩ := mem_entries.1 member
    obtain ⟨outer, entry, scoped_key, inner⟩ := rule_of_compileRules compiled _ present
    obtain ⟨nested, inside, deeper⟩ := inner _ below
    obtain ⟨same, rule, onward⟩ := ih deeper
    rw [scoped_key] at same
    exact ⟨same, rule, .inside entry inside onward⟩

/-- On every route of the rules there is an instruction. -/
theorem leads_of_leads_rules {limit level : Nat} {scope : String} {rules : Schema σ}
    {plan : Plan σ} (compiled : compileRules limit scope level rules = .ok plan)
    {route : List String} {rule : Rule σ} (leads : Schema.levels.Leads rules route rule) :
    ∃ instruction, levels.Leads plan route instruction := by
  induction leads generalizing scope level plan with
  | here member =>
    obtain ⟨instruction, present, same, _⟩ := instruction_of_compileRules compiled _ member
    exact ⟨instruction, .here (mem_entries.2 ⟨present, same⟩)⟩
  | inside member below further ih =>
    obtain ⟨outer, present, same, inner⟩ := instruction_of_compileRules compiled _ member
    obtain ⟨nested, inside, deeper⟩ := inner _ below
    obtain ⟨instruction, onward⟩ := ih deeper
    exact ⟨instruction, .inside (mem_entries.2 ⟨present, same⟩) inside onward⟩

theorem leads_of_compile {limit : Nat} {schema : Schema σ} {plan : Plan σ}
    (compiled : compile limit schema = .ok plan) {route : List String}
    {instruction : Instruction σ} (leads : levels.Leads plan route instruction) :
    instruction.scopedKey = Schema.routeKey route ∧ ∃ rule, Schema.levels.Leads schema route rule :=
  leads_of_compileRules compiled leads

theorem pointFree_of_compile {limit : Nat} {schema : Schema σ} {plan : Plan σ}
    (compiled : compile limit schema = .ok plan) (plain : Schema.levels.PointFree schema) :
    levels.PointFree plan := by
  intro route instruction leads
  obtain ⟨_, rule, beside⟩ := leads_of_compile compiled leads
  exact plain route rule beside

theorem rooted_iff_of_compile {limit : Nat} {schema : Schema σ} {plan : Plan σ}
    (compiled : compile limit schema = .ok plan) :
    levels.Rooted plan ↔ Schema.levels.Rooted schema := by
  constructor
  · intro rooted route rule leads
    obtain ⟨instruction, beside⟩ := leads_of_leads_rules compiled leads
    exact rooted route instruction beside
  · intro rooted route instruction leads
    obtain ⟨_, rule, beside⟩ := leads_of_compile compiled leads
    exact rooted route rule beside

/-- A route leads to one instruction. -/
theorem unique_of_wellFormed {plan : Plan σ} (wellFormed : plan.WellFormed) {route : List String}
    {a b : Instruction σ} (first : levels.Leads plan route a) (second : levels.Leads plan route b) :
    a = b := by
  refine Levels.Leads.unique (P := Plan.WellFormed) ?_ ?_ wellFormed first second
  · rintro plan ⟨distinct, _⟩
    simpa [Keyed.Distinct, Keyed.keys, levels, Function.comp_def] using distinct
  · rintro plan ⟨_, below⟩ ⟨key, instruction⟩ member inner nested
    exact below instruction (mem_entries.1 member).1 inner nested

/-- What a run enters lies on routes of its plan. -/
theorem leads_of_enters {registry : Registry} {settings : Settings} {plan inner : Plan σ}
    {document part : Json} {s t : σ}
    (enters : Extraction.Enters registry settings plan document s inner part t)
    {instruction : Instruction σ} (member : instruction ∈ inner) :
    ∃ route, levels.Leads plan route instruction := by
  induction enters with
  | self => exact ⟨[instruction.key], .here (mem_entries.2 ⟨member, rfl⟩)⟩
  | nested down _ ih =>
    obtain ⟨route, further⟩ := ih member
    obtain ⟨before, outer, after, _, _, _, _, _, _, rfl, _, nested, _⟩ := down
    have present : outer ∈ before ++ outer :: after :=
      List.mem_append_right before List.mem_cons_self
    exact ⟨outer.key :: route, .inside (mem_entries.2 ⟨present, rfl⟩) nested further⟩

end Plan

/-! ## Schemas -/

namespace Schema

/-- A field that compiling looks at under a scoped key is that of a rule on a route with this
key. -/
theorem leads_of_mem_sitesBelow {schema : Schema σ} {scope : String} {level : Nat} {site : Site σ}
    (member : site ∈ sitesBelow scope level schema) :
    ∃ route rule, levels.Leads schema route rule ∧ site.field = rule.field ∧
      site.key = route.foldl scopedKey scope := by
  induction schema using Schema.induction generalizing scope level with
  | nil => cases member
  | cons key rule rest ih below =>
    rw [sitesBelow_cons] at member
    obtain here | later := List.mem_append.1 member
    · obtain rfl | inside := List.mem_cons.1 here
      · exact ⟨[key], rule, .here List.mem_cons_self, rfl, rfl⟩
      · cases nested : rule.field.nested with
        | none =>
          rw [nested] at inside
          cases inside
        | some inner =>
          rw [nested] at inside
          obtain ⟨route, found, leads, same, scoped_key⟩ := below inner nested inside
          exact ⟨key :: route, found, .inside List.mem_cons_self nested leads, same, scoped_key⟩
    · obtain ⟨route, found, leads, same, scoped_key⟩ := ih later
      refine ⟨route, found, ?_, same, scoped_key⟩
      cases leads with
      | here present => exact .here (List.mem_cons_of_mem _ present)
      | inside present nested further =>
        exact .inside (List.mem_cons_of_mem _ present) nested further

/-- A route leads to one rule. -/
theorem unique_of_wellFormed {schema : Schema σ} (wellFormed : schema.WellFormed)
    {route : List String} {a b : Rule σ} (first : levels.Leads schema route a)
    (second : levels.Leads schema route b) : a = b := by
  refine Levels.Leads.unique (P := Schema.WellFormed) ?_ ?_ wellFormed first second
  · rintro schema ⟨distinct, _⟩
    exact distinct
  · rintro schema ⟨_, below⟩ entry member inner nested
    exact below entry member inner nested

/-- A rule that is read under a scoped key stands on a route with this key. -/
theorem leads_of_mem_written {rules : List (String × Json)} {scope key : String} {value : Json}
    (member : (key, value) ∈ written scope rules) :
    ∃ route, writtenLevels.Leads rules route value ∧ key = route.foldl scopedKey scope := by
  induction rules using rules_induction generalizing scope with
  | nil => cases member
  | cons first outer rest ih below =>
    rw [written, List.mem_cons, List.mem_append] at member
    obtain here | inside | later := member
    · cases here
      exact ⟨[first], .here List.mem_cons_self, rfl⟩
    · rw [writtenWithin_eq] at inside
      split at inside
      · rename_i inner found
        obtain ⟨members, rfl, present⟩ := Json.mem_of_member? found
        obtain ⟨route, leads, scoped_key⟩ := below members inner rfl present inside
        have nested : writtenLevels.below (.object members) = some inner := by
          simp only [writtenLevels, found]
        exact ⟨first :: route, .inside List.mem_cons_self nested leads, scoped_key⟩
      · cases inside
    · obtain ⟨route, leads, scoped_key⟩ := ih later
      refine ⟨route, ?_, scoped_key⟩
      cases leads with
      | here present => exact .here (List.mem_cons_of_mem _ present)
      | inside present nested further =>
        exact .inside (List.mem_cons_of_mem _ present) nested further

/-- A route leads to one written rule. -/
theorem unique_of_written {rules : List (String × Json)}
    (wellFormed : (Json.object rules).WellFormed) {route : List String} {a b : Json}
    (first : writtenLevels.Leads rules route a)
    (second : writtenLevels.Leads rules route b) : a = b := by
  refine Levels.Leads.unique (P := fun rules => (Json.object rules).WellFormed) ?_ ?_ wellFormed
    first second
  · rintro rules ⟨⟩
    assumption
  · rintro rules (_ | _ | _ | _ | _ | ⟨distinct, each⟩) entry member inner nested
    simp only [writtenLevels] at nested
    split at nested
    · rename_i found
      cases nested
      obtain ⟨members, same, present⟩ := Json.mem_of_member? found
      have outer := each entry member
      rw [same] at outer
      cases outer with
      | object _ inside => exact inside _ present
    · cases nested

end Schema

/-! ## Errors -/

/-- What is wrong with a field is reported under the scoped key of the field, a path that is none
aside. -/
theorem Site.key?_of_mem_faults {limit : Nat} {site : Site σ} {e : Error}
    (h : e ∈ site.faults limit) {key : String} (reported : e.key? = some key) : key = site.key := by
  simp only [faults, List.mem_append, List.mem_flatMap] at h
  obtain ((gap | ⟨modifier, _, blank⟩) | ⟨text, _, unreadable⟩) | excess := h
  · cases Field.eq_of_mem_gaps gap
    exact (Option.some.inj reported).symm
  · cases Modifier.eq_of_mem_faults blank
    exact (Option.some.inj reported).symm
  · obtain ⟨fault, rfl⟩ := Path.invalidPath_of_mem_faults unreadable
    cases reported
  · unfold Site.excess at excess
    split at excess
    · cases excess
    · split at excess
      · cases List.mem_singleton.1 excess
        exact (Option.some.inj reported).symm
      · cases excess

open Schema (joined named routeKey)

/-- The key in an error of compiling is that of one rule, with which this is wrong. -/
theorem Plan.located_of_compile {limit : Nat} {schema : Schema σ} (wellFormed : schema.WellFormed)
    (plain : Schema.levels.PointFree schema) (rooted : Schema.levels.Rooted schema) {e : Error}
    {key : String} (failed : compile limit schema = .error e) (reported : e.key? = some key) :
    ∃ route rule, Schema.levels.Locates schema key route rule ∧
      ∃ level, e ∈ Site.faults limit ⟨key, level, rule.field⟩ := by
  obtain ⟨⟨own, level, field⟩, member, _, found⟩ := fault_of_compile failed
  obtain rfl := Site.key?_of_mem_faults found reported
  obtain ⟨route, rule, leads, rfl, rfl⟩ := Schema.leads_of_mem_sitesBelow member
  exact ⟨route, rule, leads.locates plain rooted (Schema.unique_of_wellFormed wellFormed), level,
    found⟩

/-- The key in an error of reading is that of one written rule, with which this is wrong. -/
theorem Schema.located_of_ofJson {rules : List (String × Json)}
    (wellFormed : (Json.object rules).WellFormed) (plain : writtenLevels.PointFree rules)
    (rooted : writtenLevels.Rooted rules) {e : Error} {key : String}
    (failed : (ofJson (.object rules) : Except Error (Schema σ)) = .error e)
    (reported : e.key? = some key) :
    ∃ route value, writtenLevels.Locates rules key route value ∧ e ∈ Rule.faults key value := by
  have first := (reports_ofJson rules).eq_error_iff.1 failed
  obtain ⟨⟨own, value⟩, member, found⟩ := List.mem_flatMap.1 (List.mem_of_head? first)
  obtain rfl := Option.some.inj ((Rule.key?_of_mem_faults found).symm.trans reported)
  obtain ⟨route, leads, rfl⟩ := leads_of_mem_written member
  exact ⟨route, value, leads.locates plain rooted (unique_of_written wellFormed), found⟩

/-- The key under which a run finds several values is that of one instruction, which is no list and
nests nothing. -/
theorem Plan.located_of_run {limit : Nat} {schema : Schema σ} {plan : Plan σ}
    (wellFormed : schema.WellFormed) (plain : Schema.levels.PointFree schema)
    (rooted : Schema.levels.Rooted schema) (compiled : compile limit schema = .ok plan)
    {registry : Registry} {settings : Settings} {document : Json} {s s' : σ} {key : String}
    {count : Nat} (failed : Extraction.Fails (plan.run registry settings document) s
      (.ambiguousCardinality key count) s') :
    ∃ route instruction, levels.Locates plan key route instruction ∧
      instruction.field.array = false ∧ instruction.field.nested = none := by
  obtain ⟨inner, part, t, enters, instruction, member, fault⟩ := Extraction.fault_of_fails failed
  obtain ⟨_, _, _, _, _, other, _⟩ | ⟨_, single, flat, _, same⟩ := fault
  · cases other
  · cases same
    obtain ⟨route, leads⟩ := leads_of_enters enters member
    have distinct := wellFormed_of_mirrors wellFormed (mirrors_of_compile compiled)
    rw [(leads_of_compile compiled leads).1]
    exact ⟨route, instruction, leads.locates (pointFree_of_compile compiled plain)
      ((rooted_iff_of_compile compiled).2 rooted) (unique_of_wellFormed distinct), single, flat⟩

/-- All scoped keys of a plan spell out their routes and differ from each other just if nothing lies
below an empty key. -/
theorem Plan.scopedKeys_spelled_iff {limit : Nat} {schema : Schema σ} {plan : Plan σ}
    (plain : Schema.levels.PointFree schema) (compiled : compile limit schema = .ok plan) :
    ((∀ route instruction, levels.Leads plan route instruction →
        instruction.scopedKey = joined route) ∧
      ∀ route instruction other beside, levels.Leads plan route instruction →
        levels.Leads plan other beside → route ≠ other →
          instruction.scopedKey ≠ beside.scopedKey) ↔
      Schema.levels.Rooted schema := by
  rw [← rooted_iff_of_compile compiled]
  have pointFree := pointFree_of_compile compiled plain
  constructor
  · rintro ⟨spelled, _⟩ route instruction leads
    have own := (leads_of_compile compiled leads).1
    rw [spelled _ _ leads] at own
    exact (Schema.routeKey_eq_joined_iff (pointFree _ _ leads)).1 own.symm route rfl
  · intro rooted
    constructor
    · intro route instruction leads
      rw [(leads_of_compile compiled leads).1, leads.routeKey_eq rooted]
    · intro route instruction other beside leads further different same
      rw [(leads_of_compile compiled leads).1, (leads_of_compile compiled further).1] at same
      exact different (leads.eq_of_routeKey pointFree rooted further same)

/-- **Scoped keys locate fields.** With keys that have no point in them, the scoped key of an
instruction joins the keys of its route from the first that is not empty on; these are all of them
unless the route goes on from an empty first key, and instructions share a scoped key just if they
differ in empty first keys only. So scoped keys spell out all routes and tell all of them apart just
if nothing lies below an empty key of the outermost level. In this case the key in an error of
compiling, of running and of reading is that of one place, which the error is about. -/
theorem scoped_keys_locate :
    (∀ (limit : Nat) (schema : Schema σ) plan, Schema.levels.PointFree schema →
      Plan.compile limit schema = .ok plan →
      (∀ route instruction, Plan.levels.Leads plan route instruction →
        instruction.scopedKey = joined (named route) ∧
          (instruction.scopedKey = joined route ↔ ∀ rest, route = "" :: rest → rest = [])) ∧
      (∀ route instruction other beside, Plan.levels.Leads plan route instruction →
        Plan.levels.Leads plan other beside →
          (instruction.scopedKey = beside.scopedKey ↔ named route = named other)) ∧
      (((∀ route instruction, Plan.levels.Leads plan route instruction →
          instruction.scopedKey = joined route) ∧
        ∀ route instruction other beside, Plan.levels.Leads plan route instruction →
          Plan.levels.Leads plan other beside → route ≠ other →
            instruction.scopedKey ≠ beside.scopedKey) ↔
        Schema.levels.Rooted schema)) ∧
    (∀ (limit : Nat) (schema : Schema σ) e key, schema.WellFormed →
      Schema.levels.PointFree schema → Schema.levels.Rooted schema →
      Plan.compile limit schema = .error e → e.key? = some key →
      ∃ route rule, Schema.levels.Locates schema key route rule ∧
        ∃ level, e ∈ Site.faults limit ⟨key, level, rule.field⟩) ∧
    (∀ (limit : Nat) (schema : Schema σ) plan registry settings document s key count s',
      schema.WellFormed → Schema.levels.PointFree schema → Schema.levels.Rooted schema →
      Plan.compile limit schema = .ok plan →
      Extraction.Fails (plan.run registry settings document) s (.ambiguousCardinality key count)
        s' →
      ∃ route instruction, Plan.levels.Locates plan key route instruction ∧
        instruction.field.array = false ∧ instruction.field.nested = none) ∧
    ∀ rules e key, (Json.object rules).WellFormed → Schema.writtenLevels.PointFree rules →
      Schema.writtenLevels.Rooted rules →
      (Schema.ofJson (.object rules) : Except Error (Schema σ)) = .error e → e.key? = some key →
      ∃ route value, Schema.writtenLevels.Locates rules key route value ∧
        e ∈ Rule.faults key value := by
  refine ⟨?_, ?_, ?_, ?_⟩
  · intro limit schema plan plain compiled
    have pointFree := Plan.pointFree_of_compile compiled plain
    refine ⟨?_, ?_, Plan.scopedKeys_spelled_iff plain compiled⟩
    · intro route instruction leads
      rw [(Plan.leads_of_compile compiled leads).1]
      exact ⟨Schema.routeKey_eq route, Schema.routeKey_eq_joined_iff (pointFree _ _ leads)⟩
    · intro route instruction other beside leads further
      rw [(Plan.leads_of_compile compiled leads).1, (Plan.leads_of_compile compiled further).1]
      exact Schema.routeKey_eq_iff (pointFree _ _ leads) (pointFree _ _ further)
  · intro limit schema e key wellFormed plain rooted
    exact Plan.located_of_compile wellFormed plain rooted
  · intro limit schema plan registry settings document s key count s' wellFormed plain rooted
      compiled failed
    exact Plan.located_of_run wellFormed plain rooted compiled failed
  · intro rules e key wellFormed plain rooted
    exact Schema.located_of_ofJson wellFormed plain rooted

/-- A crew with the names of its members. -/
def crewRules : Schema Nat :=
  [("crew", .record ⟨some "$.crew", none, [], [], false, some [("names", .path "$.names[*]")]⟩)]

def crewPlan : Plan Nat :=
  [⟨"crew", "crew", ⟨some (.simple "$.crew" [.key "crew"]), none, [], [], false,
    some [⟨"names", "crew.names", .ofPath (.simple "$.names[*]" [.key "names", .every])⟩]⟩⟩]

def crewDocument : Json :=
  .object [("crew", .object [("names", .array [.string "Ada", .string "Bob"])])]

/-- A number stands where the names should be. -/
def crewMisspelled : List (String × Json) :=
  [("crew", .object [("schema", .object [("names", .ofInt 7)])])]

theorem crewRules_wellFormed : crewRules.WellFormed := by
  refine .intro (by decide) fun entry member inner nested => ?_
  obtain rfl := List.mem_singleton.1 member
  cases nested
  refine .intro (by decide) fun entry member inner nested => ?_
  obtain rfl := List.mem_singleton.1 member
  cases nested

theorem crewRules_pointFree : Schema.levels.PointFree crewRules := by
  refine Levels.pointFree_iff.2 fun entry member => ?_
  obtain rfl := List.mem_singleton.1 member
  refine ⟨by decide, fun inner nested => Levels.pointFree_iff.2 fun entry member => ?_⟩
  cases nested
  obtain rfl := List.mem_singleton.1 member
  exact ⟨by decide, nofun⟩

theorem crewPaths_compile :
    Path.compile "$.crew" = .ok (.simple "$.crew" [.key "crew"]) ∧
      Path.compile "$.names[*]" = .ok (.simple "$.names[*]" [.key "names", .every]) :=
  ⟨Path.compile_written (by simp) (by decide) rfl,
    Path.compile_written (by simp) (by decide) rfl⟩

theorem crewRules_compile : Plan.compile 32 crewRules = .ok crewPlan := by
  obtain ⟨outer, inner⟩ := crewPaths_compile
  simp [crewRules, crewPlan, Plan.compile, Plan.compileRules, Plan.compileRule,
    Plan.compileNested, Field.check, Schema.scopedKey, outer, inner, bind, Except.bind, pure,
    Except.pure, Functor.map, Except.map]

theorem crewRules_too_deep : Plan.compile 0 crewRules = .error (.schemaTooDeep "crew" 0) := by
  simp [crewRules, Plan.compile, Plan.compileRules, Plan.compileRule, Plan.compileNested,
    Field.check, Schema.scopedKey, crewPaths_compile.1, bind, Except.bind, pure, Except.pure,
    Functor.map, Except.map]

theorem crewMisspelled_wellFormed : (Json.object crewMisspelled).WellFormed := by
  have names : (Json.object [("names", .ofInt 7)]).WellFormed :=
    .object (by decide) (List.forall_mem_singleton.2 (.number _))
  have crew : (Json.object [("schema", .object [("names", .ofInt 7)])]).WellFormed :=
    .object (by decide) (List.forall_mem_singleton.2 names)
  exact .object (by decide) (List.forall_mem_singleton.2 crew)

theorem crewMisspelled_pointFree : Schema.writtenLevels.PointFree crewMisspelled := by
  refine Levels.pointFree_iff.2 fun entry member => ?_
  obtain rfl := List.mem_singleton.1 member
  refine ⟨by decide, fun inner nested => Levels.pointFree_iff.2 fun entry member => ?_⟩
  cases nested
  obtain rfl := List.mem_singleton.1 member
  exact ⟨by decide, nofun⟩

/-- The scoped key of the names leads back to them, in the plan and in errors of all three kinds. -/
theorem crew_located :
    (Schema.levels.PointFree crewRules ∧ Plan.compile 32 crewRules = .ok crewPlan ∧
      ∀ route instruction, Plan.levels.Leads crewPlan route instruction →
        instruction.scopedKey = joined route) ∧
    (Plan.compile 0 crewRules = .error (.schemaTooDeep "crew" 0) ∧
      ∃ route rule, Schema.levels.Locates crewRules "crew" route rule) ∧
    (Extraction.Fails (crewPlan.run .initial { cardinality := .error } crewDocument) 7
        (.ambiguousCardinality "crew.names" 2) 7 ∧
      ∃ route instruction, Plan.levels.Locates crewPlan "crew.names" route instruction) ∧
    ((Schema.ofJson (.object crewMisspelled) : Except Error (Schema Nat)) =
        .error (.invalidSchema "crew.names" .notRule) ∧
      ∃ route value, Schema.writtenLevels.Locates crewMisspelled "crew.names" route value) := by
  obtain ⟨planned, compiling, running, reading⟩ := scoped_keys_locate (σ := Nat)
  have rooted : Schema.levels.Rooted crewRules := Levels.rooted_of_keys (by decide)
  have written : Schema.writtenLevels.Rooted crewMisspelled := Levels.rooted_of_keys (by decide)
  have failed : Extraction.Fails (crewPlan.run .initial { cardinality := .error } crewDocument) 7
      (.ambiguousCardinality "crew.names" 2) 7 := by
    decide +kernel
  have misread : (Schema.ofJson (.object crewMisspelled) : Except Error (Schema Nat)) =
      .error (.invalidSchema "crew.names" .notRule) := rfl
  have spelled := (planned 32 _ _ crewRules_pointFree crewRules_compile).2.2.2 rooted
  obtain ⟨first, rule, there, _⟩ := compiling 0 _ _ _ crewRules_wellFormed crewRules_pointFree
    rooted crewRules_too_deep rfl
  obtain ⟨second, instruction, found, _⟩ := running 32 _ _ _ _ _ _ _ _ _ crewRules_wellFormed
    crewRules_pointFree rooted crewRules_compile failed
  obtain ⟨third, value, here, _⟩ := reading _ _ _ crewMisspelled_wellFormed
    crewMisspelled_pointFree written misread rfl
  exact ⟨⟨crewRules_pointFree, crewRules_compile, spelled.1⟩,
    ⟨crewRules_too_deep, first, rule, there⟩, ⟨failed, second, instruction, found⟩,
    misread, third, value, here⟩

/-- A rule below an empty key, and beside it a rule under the same key. -/
def namelessRules : Schema Nat :=
  [("", .record ⟨some "$.x", none, [], [], false, some [("a", .path "$.y")]⟩), ("a", .path "$.z")]

/-- The rule below the empty key, compiled. -/
def namelessInner : Instruction Nat := ⟨"a", "a", .ofPath (.simple "$.y" [.key "y"])⟩

/-- The rule beside the empty key, compiled. -/
def namelessOuter : Instruction Nat := ⟨"a", "a", .ofPath (.simple "$.z" [.key "z"])⟩

def namelessPlan : Plan Nat :=
  [⟨"", "", ⟨some (.simple "$.x" [.key "x"]), none, [], [], false, some [namelessInner]⟩⟩,
    namelessOuter]

theorem namelessRules_wellFormed : namelessRules.WellFormed := by
  refine .intro (by decide) fun entry member below nested => ?_
  simp only [namelessRules, List.mem_cons, List.not_mem_nil, or_false] at member
  obtain rfl | rfl := member
  · cases nested
    refine .intro (by decide) fun entry member below nested => ?_
    obtain rfl := List.mem_singleton.1 member
    cases nested
  · cases nested

theorem namelessRules_pointFree : Schema.levels.PointFree namelessRules := by
  refine Levels.pointFree_iff.2 fun entry member => ?_
  simp only [namelessRules, Schema.levels, List.mem_cons, List.not_mem_nil, or_false] at member
  obtain rfl | rfl := member
  · refine ⟨by decide, fun below nested => Levels.pointFree_iff.2 fun entry member => ?_⟩
    cases nested
    obtain rfl := List.mem_singleton.1 member
    exact ⟨by decide, nofun⟩
  · exact ⟨by decide, nofun⟩

theorem namelessRules_compile : Plan.compile 32 namelessRules = .ok namelessPlan := by
  have x : Path.compile "$.x" = .ok (.simple "$.x" [.key "x"]) :=
    Path.compile_written (by simp) (by decide) rfl
  have y : Path.compile "$.y" = .ok (.simple "$.y" [.key "y"]) :=
    Path.compile_written (by simp) (by decide) rfl
  have z : Path.compile "$.z" = .ok (.simple "$.z" [.key "z"]) :=
    Path.compile_written (by simp) (by decide) rfl
  simp [namelessRules, namelessPlan, namelessInner, namelessOuter, Plan.compile,
    Plan.compileRules, Plan.compileRule, Plan.compileNested, Field.check, Schema.scopedKey, x, y,
    z, bind, Except.bind, pure, Except.pure, Functor.map, Except.map]

/-- Both rules get the scoped key `a`. -/
theorem nameless_keys_collide :
    namelessRules.WellFormed ∧ Schema.levels.PointFree namelessRules ∧
      ∃ plan inner outer, Plan.compile 32 namelessRules = .ok plan ∧
        Plan.levels.Leads plan ["", "a"] inner ∧ Plan.levels.Leads plan ["a"] outer ∧
        inner.scopedKey = "a" ∧ outer.scopedKey = "a" ∧ joined ["", "a"] = ".a" := by
  refine ⟨namelessRules_wellFormed, namelessRules_pointFree, namelessPlan, namelessInner,
    namelessOuter, namelessRules_compile, ?_, ?_, rfl, rfl, by decide⟩
  · have below : Plan.levels.Leads [namelessInner] ["a"] namelessInner :=
      .here (Plan.mem_entries.2 ⟨List.mem_cons_self, rfl⟩)
    exact .inside (Plan.mem_entries.2 ⟨List.mem_cons_self, rfl⟩) rfl below
  · exact .here (Plan.mem_entries.2 ⟨List.mem_cons_of_mem _ List.mem_cons_self, rfl⟩)

end Reshape
