import Reshape.Proofs.Compilation

/-!
# The fault that compiling reports

Which schemas compile, and what compiling says of the others:

* `Schema.sites` lists the fields of a schema at all levels, a field before those of its nested
  schema;
* `Site.faults` lists what is wrong with one field, in order, and `Site.Faulty` says that there is
  something;
* `reports_compileRules`: compiling reports the first fault of the sites down to the limit;
* `Schema.depth` counts the levels, and `compileRules_of_larger` says that a larger limit changes no
  plan;
* `compile_first_fault` puts these together.
-/

namespace Reshape

open Results

variable {σ : Type}

/-- What holds of rules once it holds of the rest and of what the first one nests holds of all. -/
theorem Schema.induction {motive : Schema σ → Prop} (nil : motive [])
    (cons : ∀ key (rule : Rule σ) rest, motive rest →
      (∀ inner, rule.field.nested = some inner → motive inner) → motive ((key, rule) :: rest)) :
    (schema : Schema σ) → motive schema
  | [] => nil
  | (key, rule) :: rest =>
    cons key rule rest (Schema.induction nil cons rest) fun inner _ =>
      Schema.induction nil cons inner
termination_by schema => sizeOf schema
decreasing_by
  · simp only [List.cons.sizeOf_spec]
    omega
  · rename_i nested
    match rule, nested with
    | .record ⟨_, _, _, _, _, _⟩, nested =>
      cases nested
      simp only [List.cons.sizeOf_spec, Prod.mk.sizeOf_spec, Rule.record.sizeOf_spec,
        Field.mk.sizeOf_spec, Option.some.sizeOf_spec]
      omega

/-! ## The fields of a schema -/

/-- A field of a schema: its key with the keys that lead to it, how many levels it lies below the
outermost rules, and what the rule says. -/
structure Site (σ : Type) where
  key : String
  level : Nat
  field : Field σ String (Schema σ)

namespace Schema

mutual

/-- The fields of rules that lie below the keys `scope`, each before those of its nested schema. -/
def sitesBelow (scope : String) (level : Nat) : List (String × Rule σ) → List (Site σ)
  | [] => []
  | (key, rule) :: rest =>
    ruleSites (scopedKey scope key) level rule ++ sitesBelow scope level rest

def ruleSites (key : String) (level : Nat) : Rule σ → List (Site σ)
  | .path expression => [⟨key, level, .ofPath expression⟩]
  | .record ⟨expression, fallback, modifiers, maps, array, nested⟩ =>
    ⟨key, level, ⟨expression, fallback, modifiers, maps, array, nested⟩⟩ ::
      nestedSites key level nested

def nestedSites (key : String) (level : Nat) : Option (List (String × Rule σ)) → List (Site σ)
  | none => []
  | some rules => sitesBelow key (level + 1) rules

end

/-- The fields of a schema at all levels, in pre-order. -/
def sites (schema : Schema σ) : List (Site σ) := sitesBelow "" 0 schema

mutual

/-- How many levels of schemas lie below these rules. -/
def depth : List (String × Rule σ) → Nat
  | [] => 0
  | (_, rule) :: rest => max (ruleDepth rule) (depth rest)

def ruleDepth : Rule σ → Nat
  | .path _ => 0
  | .record ⟨_, _, _, _, _, nested⟩ => nestedDepth nested

def nestedDepth : Option (List (String × Rule σ)) → Nat
  | none => 0
  | some rules => depth rules + 1

end

theorem sitesBelow_cons (scope : String) (level : Nat) (key : String) (rule : Rule σ)
    (rest : Schema σ) :
    sitesBelow scope level ((key, rule) :: rest) =
      ⟨scopedKey scope key, level, rule.field⟩ ::
        nestedSites (scopedKey scope key) level rule.field.nested ++
          sitesBelow scope level rest := by
  cases rule <;> simp [sitesBelow, ruleSites, Rule.field, Field.ofPath, nestedSites]

theorem depth_cons (key : String) (rule : Rule σ) (rest : Schema σ) :
    depth ((key, rule) :: rest) = max (nestedDepth rule.field.nested) (depth rest) := by
  cases rule <;> simp [depth, ruleDepth, Rule.field, Field.ofPath, nestedDepth]

/-- A field that nests a schema lies above the deepest level. -/
theorem lt_depth_of_nested {schema : Schema σ} {scope : String} {level : Nat} {site : Site σ}
    (member : site ∈ sitesBelow scope level schema) (nests : site.field.nested.isSome) :
    site.level < level + depth schema := by
  induction schema using Schema.induction generalizing scope level with
  | nil => cases member
  | cons key rule rest ih below =>
    rw [sitesBelow_cons] at member
    rw [depth_cons]
    obtain here | later := List.mem_append.1 member
    · cases nested : rule.field.nested with
      | none =>
        simp only [nested, nestedSites, List.mem_singleton] at here
        subst here
        simp [nested] at nests
      | some inner =>
        simp only [nested, nestedSites, List.mem_cons] at here
        have deeper : nestedDepth (some inner) = depth inner + 1 := rfl
        obtain rfl | inside := here
        · simp only
          omega
        · have := below inner nested inside
          omega
    · have := ih later
      omega

/-- Down to the deepest level there is a field that nests a schema. -/
theorem nested_at_level {schema : Schema σ} {limit level : Nat} (scope : String)
    (within : level ≤ limit) (deep : limit < level + depth schema) :
    ∃ site ∈ sitesBelow scope level schema, site.level = limit ∧ site.field.nested.isSome := by
  induction schema using Schema.induction generalizing scope level with
  | nil => simp only [depth] at deep; omega
  | cons key rule rest ih below =>
    rw [depth_cons] at deep
    rw [sitesBelow_cons]
    by_cases later : limit < level + depth rest
    · obtain ⟨site, member, found⟩ := ih scope within later
      exact ⟨site, List.mem_append_right _ member, found⟩
    · cases nested : rule.field.nested with
      | none =>
        simp only [nested, nestedDepth] at deep
        omega
      | some inner =>
        simp only [nested, nestedDepth] at deep
        by_cases here : level = limit
        · exact ⟨_, List.mem_append_left _ List.mem_cons_self, here, by simp [nested]⟩
        · have inside : limit < level + 1 + depth inner := by omega
          obtain ⟨site, member, found⟩ :=
            below inner nested (scopedKey scope key) (by omega) inside
          exact ⟨site, List.mem_append_left _ (List.mem_cons_of_mem _ member), found⟩

end Schema

/-! ## What can be wrong with a field -/

/-- The fault of a name that can never resolve. -/
def Modifier.faults (key : String) (modifier : Modifier) : List Error :=
  match modifier with
  | .call _ => []
  | .named name | .ambient name =>
    if Text.isBlankText name then [.invalidModifier key modifier.shown] else []

theorem Modifier.faults_eq_nil_iff {key : String} {modifier : Modifier} :
    modifier.faults key = [] ↔ ∀ name, modifier = .named name ∨ modifier = .ambient name →
      Text.isBlankText name = false := by
  cases modifier <;> simp [faults]

theorem Modifier.eq_of_mem_faults {key : String} {modifier : Modifier} {e : Error}
    (h : e ∈ modifier.faults key) : e = .invalidModifier key modifier.shown := by
  cases modifier with
  | call operation => cases h
  | named name | ambient name =>
    simp only [faults] at h
    split at h
    · exact List.mem_singleton.1 h
    · cases h

/-- The fault of a text that is no path. -/
def Path.faults (text : String) : List Error :=
  match Path.compile text with
  | .ok _ => []
  | .error e => [e]

theorem Path.faults_eq_nil_iff {text : String} :
    Path.faults text = [] ↔ ∀ e, Path.compile text ≠ .error e := by
  unfold faults
  cases Path.compile text <;> simp

/-- A text is refused as a path in its own name. -/
theorem Path.invalidPath_of_compile {text : String} {e : Error}
    (h : Path.compile text = .error e) : ∃ fault, e = .invalidPath text fault := by
  unfold compile at h
  split at h
  · cases h
    exact ⟨.blank, rfl⟩
  · split at h
    · cases h
    · unfold compileGeneral at h
      split at h
      · cases h
      · cases h
        exact ⟨.malformed, rfl⟩

theorem Path.invalidPath_of_mem_faults {text : String} {e : Error} (h : e ∈ Path.faults text) :
    ∃ fault, e = .invalidPath text fault := by
  unfold faults at h
  split at h
  · cases h
  · rename_i refused
    cases List.mem_singleton.1 h
    exact invalidPath_of_compile refused

/-- The fault of a field that could never be filled. -/
def Field.gaps {π ν : Type} (key : String) (field : Field σ π ν) : List Error :=
  match field.path, field.default with
  | none, none => [.missingPathOrDefault key]
  | _, _ => []

theorem Field.gaps_eq_nil_iff {π ν : Type} {key : String} {field : Field σ π ν} :
    field.gaps key = [] ↔ ¬ (field.path = none ∧ field.default = none) := by
  unfold gaps
  cases field.path <;> cases field.default <;> simp

theorem Field.eq_of_mem_gaps {π ν : Type} {key : String} {field : Field σ π ν} {e : Error}
    (h : e ∈ field.gaps key) : e = .missingPathOrDefault key := by
  unfold gaps at h
  split at h
  · exact List.mem_singleton.1 h
  · cases h

namespace Site

/-- The fault of a field that nests a schema at the deepest level. -/
def excess (limit : Nat) (site : Site σ) : List Error :=
  match site.field.nested with
  | none => []
  | some _ => if limit < site.level + 1 then [.schemaTooDeep site.key limit] else []

/-- All that is wrong with a field, its nested schema aside: neither path nor default, blank
modifiers, a path that is none, too deep a level. -/
def faults (limit : Nat) (site : Site σ) : List Error :=
  site.field.gaps site.key ++ site.field.modifiers.flatMap (Modifier.faults site.key) ++
    site.field.path.toList.flatMap Path.faults ++ site.excess limit

/-- Something is wrong with a field. -/
inductive Faulty (limit : Nat) (site : Site σ) : Prop where
  /-- There is neither a path nor a default. -/
  | unfilled (path : site.field.path = none) (default : site.field.default = none)
  /-- A modifier has a blank name. -/
  | blank (modifier : Modifier) (name : String) (member : modifier ∈ site.field.modifiers)
      (named : modifier = .named name ∨ modifier = .ambient name)
      (blank : Text.isBlankText name = true)
  /-- The path is none. -/
  | unreadable (text : String) (e : Error) (path : site.field.path = some text)
      (refused : Path.compile text = .error e)
  /-- The nested schema lies below the limit. -/
  | tooDeep (rules : Schema σ) (nested : site.field.nested = some rules)
      (deep : limit < site.level + 1)

theorem excess_eq_nil_iff {limit : Nat} {site : Site σ} :
    site.excess limit = [] ↔
      ∀ rules, site.field.nested = some rules → ¬ limit < site.level + 1 := by
  unfold excess
  cases site.field.nested <;> simp

theorem faults_eq_nil_iff {limit : Nat} {site : Site σ} :
    site.faults limit = [] ↔ ¬ site.Faulty limit := by
  simp only [faults, List.append_eq_nil_iff, List.flatMap_eq_nil_iff, Option.mem_toList,
    Field.gaps_eq_nil_iff, Modifier.faults_eq_nil_iff, Path.faults_eq_nil_iff, excess_eq_nil_iff]
  constructor
  · rintro ⟨⟨⟨filled, named⟩, read⟩, shallow⟩ fault
    cases fault with
    | unfilled path default => exact filled ⟨path, default⟩
    | blank modifier name member same blank => simp [named modifier member name same] at blank
    | unreadable text e path refused => exact read text path e refused
    | tooDeep rules nested deep => exact shallow rules nested deep
  · intro sound
    refine ⟨⟨⟨?_, ?_⟩, ?_⟩, ?_⟩
    · exact fun ⟨path, default⟩ => sound (.unfilled path default)
    · intro modifier member name same
      exact Bool.eq_false_iff.2 fun blank => sound (.blank modifier name member same blank)
    · exact fun text path e refused => sound (.unreadable text e path refused)
    · exact fun rules nested deep => sound (.tooDeep rules nested deep)

theorem faulty_of_mem {limit : Nat} {site : Site σ} {e : Error} (h : e ∈ site.faults limit) :
    site.Faulty limit :=
  Classical.byContradiction fun sound => List.ne_nil_of_mem h (faults_eq_nil_iff.2 sound)

theorem nested_of_mem_excess {limit : Nat} {site : Site σ} {e : Error}
    (h : e ∈ site.excess limit) : site.field.nested.isSome ∧ limit < site.level + 1 := by
  unfold excess at h
  cases nested : site.field.nested with
  | none => simp [nested] at h
  | some rules =>
    simp only [nested] at h
    split at h
    · rename_i deep
      exact ⟨rfl, deep⟩
    · cases h

/-- Only a field that nests a schema at the deepest level is said to be too deep. -/
theorem nested_of_schemaTooDeep {limit count : Nat} {site : Site σ} {key : String}
    (h : .schemaTooDeep key count ∈ site.faults limit) :
    site.field.nested.isSome ∧ limit < site.level + 1 := by
  simp only [faults, List.mem_append, List.mem_flatMap] at h
  obtain ((gap | ⟨modifier, _, blank⟩) | ⟨text, _, unreadable⟩) | excess := h
  · cases Field.eq_of_mem_gaps gap
  · cases Modifier.eq_of_mem_faults blank
  · obtain ⟨fault, other⟩ := Path.invalidPath_of_mem_faults unreadable
    cases other
  · exact nested_of_mem_excess excess

/-- What is wrong with a field within the limit. What lies deeper is not looked at. -/
def faultsWithin (limit : Nat) (site : Site σ) : List Error :=
  if site.level ≤ limit then site.faults limit else []

theorem faultsWithin_eq_nil_iff {limit : Nat} {site : Site σ} :
    faultsWithin limit site = [] ↔ (site.level ≤ limit → ¬ site.Faulty limit) := by
  unfold faultsWithin
  split
  · rename_i within
    simp [faults_eq_nil_iff, within]
  · rename_i below
    simp [below]

theorem head?_faultsWithin {limit : Nat} {site : Site σ} {e : Error} :
    (faultsWithin limit site).head? = some e ↔
      site.level ≤ limit ∧ (site.faults limit).head? = some e := by
  unfold faultsWithin
  split
  · rename_i within
    simp [within]
  · rename_i below
    simp [below]

end Site

/-! ## Compiling reports the first fault -/

theorem Modifier.reports_validate (key : String) (modifier : Modifier) :
    Reports (modifier.validate key) (modifier.faults key) := by
  cases modifier with
  | call operation => exact .ok ()
  | named name | ambient name =>
    cases blank : Text.isBlankText name
    · simp only [validate, faults, name?, Option.any_some, blank]
      exact .ok ()
    · simp only [validate, faults, name?, Option.any_some, blank]
      exact .error _ []

theorem Path.reports_compile (text : String) : Reports (Path.compile text) (Path.faults text) := by
  unfold faults
  cases Path.compile text with
  | ok path => exact .ok path
  | error e => exact .error e []

theorem Field.reports_check {π ν : Type} (key : String) (field : Field σ π ν) :
    Reports (field.check key)
      (field.gaps key ++ field.modifiers.flatMap (Modifier.faults key)) := by
  have named : Reports (field.modifiers.forM (Modifier.validate key))
      (field.modifiers.flatMap (Modifier.faults key)) :=
    .forM (Modifier.reports_validate key) _
  unfold check gaps
  cases field.path <;> cases field.default
  · exact .error _ _
  · exact named
  · exact named
  · exact named

namespace Plan

/-- A rule is compiled field by field, whichever way it is written. -/
theorem compileRule_eq (limit : Nat) (key : String) (level : Nat) (rule : Rule σ) :
    compileRule limit key level rule = (do
      rule.field.check key
      let path ← rule.field.path.mapM Path.compile
      let nested ← compileNested limit key level rule.field.nested
      return { rule.field with path, nested }) := by
  cases rule with
  | path expression =>
    simp only [compileRule, Rule.field, Field.ofPath, Field.check, Option.mapM_some, compileNested]
    cases Path.compile expression <;> rfl
  | record field => rfl

theorem reports_compileNested {limit : Nat} (key : String) (level : Nat)
    {field : Field σ String (Schema σ)}
    (each : ∀ inner, field.nested = some inner → level + 1 ≤ limit →
      Reports (compileRules limit key (level + 1) inner)
        ((Schema.sitesBelow key (level + 1) inner).flatMap (Site.faultsWithin limit))) :
    Reports (compileNested limit key level field.nested)
      (Site.excess limit ⟨key, level, field⟩ ++
        (Schema.nestedSites key level field.nested).flatMap (Site.faultsWithin limit)) := by
  unfold Site.excess
  cases nested : field.nested with
  | none => exact .ok none
  | some inner =>
    simp only [compileNested, Schema.nestedSites]
    by_cases deep : limit < level + 1
    · rw [if_pos deep, if_pos deep]
      exact .error _ _
    · rw [if_neg deep, if_neg deep]
      exact (each inner nested (by omega)).map

theorem reports_compileRules {limit : Nat} (rules : Schema σ) (scope : String) {level : Nat}
    (within : level ≤ limit) :
    Reports (compileRules limit scope level rules)
      ((Schema.sitesBelow scope level rules).flatMap (Site.faultsWithin limit)) := by
  -- Nested rules stand one level deeper under a longer key, so both vary in the induction.
  induction rules using Schema.induction generalizing scope level with
  | nil => exact .ok []
  | cons key rule rest ih below =>
    have nested := reports_compileNested (Schema.scopedKey scope key) level
      fun inner found deeper => below inner found _ deeper
    have first : Reports (compileRule limit (Schema.scopedKey scope key) level rule)
        (Site.faults limit ⟨Schema.scopedKey scope key, level, rule.field⟩ ++
          (Schema.nestedSites (Schema.scopedKey scope key) level rule.field.nested).flatMap
            (Site.faultsWithin limit)) := by
      rw [compileRule_eq, Site.faults, List.append_assoc, List.append_assoc]
      refine (Field.reports_check _ _).bind fun _ => ?_
      exact (Reports.optionMapM Path.reports_compile _).bind fun _ => nested.bindPure
    have here : Site.faultsWithin limit ⟨Schema.scopedKey scope key, level, rule.field⟩ =
        Site.faults limit ⟨Schema.scopedKey scope key, level, rule.field⟩ :=
      if_pos within
    rw [compileRules, Schema.sitesBelow_cons, List.flatMap_append, List.flatMap_cons, here]
    exact first.bind fun _ => (ih scope within).bindPure

/-! ## Larger limits -/

theorem compileNested_of_larger {limit larger level : Nat} {key : String}
    {nested : Option (Schema σ)} {plan : Option (Plan σ)} (more : limit ≤ larger)
    (each : ∀ inner, nested = some inner → ∀ {plan : Plan σ},
      compileRules limit key (level + 1) inner = .ok plan →
        compileRules larger key (level + 1) inner = .ok plan)
    (h : compileNested limit key level nested = .ok plan) :
    compileNested larger key level nested = .ok plan := by
  cases nested with
  | none => exact h
  | some inner =>
    unfold compileNested at h ⊢
    split at h
    · cases h
    · obtain ⟨instructions, compiled, rfl⟩ := map_eq_ok.1 h
      have within : ¬ level + 1 > larger := by omega
      rw [if_neg within, each inner rfl compiled]
      rfl

theorem compileRules_of_larger {limit larger level : Nat} {scope : String} {rules : Schema σ}
    {plan : Plan σ} (more : limit ≤ larger)
    (h : compileRules limit scope level rules = .ok plan) :
    compileRules larger scope level rules = .ok plan := by
  induction rules using Schema.induction generalizing scope level plan with
  | nil => exact h
  | cons key rule rest ih below =>
    simp only [compileRules, compileRule_eq, bind_eq_ok, pure_eq_ok] at h ⊢
    obtain ⟨field, ⟨_, sound, path, read, nested, inside, rfl⟩, others, later, rfl⟩ := h
    have same := compileNested_of_larger more (fun inner found => below inner found) inside
    exact ⟨_, ⟨_, sound, path, read, nested, same, rfl⟩, others, ih later, rfl⟩

/-! ## What compiling accepts -/

theorem reports_compile (limit : Nat) (schema : Schema σ) :
    Reports (compile limit schema) (schema.sites.flatMap (Site.faultsWithin limit)) :=
  reports_compileRules schema "" (Nat.zero_le limit)

theorem compile_eq_error_iff {limit : Nat} {schema : Schema σ} {e : Error} :
    compile limit schema = .error e ↔
      ∃ before site after, schema.sites = before ++ site :: after ∧
        (∀ earlier ∈ before, earlier.level ≤ limit → ¬ earlier.Faulty limit) ∧
        site.level ≤ limit ∧ (site.faults limit).head? = some e := by
  simp only [(reports_compile limit schema).eq_error_iff, head?_flatMap_eq_some,
    Site.faultsWithin_eq_nil_iff, Site.head?_faultsWithin]

theorem compile_eq_ok_iff {limit : Nat} {schema : Schema σ} :
    (∃ plan, compile limit schema = .ok plan) ↔
      ∀ site ∈ schema.sites, site.level ≤ limit → ¬ site.Faulty limit := by
  simp only [(reports_compile limit schema).eq_ok_iff, List.flatMap_eq_nil_iff,
    Site.faultsWithin_eq_nil_iff]

theorem fault_of_compile {limit : Nat} {schema : Schema σ} {e : Error}
    (h : compile limit schema = .error e) :
    ∃ site ∈ schema.sites, site.level ≤ limit ∧ e ∈ site.faults limit := by
  obtain ⟨before, site, after, split, _, within, first⟩ := compile_eq_error_iff.1 h
  have member : site ∈ schema.sites := split ▸ List.mem_append_right before List.mem_cons_self
  exact ⟨site, member, within, List.mem_of_head? first⟩

theorem lt_depth_of_schemaTooDeep {limit count : Nat} {schema : Schema σ} {key : String}
    (h : compile limit schema = .error (.schemaTooDeep key count)) : limit < Schema.depth schema := by
  obtain ⟨site, member, _, found⟩ := fault_of_compile h
  obtain ⟨nests, deep⟩ := Site.nested_of_schemaTooDeep found
  have := Schema.lt_depth_of_nested member nests
  omega

theorem depth_le_of_compile {limit : Nat} {schema : Schema σ} {plan : Plan σ}
    (h : compile limit schema = .ok plan) : Schema.depth schema ≤ limit := by
  refine Nat.not_lt.1 fun deep => ?_
  obtain ⟨site, member, level, nests⟩ :=
    Schema.nested_at_level "" (Nat.zero_le limit) (by omega : limit < 0 + Schema.depth schema)
  obtain ⟨rules, nested⟩ := Option.isSome_iff_exists.1 nests
  have fault : site.Faulty limit := .tooDeep rules nested (by omega)
  exact compile_eq_ok_iff.1 ⟨plan, h⟩ site member (by omega) fault

/-- Compiling fails just when something is wrong with a field within the limit, and reports the
first fault of the first such field in pre-order. What nests deeper than the limit never compiles,
nothing else is said to be too deep, and a larger limit changes no plan. -/
theorem compile_first_fault (limit : Nat) (schema : Schema σ) :
    ((∃ e, compile limit schema = .error e) ↔
      ∃ site ∈ schema.sites, site.level ≤ limit ∧ site.Faulty limit) ∧
    (∀ e, compile limit schema = .error e ↔
      ∃ before site after, schema.sites = before ++ site :: after ∧
        (∀ earlier ∈ before, earlier.level ≤ limit → ¬ earlier.Faulty limit) ∧
        site.level ≤ limit ∧ (site.faults limit).head? = some e) ∧
    (∀ key count, compile limit schema = .error (.schemaTooDeep key count) →
      limit < Schema.depth schema) ∧
    (∀ plan, compile limit schema = .ok plan → Schema.depth schema ≤ limit) ∧
    (∀ plan larger, limit ≤ larger → compile limit schema = .ok plan →
      compile larger schema = .ok plan) := by
  refine ⟨?_, fun _ => compile_eq_error_iff, fun _ _ => lt_depth_of_schemaTooDeep,
    fun _ => depth_le_of_compile, fun _ _ more h => compileRules_of_larger more h⟩
  constructor
  · rintro ⟨e, h⟩
    obtain ⟨site, member, within, found⟩ := fault_of_compile h
    exact ⟨site, member, within, Site.faulty_of_mem found⟩
  · rintro ⟨site, member, within, fault⟩
    cases h : compile limit schema with
    | error e => exact ⟨e, rfl⟩
    | ok plan => exact absurd fault (compile_eq_ok_iff.1 ⟨plan, h⟩ site member within)

/-- Rules two levels below the outermost ones. -/
def deepRules : Schema Nat :=
  [("a", .record ⟨some "$.a", none, [], [], false,
    some [("b", .record ⟨some "$.b", none, [], [], false, some [("c", .path "$.c")]⟩)]⟩)]

/-- One level is too little for them, two are enough, and more change nothing. -/
theorem deepRules_first_fault :
    (compile 1 deepRules = .error (.schemaTooDeep "a.b" 1) ∧ 1 < Schema.depth deepRules) ∧
      ∃ plan, compile 2 deepRules = .ok plan ∧ Schema.depth deepRules ≤ 2 ∧
        compile 32 deepRules = .ok plan := by
  have a : Path.compile "$.a" = .ok (.simple "$.a" [.key "a"]) :=
    Path.compile_written (by simp) (by decide) rfl
  have b : Path.compile "$.b" = .ok (.simple "$.b" [.key "b"]) :=
    Path.compile_written (by simp) (by decide) rfl
  have c : Path.compile "$.c" = .ok (.simple "$.c" [.key "c"]) :=
    Path.compile_written (by simp) (by decide) rfl
  have refused : compile 1 deepRules = .error (.schemaTooDeep "a.b" 1) := by
    simp [deepRules, compile, compileRules, compileRule, compileNested, Field.check,
      Schema.scopedKey, a, b, bind, Except.bind, pure, Except.pure, Functor.map, Except.map]
  have accepted : ∃ plan, compile 2 deepRules = .ok plan := by
    simp [deepRules, compile, compileRules, compileRule, compileNested, Field.check,
      Schema.scopedKey, a, b, c, bind, Except.bind, pure, Except.pure, Functor.map, Except.map]
  obtain ⟨plan, compiled⟩ := accepted
  obtain ⟨_, _, _, shallow, same⟩ := compile_first_fault 2 deepRules
  exact ⟨⟨refused, (compile_first_fault 1 deepRules).2.2.1 _ _ refused⟩,
    plan, compiled, shallow plan compiled, same plan 32 (by decide) compiled⟩

end Plan

end Reshape
