import Reshape.Proofs.Compilation

/-!
# The grammar of written schemas

Which values spell a schema, and what reading says of the others:

* `Rule.Spelled` says that a rule is in order by itself, and `Schema.Spelled` that the rules of a
  value and of all the schemas nested in it are;
* `Schema.written` lists the rules of a value at all levels under their scoped keys, a rule before
  those of its nested schema;
* `Rule.faults` lists what is wrong with one rule, in order, and `reports_rulesBelow` says that
  reading reports the first fault of the rules as written;
* `ofJson_accepts_grammar` puts these together.
-/

namespace Reshape

open Results

variable {σ : Type}

/-- The key of the rule or field that an error is about. -/
def Error.key? : Error → Option String
  | .invalidSchema key _ | .missingPathOrDefault key | .invalidModifier key _ | .invalidMap key _
  | .schemaTooDeep key _ | .ambiguousCardinality key _ => some key
  | .invalidPath .. | .unresolvedModifier .. | .planNotCompiled | .invalidJson | .invalidToml =>
    none

theorem Json.mem_of_member? {value content : Json} {key : String}
    (h : value.member? key = some content) :
    ∃ members, value = .object members ∧ (key, content) ∈ members := by
  cases value with
  | object members => exact ⟨members, rfl, Keyed.mem_of_get? h⟩
  | null | bool | number | string | array => cases h

namespace Rule

/-! ## Rules that are in order -/

/-- The value counts of two spellings: it is the first that is present and not `null`. -/
def Counts (members : Keyed Json) (plural singular : String) (value : Json) : Prop :=
  value ≠ .null ∧ (members.get? plural = some value ∨
    (∀ other, members.get? plural = some other → other = .null) ∧
      members.get? singular = some value)

/-- A text that is not blank. -/
def NamesModifier (value : Json) : Prop :=
  ∃ name, value = .string name ∧ Text.isBlankText name = false

/-- A pair whose first item is no list. -/
def PlainPair (value : Json) : Prop :=
  ∃ source target, value = .array [source, target] ∧ ∀ items, source ≠ .array items

/-- The members of a rule describe a field, what lies in its nested schema aside. -/
structure Describes (members : Keyed Json) : Prop where
  nonempty : members ≠ []
  path : ∀ value, members.get? "path" = some value → value = .null ∨ ∃ text, value = .string text
  modifiers : ∀ value, Counts members "modifiers" "modifier" value →
    NamesModifier value ∨ ∃ names, value = .array names ∧ ∀ name ∈ names, NamesModifier name
  maps : ∀ value, Counts members "maps" "map" value →
    (∃ table, value = .object table) ∨
    (∃ items, value = .array items ∧ items ≠ [] ∧ ∀ item ∈ items, PlainPair item) ∨
    ∃ items, value = .array items ∧
      ∀ item ∈ items, item = .null ∨ ∃ table, ValueMap.ofJson? item = some table
  type : ∀ value, members.get? "type" = some value → value = .null ∨ ∃ text, value = .string text
  nested : ∀ value, members.get? "schema" = some value →
    value = .null ∨ ∃ rules, value = .object rules

/-- A rule in order by itself: a path, or members that describe a field. -/
inductive Spelled : Json → Prop where
  | path (text : String) : Spelled (.string text)
  | record (members : Keyed Json) (describes : Describes members) : Spelled (.object members)

theorem isNull_eq_false_iff {value : Json} : value.isNull = false ↔ value ≠ .null := by
  cases value <;> simp [Json.isNull]

theorem firstMember?_eq_or (members : Keyed Json) (plural singular : String) :
    firstMember? members [plural, singular] =
      ((members.get? plural).filter (!·.isNull)).or
        ((members.get? singular).filter (!·.isNull)) := by
  unfold firstMember?
  cases first : members.get? plural with
  | none =>
    cases second : members.get? singular with
    | none => simp only [List.filterMap_cons, first, second]; rfl
    | some value =>
      simp only [List.filterMap_cons, first, second]
      cases null : value.isNull <;> simp [null, Option.filter]
  | some value =>
    cases second : members.get? singular with
    | none =>
      simp only [List.filterMap_cons, first, second]
      cases null : value.isNull <;> simp [null, Option.filter]
    | some other =>
      simp only [List.filterMap_cons, first, second]
      cases null : value.isNull <;> cases later : other.isNull <;> simp [null, later, Option.filter]

theorem firstMember?_eq_some_iff {members : Keyed Json} {plural singular : String} {value : Json} :
    firstMember? members [plural, singular] = some value ↔ Counts members plural singular value := by
  simp only [firstMember?_eq_or, Counts, Option.or_eq_some_iff, Option.filter_eq_some_iff,
    Option.filter_eq_none_iff, Bool.not_eq_eq_eq_not, Bool.not_true, isNull_eq_false_iff, ne_eq,
    Decidable.not_not]
  constructor
  · rintro (⟨first, solid⟩ | ⟨none, second, solid⟩)
    · exact ⟨solid, .inl first⟩
    · exact ⟨solid, .inr ⟨none, second⟩⟩
  · rintro ⟨solid, first | ⟨none, second⟩⟩
    · exact .inl ⟨first, solid⟩
    · exact .inr ⟨none, second, solid⟩

/-! ## What can be wrong with a rule -/

/-- The fault of a member that is there and not of this kind. -/
def memberFaults (kind : Json.Kind) (fault : Error) : Option Json → List Error
  | none | some .null => []
  | some value => if value.kind = kind then [] else [fault]

/-- The fault of an entry that names no modifier. -/
def nameFaults (key : String) : Json → List Error
  | .string name =>
    if Text.isBlankText name then [.invalidModifier key (Json.compact (.string name))] else []
  | other => [.invalidModifier key other.compact]

def modifierFaults (key : String) (members : Keyed Json) : List Error :=
  match firstMember? members ["modifiers", "modifier"] with
  | none => []
  | some (.array names) => names.flatMap (nameFaults key)
  | some name => nameFaults key name

/-- The fault of an entry that is no table. -/
def tableFaults (key : String) (value : Json) : List Error :=
  if (ValueMap.ofJson? value).isSome then [] else [.invalidMap key value]

def mapFaults (key : String) (members : Keyed Json) : List Error :=
  match firstMember? members ["maps", "map"] with
  | none => []
  | some (.array items) =>
    if isPairList items then tableFaults key (.array items)
    else (items.filter fun item => !item.isNull).flatMap (tableFaults key)
  | some table => tableFaults key table

/-- All that is wrong with a rule, the rules in its nested schema aside: no members, path, modifiers,
maps, type, nested schema. -/
def faults (key : String) : Json → List Error
  | .string _ => []
  | .object members =>
    (if members.isEmpty then [.invalidSchema key .emptyRule] else []) ++
      memberFaults .string (.invalidSchema key .pathNotText) (Keyed.get? members "path") ++
      modifierFaults key members ++ mapFaults key members ++
      memberFaults .string (.invalidSchema key .typeNotText) (Keyed.get? members "type") ++
      memberFaults .object (.invalidSchema key .nestedNotRules) (Keyed.get? members "schema")
  | _ => [.invalidSchema key .notRule]

theorem memberFaults_eq_nil_iff {kind : Json.Kind} {fault : Error} {member : Option Json} :
    memberFaults kind fault member = [] ↔
      ∀ value, member = some value → value = .null ∨ value.kind = kind := by
  unfold memberFaults
  split <;> simp_all

theorem kind_eq_string_iff {value : Json} : value.kind = .string ↔ ∃ text, value = .string text := by
  cases value <;> simp [Json.kind]

theorem kind_eq_object_iff {value : Json} :
    value.kind = .object ↔ ∃ members, value = .object members := by
  cases value <;> simp [Json.kind]

theorem nameFaults_eq_nil_iff {key : String} {value : Json} :
    nameFaults key value = [] ↔ NamesModifier value := by
  cases value <;> simp [nameFaults, NamesModifier]

theorem modifierFaults_eq_nil_iff {key : String} {members : Keyed Json} :
    modifierFaults key members = [] ↔
      ∀ value, Counts members "modifiers" "modifier" value →
        NamesModifier value ∨ ∃ names, value = .array names ∧ ∀ name ∈ names, NamesModifier name := by
  simp only [← firstMember?_eq_some_iff]
  unfold modifierFaults
  split
  · rename_i absent
    simp [absent]
  · rename_i names counted
    simp [counted, nameFaults_eq_nil_iff, NamesModifier]
  · rename_i value single counted
    have alone (names : List Json) : value ≠ .array names := fun same => single names same
    simp [counted, nameFaults_eq_nil_iff, alone]

theorem tableFaults_eq_nil_iff {key : String} {value : Json} :
    tableFaults key value = [] ↔ ∃ table, ValueMap.ofJson? value = some table := by
  simp [tableFaults, Option.isSome_iff_exists]

theorem isPlainPair_iff {value : Json} : isPlainPair value = true ↔ PlainPair value := by
  unfold isPlainPair PlainPair
  split
  · simp
  · rename_i source target plain
    simp only [true_iff]
    exact ⟨source, target, rfl, fun items same => plain items same⟩
  · rename_i other
    simp only [Bool.false_eq_true, false_iff]
    rintro ⟨source, target, rfl, _⟩
    exact other source target rfl

theorem isPairList_iff {items : List Json} :
    isPairList items = true ↔ items ≠ [] ∧ ∀ item ∈ items, PlainPair item := by
  simp [isPairList, isPlainPair_iff]

/-- Pairs always make a table. -/
theorem ofJson?_of_plainPairs {items : List Json} (pairs : ∀ item ∈ items, PlainPair item) :
    ∃ table, ValueMap.ofJson? (.array items) = some table := by
  have read : ∃ entries, items.mapM ValueMap.pair? = some entries := by
    induction items with
    | nil => exact ⟨[], rfl⟩
    | cons item rest ih =>
      obtain ⟨⟨source, target, rfl, _⟩, others⟩ := List.forall_mem_cons.1 pairs
      obtain ⟨entries, later⟩ := ih others
      exact ⟨(source, target) :: entries, by simp [ValueMap.pair?, later]⟩
  obtain ⟨entries, read⟩ := read
  exact ⟨.ofPairs entries, by simp [ValueMap.ofJson?, read]⟩

/-- What is no list makes a table just when it is an object. -/
theorem tableFaults_single {key : String} {value : Json} (single : ∀ items, value ≠ .array items) :
    tableFaults key value = [] ↔ ∃ members, value = .object members := by
  rw [tableFaults_eq_nil_iff]
  constructor
  · rintro ⟨table, read⟩
    cases value with
    | object members => exact ⟨members, rfl⟩
    | array items => exact absurd rfl (single items)
    | null | bool | number | string => cases read
  · rintro ⟨members, rfl⟩
    exact ⟨_, rfl⟩

theorem tableFaults_plainPairs {key : String} {items : List Json}
    (pairs : ∀ item ∈ items, PlainPair item) : tableFaults key (.array items) = [] :=
  tableFaults_eq_nil_iff.2 (ofJson?_of_plainPairs pairs)

/-- Of a list of tables only the entries that are `null` may be none. -/
theorem tableFaults_list {key : String} {items : List Json} :
    (items.filter fun item => !item.isNull).flatMap (tableFaults key) = [] ↔
      ∀ item ∈ items, item = .null ∨ ∃ table, ValueMap.ofJson? item = some table := by
  simp only [List.flatMap_eq_nil_iff, tableFaults_eq_nil_iff, List.mem_filter]
  constructor
  · intro tables item member
    by_cases null : item = .null
    · exact .inl null
    · have solid : item.isNull = false := isNull_eq_false_iff.2 null
      exact .inr (tables item ⟨member, by rw [solid]; rfl⟩)
  · rintro tables item ⟨member, solid⟩
    obtain rfl | table := tables item member
    · cases solid
    · exact table

theorem mapFaults_eq_nil_iff {key : String} {members : Keyed Json} :
    mapFaults key members = [] ↔
      ∀ value, Counts members "maps" "map" value →
        (∃ table, value = .object table) ∨
        (∃ items, value = .array items ∧ items ≠ [] ∧ ∀ item ∈ items, PlainPair item) ∨
        ∃ items, value = .array items ∧
          ∀ item ∈ items, item = .null ∨ ∃ table, ValueMap.ofJson? item = some table := by
  simp only [← firstMember?_eq_some_iff]
  unfold mapFaults
  split
  · rename_i absent
    simp [absent]
  · rename_i items counted
    split
    · rename_i pairs
      obtain ⟨some_pair, plain⟩ := isPairList_iff.1 pairs
      simp only [tableFaults_plainPairs plain, true_iff]
      intro value same
      cases counted.symm.trans same
      exact .inr (.inl ⟨items, rfl, some_pair, plain⟩)
    · rename_i others
      rw [isPairList_iff] at others
      rw [tableFaults_list]
      simp [counted, others]
  · rename_i value single counted
    have alone (items : List Json) : value ≠ .array items := fun same => single items same
    simp [counted, tableFaults_single alone, alone]

theorem faults_eq_nil_iff {key : String} {value : Json} : faults key value = [] ↔ Spelled value := by
  cases value with
  | string text => simp only [faults, true_iff]; exact .path text
  | object members =>
    simp only [faults, List.append_eq_nil_iff, memberFaults_eq_nil_iff, kind_eq_string_iff,
      kind_eq_object_iff, modifierFaults_eq_nil_iff, mapFaults_eq_nil_iff]
    constructor
    · rintro ⟨⟨⟨⟨⟨nonempty, path⟩, modifiers⟩, maps⟩, type⟩, nested⟩
      exact .record members ⟨by rintro rfl; simp at nonempty, path, modifiers, maps, type, nested⟩
    · rintro (_ | ⟨_, nonempty, path, modifiers, maps, type, nested⟩)
      exact ⟨⟨⟨⟨⟨by simp [nonempty], path⟩, modifiers⟩, maps⟩, type⟩, nested⟩
  | null | bool | number | array =>
    simp only [faults, List.cons_ne_nil, false_iff]
    rintro ⟨⟩

theorem eq_of_mem_memberFaults {kind : Json.Kind} {fault e : Error} {member : Option Json}
    (h : e ∈ memberFaults kind fault member) : e = fault := by
  unfold memberFaults at h
  split at h
  · cases h
  · cases h
  · split at h
    · cases h
    · exact List.mem_singleton.1 h

theorem key?_of_mem_nameFaults {key : String} {value : Json} {e : Error}
    (h : e ∈ nameFaults key value) : e.key? = some key := by
  unfold nameFaults at h
  split at h
  · split at h
    · cases List.mem_singleton.1 h
      rfl
    · cases h
  · cases List.mem_singleton.1 h
    rfl

theorem key?_of_mem_modifierFaults {key : String} {members : Keyed Json} {e : Error}
    (h : e ∈ modifierFaults key members) : e.key? = some key := by
  unfold modifierFaults at h
  split at h
  · cases h
  · obtain ⟨name, _, found⟩ := List.mem_flatMap.1 h
    exact key?_of_mem_nameFaults found
  · exact key?_of_mem_nameFaults h

theorem key?_of_mem_tableFaults {key : String} {value : Json} {e : Error}
    (h : e ∈ tableFaults key value) : e.key? = some key := by
  unfold tableFaults at h
  split at h
  · cases h
  · cases List.mem_singleton.1 h
    rfl

theorem key?_of_mem_mapFaults {key : String} {members : Keyed Json} {e : Error}
    (h : e ∈ mapFaults key members) : e.key? = some key := by
  unfold mapFaults at h
  split at h
  · cases h
  · split at h
    · exact key?_of_mem_tableFaults h
    · obtain ⟨table, _, found⟩ := List.mem_flatMap.1 h
      exact key?_of_mem_tableFaults found
  · exact key?_of_mem_tableFaults h

/-- Each fault of a rule carries the key of the rule. -/
theorem key?_of_mem_faults {key : String} {value : Json} {e : Error}
    (h : e ∈ faults key value) : e.key? = some key := by
  cases value with
  | string text => cases h
  | object members =>
    simp only [faults, List.mem_append] at h
    obtain ((((empty | path) | modifier) | map) | type) | nested := h
    · split at empty
      · cases List.mem_singleton.1 empty
        rfl
      · cases empty
    · cases eq_of_mem_memberFaults path
      rfl
    · exact key?_of_mem_modifierFaults modifier
    · exact key?_of_mem_mapFaults map
    · cases eq_of_mem_memberFaults type
      rfl
    · cases eq_of_mem_memberFaults nested
      rfl
  | null | bool | number | array =>
    cases List.mem_singleton.1 h
    rfl

/-! ## Reading one rule -/

theorem reports_pathOf (key : String) (members : Keyed Json) :
    Reports (pathOf key members)
      (memberFaults .string (.invalidSchema key .pathNotText) (members.get? "path")) := by
  unfold pathOf
  cases members.get? "path" with
  | none => exact .ok none
  | some value =>
    cases value with
    | null => exact .ok none
    | string expression => exact .ok (some expression)
    | bool | number | array | object => exact .error _ []

theorem reports_modifierOf (key : String) (value : Json) :
    Reports (Modifier.ofJson key value) (nameFaults key value) := by
  unfold Modifier.ofJson nameFaults
  cases value with
  | string name =>
    simp only
    split
    · exact .error _ []
    · exact .ok _
  | null | bool | number | array | object => exact .error _ []

theorem reports_modifiersOf (key : String) (members : Keyed Json) :
    Reports (modifiersOf key members) (modifierFaults key members) := by
  unfold modifiersOf modifierFaults
  cases firstMember? members ["modifiers", "modifier"] with
  | none => exact .ok []
  | some value =>
    cases value with
    | array names => exact .mapM (reports_modifierOf key) names
    | null | bool | number | string | object => exact (reports_modifierOf key _).map

theorem reports_mapOf (key : String) (value : Json) :
    Reports (mapOf key value) (tableFaults key value) := by
  unfold mapOf tableFaults
  cases ValueMap.ofJson? value with
  | some table => exact .ok table
  | none => exact .error _ []

theorem reports_mapsOf (key : String) (members : Keyed Json) :
    Reports (mapsOf key members) (mapFaults key members) := by
  unfold mapsOf mapFaults
  cases firstMember? members ["maps", "map"] with
  | none => exact .ok []
  | some value =>
    cases value with
    | array items =>
      simp only
      split
      · exact (reports_mapOf key _).map
      · exact .mapM (reports_mapOf key) _
    | null | bool | number | string | object => exact (reports_mapOf key _).map

theorem reports_arrayOf (key : String) (members : Keyed Json) :
    Reports (arrayOf key members)
      (memberFaults .string (.invalidSchema key .typeNotText) (members.get? "type")) := by
  unfold arrayOf
  cases members.get? "type" with
  | none => exact .ok false
  | some value =>
    cases value with
    | null => exact .ok false
    | string name => exact .ok _
    | bool | number | array | object => exact .error _ []

theorem flatFieldOf_eq_ok {ν : Type} {key : String} {members : Keyed Json}
    {field : Field σ String ν} :
    flatFieldOf key members = .ok field ↔ members ≠ [] ∧
      ∃ path modifiers maps array, pathOf key members = .ok path ∧
        modifiersOf key members = .ok modifiers ∧ mapsOf key members = .ok maps ∧
        arrayOf key members = .ok array ∧
        ⟨path, (members.get? "default").map .value, modifiers, maps, array, none⟩ = field := by
  unfold flatFieldOf
  cases members with
  | nil => simp [throw, throwThe, MonadExceptOf.throw, bind_eq_ok]
  | cons member rest =>
    simp only [List.isEmpty_cons, Bool.false_eq_true, if_false, bind_eq_ok, pure_eq_ok, ne_eq,
      reduceCtorEq, not_false_eq_true, true_and]
    constructor
    · rintro ⟨path, paths, modifiers, names, maps, tables, array, list, same⟩
      exact ⟨path, modifiers, maps, array, paths, names, tables, list, same⟩
    · rintro ⟨path, modifiers, maps, array, paths, names, tables, list, same⟩
      exact ⟨path, paths, modifiers, names, maps, tables, array, list, same⟩

theorem reports_flatFieldOf {ν : Type} (key : String) (members : Keyed Json) :
    Reports (flatFieldOf key members : Except Error (Field σ String ν))
      ((if members.isEmpty then [.invalidSchema key .emptyRule] else []) ++
        (memberFaults .string (.invalidSchema key .pathNotText) (members.get? "path") ++
          (modifierFaults key members ++ (mapFaults key members ++
            memberFaults .string (.invalidSchema key .typeNotText) (members.get? "type"))))) := by
  unfold flatFieldOf
  split
  · exact .error _ _
  · exact (reports_pathOf key members).bind fun _ =>
      (reports_modifiersOf key members).bind fun _ =>
        (reports_mapsOf key members).bind fun _ => (reports_arrayOf key members).bindPure

end Rule

/-! ## Reading the rules of a schema -/

namespace Schema

mutual

/-- The rules written below the keys `scope`, each under its scoped key and before the rules of its
nested schema. -/
def written (scope : String) : List (String × Json) → List (String × Json)
  | [] => []
  | (key, value) :: rest =>
    (scopedKey scope key, value) ::
      (writtenWithin (scopedKey scope key) value ++ written scope rest)

def writtenWithin (key : String) : Json → List (String × Json)
  | .object members => writtenUnder key members
  | _ => []

def writtenUnder (key : String) : List (String × Json) → List (String × Json)
  | [] => []
  | (name, value) :: rest =>
    if name = "schema" then
      match value with
      | .object rules => written key rules
      | _ => []
    else writtenUnder key rest

end

theorem writtenUnder_eq (key : String) (members : Keyed Json) :
    writtenUnder key members =
      match members.get? "schema" with
      | some (.object rules) => written key rules
      | _ => [] := by
  induction members with
  | nil => simp [writtenUnder, Keyed.get?]
  | cons member rest ih =>
    obtain ⟨name, value⟩ := member
    unfold writtenUnder Keyed.get?
    by_cases here : name = "schema"
    · rw [if_pos here, if_pos here]
      cases value <;> rfl
    · rw [if_neg here, if_neg here, ih]

theorem writtenWithin_eq (key : String) (value : Json) :
    writtenWithin key value =
      match value.member? "schema" with
      | some (.object rules) => written key rules
      | _ => [] := by
  cases value with
  | object members => exact writtenUnder_eq key members
  | null | bool | number | string | array => rfl

theorem nestedOf_eq (key : String) (members : Keyed Json) :
    (nestedOf key members : Except Error (Option (Schema σ))) =
      match members.get? "schema" with
      | none | some .null => .ok none
      | some (.object rules) => some <$> Keyed.ofList <$> rulesBelow key rules
      | some _ => .error (.invalidSchema key .nestedNotRules) := by
  induction members with
  | nil => rfl
  | cons member rest ih =>
    obtain ⟨name, value⟩ := member
    unfold nestedOf Keyed.get?
    by_cases here : name = "schema"
    · rw [if_pos here, if_pos here]
      cases value <;> rfl
    · rw [if_neg here, if_neg here, ih]

/-- What is wrong with a written rule. -/
abbrev entryFaults (entry : String × Json) : List Error := Rule.faults entry.1 entry.2

theorem reports_nestedOf (key : String) (members : Keyed Json)
    (each : ∀ inner, members.get? "schema" = some (.object inner) →
      Reports (rulesBelow key inner : Except Error (List (String × Rule σ)))
        ((written key inner).flatMap entryFaults)) :
    Reports (nestedOf key members : Except Error (Option (Schema σ)))
      (Rule.memberFaults .object (.invalidSchema key .nestedNotRules) (members.get? "schema") ++
        (writtenUnder key members).flatMap entryFaults) := by
  rw [nestedOf_eq, writtenUnder_eq]
  cases found : members.get? "schema" with
  | none => exact .ok none
  | some value =>
    cases value with
    | null => exact .ok none
    | object inner => exact (each inner found).map.map
    | bool | number | string | array => exact .error _ _

theorem reports_rulesBelow (rules : List (String × Json)) (scope : String) :
    Reports (rulesBelow scope rules : Except Error (List (String × Rule σ)))
      ((written scope rules).flatMap entryFaults) := by
  -- Nested rules are read under a longer key, so the scope varies in the induction.
  induction rules using rules_induction generalizing scope with
  | nil => exact .ok []
  | cons key value rest ih below =>
    have first : Reports (ruleAt (scopedKey scope key) value : Except Error (Rule σ))
        (Rule.faults (scopedKey scope key) value ++
          (writtenWithin (scopedKey scope key) value).flatMap entryFaults) := by
      cases value with
      | string path => exact .ok _
      | object members =>
        have nested := reports_nestedOf (σ := σ) (scopedKey scope key) members
          fun inner found => below members inner rfl (Keyed.mem_of_get? found) _
        rw [ruleAt, writtenWithin]
        simpa only [Rule.faults, List.append_assoc] using
          (Rule.reports_flatFieldOf (scopedKey scope key) members).bind fun _ => nested.bindPure
      | null | bool | number | array => exact .error _ _
    rw [rulesBelow, written, List.flatMap_cons, List.flatMap_append, ← List.append_assoc]
    exact first.bind fun _ => (ih scope).bindPure

/-! ## The grammar -/

/-- The value is an object of rules that are in order, and so is what they nest. -/
inductive Spelled : Json → Prop where
  | intro (rules : List (String × Json)) (each : ∀ entry ∈ rules, Rule.Spelled entry.2)
      (below : ∀ entry ∈ rules, ∀ inner, entry.2.member? "schema" = some (.object inner) →
        Spelled (.object inner)) :
      Spelled (.object rules)

theorem spelled_cons_iff {key : String} {value : Json} {rest : List (String × Json)} :
    Spelled (.object ((key, value) :: rest)) ↔
      Rule.Spelled value ∧
        (∀ inner, value.member? "schema" = some (.object inner) → Spelled (.object inner)) ∧
        Spelled (.object rest) := by
  constructor
  · rintro ⟨_, each, below⟩
    obtain ⟨first, others⟩ := List.forall_mem_cons.1 each
    obtain ⟨nests, deeper⟩ := List.forall_mem_cons.1 below
    exact ⟨first, nests, .intro rest others deeper⟩
  · rintro ⟨first, nests, ⟨_, others, deeper⟩⟩
    exact .intro _ (List.forall_mem_cons.2 ⟨first, others⟩)
      (List.forall_mem_cons.2 ⟨nests, deeper⟩)

/-- A value spells a schema when all rules written in it are in order. -/
theorem spelled_iff_written (rules : List (String × Json)) (scope : String) :
    Spelled (.object rules) ↔ ∀ entry ∈ written scope rules, Rule.Spelled entry.2 := by
  induction rules using rules_induction generalizing scope with
  | nil => simpa [written] using Spelled.intro [] nofun nofun
  | cons key value rest ih below =>
    have nests : (∀ inner, value.member? "schema" = some (.object inner) →
          Spelled (.object inner)) ↔
        ∀ entry ∈ writtenWithin (scopedKey scope key) value, Rule.Spelled entry.2 := by
      rw [writtenWithin_eq]
      cases found : value.member? "schema" with
      | none => simp
      | some nested =>
        cases nested with
        | object inner =>
          obtain ⟨members, rfl, member⟩ := Json.mem_of_member? found
          simp only [Option.some.injEq, Json.object.injEq, forall_eq']
          exact below members inner rfl member _
        | null | bool | number | string | array => simp
    rw [spelled_cons_iff, nests, ih scope, written]
    simp only [List.forall_mem_cons, List.forall_mem_append]

theorem keys_of_rulesBelow {scope : String} {rules : List (String × Json)}
    {entries : List (String × Rule σ)} (h : rulesBelow scope rules = .ok entries) :
    Keyed.keys entries = Keyed.keys rules := by
  induction rules generalizing entries with
  | nil => cases h; rfl
  | cons entry rest ih =>
    obtain ⟨key, value⟩ := entry
    simp only [rulesBelow, bind_eq_ok, pure_eq_ok] at h
    obtain ⟨rule, _, others, later, rfl⟩ := h
    simp [ih later]

theorem reports_ofJson (rules : List (String × Json)) :
    Reports (ofJson (.object rules) : Except Error (Schema σ))
      ((written "" rules).flatMap entryFaults) :=
  (reports_rulesBelow rules "").map

theorem ofJson_object_eq_ok_iff {rules : List (String × Json)} :
    (∃ schema : Schema σ, ofJson (.object rules) = .ok schema) ↔ Spelled (.object rules) := by
  rw [(reports_ofJson rules).eq_ok_iff, List.flatMap_eq_nil_iff, spelled_iff_written rules ""]
  simp only [Rule.faults_eq_nil_iff]

/-- Reading accepts just the values of the grammar. Of an object outside the grammar it reports the
first fault of the first rule that is not in order, in pre-order and under the scoped key of that
rule; and a schema that is read has the keys of its value in their order. -/
theorem ofJson_accepts_grammar (value : Json) :
    ((∃ schema : Schema σ, ofJson value = .ok schema) ↔ Spelled value) ∧
    (∀ rules, value = .object rules → ∀ e, (ofJson value : Except Error (Schema σ)) = .error e ↔
      ∃ before key rule after, written "" rules = before ++ (key, rule) :: after ∧
        (∀ earlier ∈ before, Rule.Spelled earlier.2) ∧ ¬ Rule.Spelled rule ∧
        (Rule.faults key rule).head? = some e ∧ e.key? = some key) ∧
    (∀ rules, value = .object rules → Keyed.Distinct rules →
      ∀ schema : Schema σ, ofJson value = .ok schema → schema.keys = Keyed.keys rules) := by
  refine ⟨?_, ?_, ?_⟩
  · cases value with
    | object rules => exact ofJson_object_eq_ok_iff
    | null | bool | number | string | array =>
      constructor
      · rintro ⟨schema, read⟩
        cases read
      · rintro ⟨⟩
  · rintro rules rfl e
    rw [(reports_ofJson rules).eq_error_iff, head?_flatMap_eq_some]
    simp only [Rule.faults_eq_nil_iff]
    constructor
    · rintro ⟨before, ⟨key, rule⟩, after, split, sound, first⟩
      have found : e ∈ Rule.faults key rule := List.mem_of_head? first
      exact ⟨before, key, rule, after, split, sound,
        fun spelled => List.ne_nil_of_mem found (Rule.faults_eq_nil_iff.2 spelled), first,
        Rule.key?_of_mem_faults found⟩
    · rintro ⟨before, key, rule, after, split, sound, _, first, _⟩
      exact ⟨before, (key, rule), after, split, sound, first⟩
  · rintro rules rfl distinct schema read
    obtain ⟨entries, below, rfl⟩ := map_eq_ok.1 read
    have keys := keys_of_rulesBelow below
    rw [Keyed.ofList_eq (by rwa [Keyed.Distinct, keys]), keys]

/-- A number stands where a rule is expected, two levels down. -/
def misspelled : List (String × Json) :=
  [("friends", .object [("path", .string "$.friends[*]"),
    ("schema", .object [("hobbies", .object [("schema", .object [("years", .ofInt 7)])])])])]

/-- Rules with one name, one table as pairs and a nested schema. -/
def wellSpelled : List (String × Json) :=
  [("name", .string "$.name"),
   ("status", .object [("path", .string "$.status"), ("modifiers", .null),
     ("modifier", .string "strip"), ("map", .array [.array [.ofInt 1, .string "on"]])]),
   ("friends", .object [("path", .string "$.friends[*]"), ("type", .string "array"),
     ("schema", .object [("name", .string "$.name")])])]

theorem spellings_judged :
    ((ofJson (.object misspelled) : Except Error (Schema Nat)) =
        .error (.invalidSchema "friends.hobbies.years" .notRule) ∧
      ¬ Spelled (.object misspelled) ∧
      ∃ before key rule after, written "" misspelled = before ++ (key, rule) :: after ∧
        (∀ earlier ∈ before, Rule.Spelled earlier.2) ∧ ¬ Rule.Spelled rule ∧
        (Rule.faults key rule).head? = some (.invalidSchema "friends.hobbies.years" .notRule) ∧
        (Error.invalidSchema "friends.hobbies.years" .notRule).key? = some key) ∧
    Keyed.Distinct wellSpelled ∧ Spelled (.object wellSpelled) ∧
      ∃ schema : Schema Nat, ofJson (.object wellSpelled) = .ok schema ∧
        schema.keys = Keyed.keys wellSpelled := by
  obtain ⟨accepts, reports, _⟩ := ofJson_accepts_grammar (σ := Nat) (.object misspelled)
  have refused : (ofJson (.object misspelled) : Except Error (Schema Nat)) =
      .error (.invalidSchema "friends.hobbies.years" .notRule) := by
    rfl
  have unspelled : ¬ Spelled (.object misspelled) := by
    intro spelled
    obtain ⟨schema, read⟩ := accepts.2 spelled
    cases refused.symm.trans read
  have read : ∃ schema : Schema Nat, ofJson (.object wellSpelled) = .ok schema := by
    exact ⟨_, rfl⟩
  have distinct : Keyed.Distinct wellSpelled := by decide
  obtain ⟨spells, _, keys⟩ := ofJson_accepts_grammar (σ := Nat) (.object wellSpelled)
  obtain ⟨schema, same⟩ := read
  exact ⟨⟨refused, unspelled, (reports _ rfl _).1 refused⟩, distinct, spells.1 ⟨schema, same⟩,
    schema, same, keys _ rfl distinct schema same⟩

end Schema

end Reshape
