import Reshape.Proofs.Grammar
import Reshape.Proofs.Tables

/-!
# One table or a list of tables

The tables of a rule are written as one table or as a list of tables, and a list of pairs could be
meant as either. The reader goes by the first items of the pairs alone:

* `not_plainPair_of_table`: no table is a pair whose first item is no list, so a list of tables never
  passes for one table, and `table_lists_read_as_lists` says what it is read as;
* `mapsOf_table_iff`: one table is read as such unless some pair of it starts with a list, and
  `table_alone_or_listed` compares it with the list of it.
-/

namespace Reshape

open Results ValueMap

variable {σ : Type}

/-! ## Lists of pairs -/

namespace ValueMap

theorem pair?_eq_some_iff {item : Json} {pair : Insertion} :
    pair? item = some pair ↔ item = .array [pair.1, pair.2] := by
  constructor
  · intro h
    unfold pair? at h
    split at h
    · cases h
      rfl
    · cases h
  · rintro rfl
    rfl

theorem mapM_pair?_iff {items : List Json} {pairs : List Insertion} :
    items.mapM pair? = some pairs ↔ items = pairs.map fun pair => .array [pair.1, pair.2] := by
  constructor
  · intro h
    induction items generalizing pairs with
    | nil =>
      cases h
      rfl
    | cons item rest ih =>
      rw [List.mapM_cons] at h
      obtain ⟨pair, first, h⟩ := Option.bind_eq_some_iff.1 h
      obtain ⟨others, later, last⟩ := Option.bind_eq_some_iff.1 h
      cases last
      rw [List.map_cons, ← ih later, pair?_eq_some_iff.1 first]
  · rintro rfl
    exact mapM_pair? pairs

theorem ofJson?_array_iff {items : List Json} {table : ValueMap} :
    ofJson? (.array items) = some table ↔
      ∃ pairs : List Insertion, (items = pairs.map fun pair => .array [pair.1, pair.2]) ∧
        ofPairs pairs = table := by
  change ofPairs <$> items.mapM pair? = some table ↔ _
  rw [Option.map_eq_map, Option.map_eq_some_iff]
  simp only [mapM_pair?_iff]

/-- No value is its own first item, so one table is never read as the list of its pairs. -/
theorem ofPairs_pair_ne {source target first second : Json} :
    ofPairs [(source, target), (first, second)] ≠
      ofPairs [(.array [source, target], .array [first, second])] := by
  intro same
  have keys := congrArg (fun table => table.keys.head?) same
  have start : (ofPairs [(source, target), (first, second)]).keys.head? = some source := by
    by_cases alike : Json.Same source first
    · simp [ofPairs, ValueMap.insert, insertEntry, empty, ValueMap.keys, alike]
    · simp [ofPairs, ValueMap.insert, insertEntry, empty, ValueMap.keys, alike]
  have whole : (ofPairs [(.array [source, target], .array [first, second])]).keys.head? =
      some (.array [source, target]) := rfl
  have own : source = .array [source, target] :=
    Option.some.inj (start.symm.trans (keys.trans whole))
  have longer := congrArg sizeOf own
  simp only [Json.array.sizeOf_spec, List.cons.sizeOf_spec] at longer
  omega

/-- The tables that the items of a list spell look a value up one after another; `null` is passed
over. -/
inductive LookedUp : List Json → Json → Json → Prop where
  | done (value : Json) : LookedUp [] value value
  | passed {items : List Json} {value last : Json} (later : LookedUp items value last) :
      LookedUp (.null :: items) value last
  | table {item : Json} {table : ValueMap} {items : List Json} {value last : Json}
      (spells : ofJson? item = some table) (later : LookedUp items (table.lookup value) last) :
      LookedUp (item :: items) value last

/-- All items of the list are tables or `null`. -/
def TableList (items : List Json) : Prop :=
  ∀ item ∈ items, item = .null ∨ ∃ table, ofJson? item = some table

theorem lookedUp_iff {items : List Json} (tables : TableList items) {value last : Json} :
    LookedUp items value last ↔ chain (items.filterMap ofJson?) value = last := by
  induction items generalizing value with
  | nil =>
    constructor
    · intro h
      cases h
      rfl
    · rintro rfl
      exact .done value
  | cons item items ih =>
    obtain ⟨first, others⟩ := List.forall_mem_cons.1 tables
    obtain rfl | ⟨table, spells⟩ := first
    · have absent : ofJson? .null = none := rfl
      rw [List.filterMap_cons_none absent, ← ih others]
      constructor
      · intro h
        cases h with
        | passed later => exact later
        | table spells _ => cases spells
      · exact .passed
    · have step : chain (table :: items.filterMap ofJson?) value =
          chain (items.filterMap ofJson?) (table.lookup value) := rfl
      rw [List.filterMap_cons_some spells, step, ← ih others]
      constructor
      · intro h
        cases h with
        | passed _ => cases spells
        | table own later =>
          cases own.symm.trans spells
          exact later
      · exact .table spells

end ValueMap

namespace Rule

/-! ## Lists of tables -/

/-- A table that is a list starts with a pair, which is a list as well. -/
theorem not_plainPair_of_table {value : Json} {table : ValueMap}
    (spells : ofJson? value = some table) : ¬ PlainPair value := by
  rintro ⟨source, target, rfl, plain⟩
  obtain ⟨pairs, items, _⟩ := ofJson?_array_iff.1 spells
  cases pairs with
  | nil => cases items
  | cons first _ =>
    rw [List.map_cons] at items
    exact plain [first.1, first.2] (List.cons.inj items).1

/-- A list of tables does not pass for one table. -/
theorem isPairList_of_tables {items : List Json} (tables : TableList items) :
    isPairList items = false := by
  rw [← Bool.not_eq_true, isPairList_iff]
  rintro ⟨nonempty, pairs⟩
  obtain ⟨item, member⟩ := List.exists_mem_of_ne_nil items nonempty
  have pair := pairs item member
  obtain rfl | ⟨table, spells⟩ := tables item member
  · obtain ⟨_, _, same, _⟩ := pair
    cases same
  · exact not_plainPair_of_table spells pair

theorem mapOf_of_table {value : Json} {table : ValueMap} (spells : ofJson? value = some table)
    (key : String) : mapOf key value = .ok table := by
  rw [mapOf, spells]

theorem mapM_mapOf {items : List Json} (tables : TableList items) (key : String) :
    (items.filter fun item => !item.isNull).mapM (mapOf key) =
      .ok (items.filterMap ofJson?) := by
  induction items with
  | nil => rfl
  | cons item items ih =>
    obtain ⟨first, others⟩ := List.forall_mem_cons.1 tables
    obtain rfl | ⟨table, spells⟩ := first
    · have absent : ofJson? .null = none := rfl
      rw [List.filterMap_cons_none absent, List.filter_cons_of_neg (by decide), ih others]
    · have solid : item.isNull = false := by
        cases item with
        | null => cases spells
        | _ => rfl
      rw [List.filterMap_cons_some spells, List.filter_cons_of_pos (by rw [solid]; rfl)]
      exact mapM_cons_eq_ok.2 ⟨table, _, rfl, mapOf_of_table spells key, ih others⟩

theorem mapsOf_list {members : Keyed Json} {items : List Json}
    (counts : Counts members "maps" "map" (.array items)) (tables : TableList items)
    (key : String) : mapsOf key members = .ok (items.filterMap ofJson?) := by
  have list := isPairList_of_tables tables
  rw [mapsOf, firstMember?_eq_some_iff.2 counts]
  simp only [list, Bool.false_eq_true, if_false]
  exact mapM_mapOf tables key

/-! ## Members other than the tables -/

/-- The rules have the same members, their tables aside. -/
def AlikeButMaps (first second : Keyed Json) : Prop :=
  ∀ name, name ≠ "maps" → name ≠ "map" → first.get? name = second.get? name

/-- The rule with these tables; a path alone has none. -/
def withMaps (maps : List ValueMap) : Rule σ → Rule σ
  | path expression => path expression
  | record field => record { field with maps }

theorem Counts.nonempty {members : Keyed Json} {plural singular : String} {value : Json}
    (counts : Counts members plural singular value) : members ≠ [] := by
  rintro rfl
  obtain ⟨_, present | ⟨_, present⟩⟩ := counts
  · cases present
  · cases present

theorem mapsOf_of_ruleAt {key : String} {members : Keyed Json} {rule : Rule σ}
    (read : Schema.ruleAt key (.object members) = .ok rule) :
    mapsOf key members = .ok rule.field.maps := by
  simp only [Schema.ruleAt, bind_eq_ok, pure_eq_ok] at read
  obtain ⟨field, described, nested, _, rfl⟩ := read
  obtain ⟨_, path, modifiers, maps, array, _, _, found, _, rfl⟩ := flatFieldOf_eq_ok.1 described
  exact found

/-- Rules that differ in their tables only are read alike, the tables aside. -/
theorem ruleAt_of_alike {first second : Keyed Json} (alike : AlikeButMaps first second)
    (solid : first ≠ []) (solid' : second ≠ []) {key : String} {maps others : List ValueMap}
    (read : mapsOf key first = .ok maps) (read' : mapsOf key second = .ok others) :
    (Schema.ruleAt key (.object first) : Except Error (Rule σ)) =
      withMaps maps <$> Schema.ruleAt key (.object second) := by
  have path : pathOf key first = pathOf key second := by
    unfold pathOf
    rw [alike "path" (by decide) (by decide)]
  have modifiers : modifiersOf key first = modifiersOf key second := by
    unfold modifiersOf
    rw [firstMember?_eq_or, firstMember?_eq_or, alike "modifiers" (by decide) (by decide),
      alike "modifier" (by decide) (by decide)]
  have array : arrayOf key first = arrayOf key second := by
    unfold arrayOf
    rw [alike "type" (by decide) (by decide)]
  have nested : (Schema.nestedOf key first : Except Error (Option (Schema σ))) =
      Schema.nestedOf key second := by
    rw [Schema.nestedOf_eq, Schema.nestedOf_eq, alike "schema" (by decide) (by decide)]
  have default := alike "default" (by decide) (by decide)
  have some_member : first.isEmpty = false := List.isEmpty_eq_false_iff.2 solid
  have some_member' : second.isEmpty = false := List.isEmpty_eq_false_iff.2 solid'
  simp only [Schema.ruleAt, flatFieldOf, some_member, some_member', path, modifiers, array, nested,
    default, read, read']
  cases pathOf key second with
  | error e => rfl
  | ok path =>
    cases modifiersOf key second with
    | error e => rfl
    | ok modifiers =>
      cases arrayOf key second with
      | error e => rfl
      | ok array => cases (Schema.nestedOf key second : Except Error (Option (Schema σ))) <;> rfl

/-! ## What a list of tables is read as -/

/-- **Lists of tables are read as lists.** Where the tables of a rule are a list of tables and nulls,
they are read without error as those tables in their order, whatever the tables look like, and not
as one table of pairs. A value that has gone through the modifiers of the rule is looked up in one
table after another. -/
theorem table_lists_read_as_lists {members : Keyed Json} {items : List Json}
    (counts : Counts members "maps" "map" (.array items)) (tables : TableList items)
    (key : String) :
    mapsOf key members = .ok (items.filterMap ofJson?) ∧
      (∀ value last, chain (items.filterMap ofJson?) value = last ↔ LookedUp items value last) ∧
      ∀ rule : Rule σ, Schema.ruleAt key (.object members) = .ok rule →
        rule.field.maps = items.filterMap ofJson? ∧
        ∀ registry strict value last, rule.field.transform registry strict value = .ok last ↔
          ∃ changed, registry.applyAll strict rule.field.modifiers value = .ok changed ∧
            LookedUp items changed last := by
  have read := mapsOf_list counts tables key
  refine ⟨read, fun value last => (lookedUp_iff tables).symm, ?_⟩
  intro rule accepted
  have own : rule.field.maps = items.filterMap ofJson? :=
    Except.ok.inj ((mapsOf_of_ruleAt accepted).symm.trans read)
  refine ⟨own, ?_⟩
  intro registry strict value last
  simp only [Field.transform, map_eq_ok, own, lookedUp_iff tables]

/-- No table, a table of two pairs and an object, with nulls between them. -/
def levels : List Json :=
  [.null, .array [], .array [.array [.null, .string "low"], .array [.ofInt 2, .string "high"]],
    .null, .object [("low", .string "L")]]

/-- The two pairs stay one table: every value comes out as `null`, then `low`, then `L`. -/
theorem levels_read :
    ∃ rule : Rule Nat,
      Schema.ruleAt "level" (.object [("path", .string "$.level"), ("maps", .null),
        ("map", .array levels)]) = .ok rule ∧ rule.field.maps.length = 3 ∧
      rule.field.transform .initial true (.ofInt 2) = .ok (.string "L") := by
  have counts : Counts [("path", .string "$.level"), ("maps", .null), ("map", .array levels)]
      "maps" "map" (.array levels) :=
    ⟨nofun, .inr ⟨fun other found => (Option.some.inj found).symm, rfl⟩⟩
  have tables : TableList levels := by
    simp [TableList, levels, ofJson?, pair?]
  obtain ⟨read, answers, rules⟩ := table_lists_read_as_lists (σ := Nat) counts tables "level"
  have accepted := rules (.record ⟨some "$.level", none, [], levels.filterMap ofJson?, false, none⟩)
    rfl
  have last := (answers (.ofInt 2) (.string "L")).1 (by decide +kernel)
  exact ⟨_, rfl, rfl, (accepted.2 .initial true (.ofInt 2) _).2 ⟨.ofInt 2, rfl, last⟩⟩

/-! ## What one table is read as -/

/-- Some pair of the list has a list for its first item. -/
def StartsWithList (value : Json) : Prop :=
  ∃ items own target, value = .array items ∧ .array [.array own, target] ∈ items

theorem plainPairs_of_table {items : List Json} {table : ValueMap}
    (spells : ofJson? (.array items) = some table) (plain : ¬ StartsWithList (.array items)) :
    ∀ item ∈ items, PlainPair item := by
  intro item member
  obtain ⟨pairs, rfl, _⟩ := ofJson?_array_iff.1 spells
  obtain ⟨⟨source, target⟩, _, rfl⟩ := List.mem_map.1 member
  refine ⟨source, target, rfl, ?_⟩
  rintro own rfl
  exact plain ⟨_, own, target, rfl, member⟩

/-- One table is read as one if no pair of it starts with a list. -/
theorem mapsOf_table {members : Keyed Json} {value : Json} {table : ValueMap}
    (counts : Counts members "maps" "map" value) (spells : ofJson? value = some table)
    (nonempty : value ≠ .array []) (plain : ¬ StartsWithList value) (key : String) :
    mapsOf key members = .ok [table] := by
  rw [mapsOf, firstMember?_eq_some_iff.2 counts]
  cases value with
  | array items =>
    have pairs : isPairList items = true := by
      refine isPairList_iff.2 ⟨?_, plainPairs_of_table spells plain⟩
      rintro rfl
      exact nonempty rfl
    simp only [pairs, if_true]
    exact map_eq_ok.2 ⟨table, mapOf_of_table spells key, rfl⟩
  | object => exact map_eq_ok.2 ⟨table, mapOf_of_table spells key, rfl⟩
  | null | bool | number | string => cases spells

theorem table_of_mapOf {key : String} {value : Json} {table : ValueMap}
    (read : mapOf key value = .ok table) : ofJson? value = some table := by
  unfold mapOf at read
  split at read
  · rename_i found
    rw [found, Except.ok.inj read]
  · cases read

/-- A pair that starts with a list makes the whole a list of tables, which it is not read as twice. -/
theorem mapsOf_startsWithList {members : Keyed Json} {value : Json} {table : ValueMap}
    (counts : Counts members "maps" "map" value) (spells : ofJson? value = some table)
    (starts : StartsWithList value) (key : String) : mapsOf key members ≠ .ok [table] := by
  obtain ⟨items, own, target, rfl, member⟩ := starts
  have list : isPairList items = false := by
    rw [← Bool.not_eq_true, isPairList_iff]
    rintro ⟨_, pairs⟩
    obtain ⟨_, _, same, plain⟩ := pairs _ member
    cases same
    exact plain own rfl
  rw [mapsOf, firstMember?_eq_some_iff.2 counts]
  simp only [list, Bool.false_eq_true, if_false]
  obtain ⟨pairs, rfl, made⟩ := ofJson?_array_iff.1 spells
  have solid : ((pairs.map fun pair => Json.array [pair.1, pair.2]).filter fun item =>
      !item.isNull) = pairs.map fun pair => .array [pair.1, pair.2] := by
    refine List.filter_eq_self.2 ?_
    intro item inside
    obtain ⟨pair, _, rfl⟩ := List.mem_map.1 inside
    rfl
  rw [solid]
  intro read
  -- One table comes from one pair, whose two items are then pairs themselves.
  obtain _ | ⟨⟨source, target'⟩, rest⟩ := pairs
  · cases member
  rw [List.map_cons] at read
  obtain ⟨_, others, one, first, later⟩ := mapM_cons_eq_ok.1 read
  obtain ⟨rfl, rfl⟩ := List.cons.inj one
  obtain _ | ⟨_, rest⟩ := rest
  · obtain ⟨halves, split, twice⟩ := ofJson?_array_iff.1 (table_of_mapOf first)
    obtain _ | ⟨left, _ | ⟨right, _ | ⟨_, _⟩⟩⟩ := halves
    · cases split
    · cases split
    · cases split
      exact ofPairs_pair_ne (twice.trans made.symm)
    · cases split
  · rw [List.map_cons] at later
    obtain ⟨_, _, none, _⟩ := mapM_cons_eq_ok.1 later
    cases none

theorem mapsOf_table_iff {members : Keyed Json} {value : Json} {table : ValueMap}
    (counts : Counts members "maps" "map" value) (spells : ofJson? value = some table)
    (nonempty : value ≠ .array []) (key : String) :
    mapsOf key members = .ok [table] ↔ ¬ StartsWithList value :=
  ⟨fun read starts => mapsOf_startsWithList counts spells starts key read,
    fun plain => mapsOf_table counts spells nonempty plain key⟩

/-- **A table may stand alone or as a list of itself.** A rule that lists one table is read as the
same rule with no tables, and gets that table. With the table alone it is read in the same way,
unless the table is written as pairs some of which start with a list: then it does not get that
table. -/
theorem table_alone_or_listed {value : Json} {table : ValueMap}
    (spells : ofJson? value = some table) (nonempty : value ≠ .array [])
    {alone listed bare : Keyed Json} (single : Counts alone "maps" "map" value)
    (several : Counts listed "maps" "map" (.array [value]))
    (none : Counts bare "maps" "map" (.array [])) (alike : AlikeButMaps alone bare)
    (alike' : AlikeButMaps listed bare) (key : String) :
    mapsOf key listed = .ok [table] ∧
      (Schema.ruleAt key (.object listed) : Except Error (Rule σ)) =
        withMaps [table] <$> Schema.ruleAt key (.object bare) ∧
      (mapsOf key alone = .ok [table] ↔ ¬ StartsWithList value) ∧
      (¬ StartsWithList value → (Schema.ruleAt key (.object alone) : Except Error (Rule σ)) =
        withMaps [table] <$> Schema.ruleAt key (.object bare)) := by
  have empty := mapsOf_list none nofun key
  have tables : TableList [value] := List.forall_mem_singleton.2 (.inr ⟨table, spells⟩)
  have listed_read : mapsOf key listed = .ok [table] := by
    rw [mapsOf_list several tables, List.filterMap_cons_some spells, List.filterMap_nil]
  have alone_iff := mapsOf_table_iff single spells nonempty key
  refine ⟨listed_read, ?_, alone_iff, ?_⟩
  · exact ruleAt_of_alike alike' several.nonempty none.nonempty listed_read empty
  · intro plain
    exact ruleAt_of_alike alike single.nonempty none.nonempty (alone_iff.2 plain) empty

/-- A table of pairs, one of which answers with a list. -/
def switches : Json :=
  .array [.array [.ofInt 1, .array [.string "on", .string "up"]], .array [.null, .string "off"]]

theorem switches_alone_or_listed :
    ∃ alone listed : Rule Nat,
      Schema.ruleAt "switch" (.object [("path", .string "$.on"), ("map", switches)]) =
        .ok alone ∧
      Schema.ruleAt "switch" (.object [("maps", .array [switches]), ("path", .string "$.on")]) =
        .ok listed ∧
      alone.field.maps = listed.field.maps ∧ alone.field.maps.length = 1 ∧
      chain alone.field.maps (.ofInt 1) = .array [.string "on", .string "up"] := by
  let bare : Keyed Json := [("path", .string "$.on"), ("maps", .array [])]
  have spells : ofJson? switches = some (ofPairs
      [(.ofInt 1, .array [.string "on", .string "up"]), (.null, .string "off")]) := rfl
  have nonempty : switches ≠ .array [] := nofun
  have plain : ¬ StartsWithList switches := by
    simp [StartsWithList, switches, Json.ofInt]
  have single : Counts [("path", .string "$.on"), ("map", switches)] "maps" "map" switches :=
    ⟨nofun, .inr ⟨nofun, rfl⟩⟩
  have several : Counts [("maps", .array [switches]), ("path", .string "$.on")] "maps" "map"
      (.array [switches]) :=
    ⟨nofun, .inl rfl⟩
  have none : Counts bare "maps" "map" (.array []) := ⟨nofun, .inl rfl⟩
  have alike : AlikeButMaps [("path", .string "$.on"), ("map", switches)] bare := by
    intro name plural singular
    simp [bare, Keyed.get?, plural.symm, singular.symm]
  have alike' : AlikeButMaps [("maps", .array [switches]), ("path", .string "$.on")] bare := by
    intro name plural _
    simp [bare, Keyed.get?, plural.symm]
  obtain ⟨_, listed, _, alone⟩ := table_alone_or_listed (σ := Nat) spells nonempty single several
    none alike alike' "switch"
  exact ⟨_, _, alone plain, listed, rfl, rfl, by decide +kernel⟩

/-- A table whose only pair starts with a list. -/
def couples : Json := .array [.array [.array [.string "a", .string "b"], .string "x"]]

/-- A table alone is not always read like the list of it: this one is refused. -/
theorem couples_refused_alone :
    ¬ ∀ value table, ofJson? value = some table → value ≠ .array [] → value ≠ .object [] →
      ∀ key, ∃ alone listed : Rule Nat,
        Schema.ruleAt key (.object [("map", value)]) = .ok alone ∧
        Schema.ruleAt key (.object [("maps", .array [value])]) = .ok listed ∧
        alone.field.maps = [table] ∧ listed.field.maps = [table] := by
  intro always
  obtain ⟨alone, _, accepted, _⟩ := always couples _ rfl nofun nofun "couple"
  have refused : (Schema.ruleAt "couple" (.object [("map", couples)]) : Except Error (Rule Nat)) =
      .error (.invalidMap "couple"
        (.array [.array [.string "a", .string "b"], .string "x"])) := rfl
  rw [refused] at accepted
  cases accepted

end Rule

end Reshape
