import Mathlib.Data.List.Induction
import Reshape.Proofs.Documents
import Reshape.ValueMap

/-!
# Tables and the insertions behind them

A table of values is what its insertions make of it, in whatever way they were written:

* `Built` lists the insertions behind a table;
* `keys_insert` and `get?_insert` say what one insertion does to the keys and to what is looked up;
* `built_iff` reduces all ways to build a table to a list of pairs;
* `tables_remember_last_insertions` says what the keys, the size and the answers of a table are.
-/

namespace Reshape

namespace ValueMap

/-- An insertion: a key and its target. -/
abbrev Insertion := Json × Json

/-- The keys of a table, in the order of its entries. -/
def keys (table : ValueMap) : List Json := table.entries.map Prod.fst

theorem size_eq (table : ValueMap) : table.size = table.keys.length := by
  rw [keys, List.length_map, size]

/-- The table is what these insertions make of the empty one. -/
inductive Built : ValueMap → List Insertion → Prop where
  | empty : Built .empty []
  | insert {table : ValueMap} {history : List Insertion} (before : Built table history)
      (key target : Json) : Built (table.insert key target) (history ++ [(key, target)])
  | withFallback {table : ValueMap} {history : List Insertion} (before : Built table history)
      (target : Json) : Built (table.withFallback target) (history ++ [(.null, target)])
  | ofPairs (pairs : List Insertion) : Built (.ofPairs pairs) pairs
  | ofObject {members : List (String × Json)} {table : ValueMap}
      (read : ofJson? (.object members) = some table) :
      Built table (members.map fun member => (.string member.1, member.2))
  | ofList {pairs : List Insertion} {table : ValueMap}
      (read : ofJson? (.array (pairs.map fun pair => .array [pair.1, pair.2])) = some table) :
      Built table pairs

/-! ## One insertion -/

theorem keys_insert (table : ValueMap) (key target : Json) :
    (table.insert key target).keys =
      if ∃ k ∈ table.keys, Json.Same k key then table.keys else table.keys ++ [key] := by
  obtain ⟨entries⟩ := table
  change (insertEntry key target entries).map Prod.fst =
    if ∃ k ∈ entries.map Prod.fst, Json.Same k key then entries.map Prod.fst
    else entries.map Prod.fst ++ [key]
  induction entries with
  | nil => simp [insertEntry]
  | cons entry rest ih =>
    unfold insertEntry
    by_cases here : Json.Same entry.1 key
    · simp [here]
    · simp only [here, if_false, List.map_cons, ih, List.mem_cons, exists_eq_or_imp, false_or]
      split <;> rfl

theorem get?_insert (table : ValueMap) (key target other : Json) :
    (table.insert key target).get? other =
      if Json.Same key other then some target else table.get? other := by
  obtain ⟨entries⟩ := table
  change ((insertEntry key target entries).find? fun e => Json.Same e.1 other).map Prod.snd =
    if Json.Same key other then some target
    else (entries.find? fun e => Json.Same e.1 other).map Prod.snd
  induction entries with
  | nil =>
    by_cases asked : Json.Same key other
    · simp [insertEntry, asked]
    · simp [insertEntry, asked]
  | cons entry rest ih =>
    unfold insertEntry
    by_cases here : Json.Same entry.1 key
    · -- The entry keeps its own spelling of the key, which is the same as any other.
      have alike : Json.Same entry.1 other ↔ Json.Same key other :=
        ⟨fun h => here.symm.trans h, fun h => here.trans h⟩
      by_cases asked : Json.Same key other
      · simp [here, alike, asked]
      · simp [here, alike, asked]
    · by_cases first : Json.Same entry.1 other
      · have other : ¬ Json.Same key other := fun h => here (first.trans h.symm)
        simp [here, first, other]
      · simp [here, first, ih]

/-! ## All insertions -/

theorem ofPairs_concat (history : List Insertion) (insertion : Insertion) :
    ofPairs (history ++ [insertion]) = (ofPairs history).insert insertion.1 insertion.2 := by
  rw [ofPairs, List.foldl_append]
  rfl

theorem mapM_pair? (pairs : List Insertion) :
    (pairs.map fun pair => Json.array [pair.1, pair.2]).mapM pair? = some pairs := by
  induction pairs with
  | nil => rfl
  | cons pair rest ih => simp [pair?, ih]

theorem ofJson?_object (members : List (String × Json)) :
    ofJson? (.object members) =
      some (ofPairs (members.map fun member => (.string member.1, member.2))) := rfl

theorem ofJson?_pairs (pairs : List Insertion) :
    ofJson? (.array (pairs.map fun pair => .array [pair.1, pair.2])) = some (ofPairs pairs) := by
  rw [ofJson?, mapM_pair?]
  rfl

/-- However a table is built, it is the table of its insertions in order. -/
theorem built_iff {table : ValueMap} {history : List Insertion} :
    Built table history ↔ table = ofPairs history := by
  constructor
  · intro built
    induction built with
    | empty => rfl
    | insert _ key target ih => rw [ofPairs_concat, ih]
    | withFallback _ target ih => rw [ofPairs_concat, ih, withFallback]
    | ofPairs pairs => rfl
    | ofObject read => exact (Option.some.inj ((ofJson?_object _).symm.trans read)).symm
    | ofList read => exact (Option.some.inj ((ofJson?_pairs _).symm.trans read)).symm
  · rintro rfl
    exact .ofPairs history

/-! ## Keys -/

/-- The keys are those of the insertions, one for each that is not the same as another. -/
structure Represents (keys : List Json) (history : List Insertion) : Prop where
  unequal : keys.Pairwise fun a b => ¬ Json.Same a b
  inserted : ∀ key ∈ keys, ∃ insertion ∈ history, Json.Same key insertion.1
  complete : ∀ insertion ∈ history, ∃ key ∈ keys, Json.Same key insertion.1

namespace Represents

variable {keys : List Json} {history : List Insertion}

theorem concat_known (h : Represents keys history) {insertion : Insertion}
    (known : ∃ key ∈ keys, Json.Same key insertion.1) :
    Represents keys (history ++ [insertion]) where
  unequal := h.unequal
  inserted key member := by
    obtain ⟨earlier, present, same⟩ := h.inserted key member
    exact ⟨earlier, List.mem_append_left _ present, same⟩
  complete other member := by
    obtain before | last := List.mem_append.1 member
    · exact h.complete other before
    · obtain rfl := List.mem_singleton.1 last
      exact known

theorem concat_new (h : Represents keys history) {insertion : Insertion}
    (fresh : ¬ ∃ key ∈ keys, Json.Same key insertion.1) :
    Represents (keys ++ [insertion.1]) (history ++ [insertion]) where
  unequal := by
    refine List.pairwise_append.2 ⟨h.unequal, List.pairwise_singleton _ _, ?_⟩
    intro key member other last
    obtain rfl := List.mem_singleton.1 last
    exact fun same => fresh ⟨key, member, same⟩
  inserted key member := by
    obtain before | last := List.mem_append.1 member
    · obtain ⟨earlier, present, same⟩ := h.inserted key before
      exact ⟨earlier, List.mem_append_left _ present, same⟩
    · obtain rfl := List.mem_singleton.1 last
      exact ⟨insertion, List.mem_append_right _ List.mem_cons_self, .refl _⟩
  complete other member := by
    obtain before | last := List.mem_append.1 member
    · obtain ⟨key, present, same⟩ := h.complete other before
      exact ⟨key, List.mem_append_left _ present, same⟩
    · obtain rfl := List.mem_singleton.1 last
      exact ⟨other.1, List.mem_append_right _ List.mem_cons_self, .refl _⟩

/-- Whichever keys are taken for those that are the same, there are as many. -/
theorem length_eq {others : List Json} (h : Represents keys history)
    (k : Represents others history) : keys.length = others.length := by
  have nodup {keys : List Json} (h : Represents keys history) : (keys.map Json.canonical).Nodup :=
    List.pairwise_map.2 h.unequal
  have sub {keys others : List Json} (h : Represents keys history) (k : Represents others history) :
      keys.map Json.canonical ⊆ others.map Json.canonical := by
    intro form member
    obtain ⟨key, present, rfl⟩ := List.mem_map.1 member
    obtain ⟨insertion, made, same⟩ := h.inserted key present
    obtain ⟨other, there, alike⟩ := k.complete insertion made
    exact List.mem_map.2 ⟨other, there, alike.trans same.symm⟩
  have exchanged : (keys.map Json.canonical).Perm (others.map Json.canonical) :=
    (List.perm_ext_iff_of_nodup (nodup h) (nodup k)).2 fun _ =>
      ⟨fun member => sub h k member, fun member => sub k h member⟩
  simpa using exchanged.length_eq

end Represents

theorem represents_keys (history : List Insertion) :
    Represents (ofPairs history).keys history := by
  induction history using List.reverseRecOn with
  | nil => exact ⟨.nil, nofun, nofun⟩
  | append_singleton history insertion ih =>
    rw [ofPairs_concat, keys_insert]
    split
    · rename_i known
      exact ih.concat_known known
    · rename_i fresh
      exact ih.concat_new fresh

/-- The keys stand in the order in which they were inserted first. -/
theorem sublist_keys (history : List Insertion) :
    (ofPairs history).keys.Sublist (history.map Prod.fst) := by
  induction history using List.reverseRecOn with
  | nil => exact .slnil
  | append_singleton history insertion ih =>
    rw [ofPairs_concat, keys_insert, List.map_append]
    split
    · exact ih.trans (List.sublist_append_left _ _)
    · exact ih.append (.refl _)

/-! ## Answers -/

/-- The last insertion under the key, or one that is the same, has this target. -/
def LastInsertion (history : List Insertion) (key target : Json) : Prop :=
  ∃ before own after, history = before ++ (own, target) :: after ∧ Json.Same own key ∧
    ∀ later ∈ after, ¬ Json.Same later.1 key

theorem lastInsertion_concat {history : List Insertion} {insertion : Insertion}
    {key target : Json} :
    LastInsertion (history ++ [insertion]) key target ↔
      if Json.Same insertion.1 key then insertion.2 = target
      else LastInsertion history key target := by
  constructor
  · rintro ⟨before, own, after, split, same, others⟩
    obtain rfl | ⟨after, last, rfl⟩ := after.eq_nil_or_concat'
    · obtain ⟨rfl, only⟩ := List.append_inj' split rfl
      cases only
      rw [if_pos same]
    · have whole : history ++ [insertion] = (before ++ (own, target) :: after) ++ [last] := by
        simpa using split
      obtain ⟨rfl, only⟩ := List.append_inj' whole rfl
      cases only
      have differs := others insertion (List.mem_append_right _ List.mem_cons_self)
      rw [if_neg differs]
      exact ⟨before, own, after, rfl, same, fun later member =>
        others later (List.mem_append_left _ member)⟩
  · intro h
    split at h
    · rename_i same
      exact ⟨history, insertion.1, [], by rw [← h], same, nofun⟩
    · rename_i differs
      obtain ⟨before, own, after, rfl, same, others⟩ := h
      refine ⟨before, own, after ++ [insertion], by simp, same, ?_⟩
      exact List.forall_mem_append.2 ⟨others, List.forall_mem_singleton.2 differs⟩

theorem get?_ofPairs (history : List Insertion) (key target : Json) :
    (ofPairs history).get? key = some target ↔ LastInsertion history key target := by
  induction history using List.reverseRecOn with
  | nil =>
    constructor
    · intro h
      cases h
    · rintro ⟨before, own, after, split, _⟩
      simp at split
  | append_singleton history insertion ih =>
    rw [ofPairs_concat, get?_insert, lastInsertion_concat, ← ih]
    split <;> simp

theorem get?_ofPairs_eq_none (history : List Insertion) (key : Json) :
    (ofPairs history).get? key = none ↔
      ∀ insertion ∈ history, ¬ Json.Same insertion.1 key := by
  induction history using List.reverseRecOn with
  | nil => exact ⟨fun _ => nofun, fun _ => rfl⟩
  | append_singleton history insertion ih =>
    rw [ofPairs_concat, get?_insert, List.forall_mem_append, List.forall_mem_singleton, ← ih]
    by_cases same : Json.Same insertion.1 key
    · simp [same]
    · simp [same]

/-- **Tables remember last insertions.** Equality of values is an equivalence, and on values without
repeated keys, as all values are that are read from texts, it is equality part by part. However a
table is built, its keys are those of the insertions, in their order and without those that are the
same as an earlier one; so its size is the number of different keys. A value that was inserted is
answered with the target it was given last, `null` included, any other value with the last target of
`null`, if there is one, and with `null` otherwise. An object and the list of its members as pairs
are read as one table. -/
theorem tables_remember_last_insertions :
    (Equivalence Json.Same ∧
      (∀ a b : Json, a.WellFormed → b.WellFormed → (Json.Same a b ↔ a.equals b = true)) ∧
      ∀ text value, Json.parse? text = some value → value.WellFormed) ∧
    (∀ table history, Built table history →
      table.keys.Sublist (history.map Prod.fst) ∧ Represents table.keys history ∧
      (∀ keys, Represents keys history → table.size = keys.length) ∧
      ∀ value,
        (∀ target, LastInsertion history value target → table.lookup value = target) ∧
        ((∀ insertion ∈ history, ¬ Json.Same insertion.1 value) →
          (∀ target, LastInsertion history .null target → table.lookup value = target) ∧
          ((∀ insertion ∈ history, insertion.1 ≠ .null) → table.lookup value = .null))) ∧
    ∀ members : List (String × Json), ∃ table, ofJson? (.object members) = some table ∧
      ofJson? (.array (members.map fun member => .array [.string member.1, member.2])) =
        some table := by
  have parts (a b : Json) (first : a.WellFormed) (second : b.WellFormed) :
      Json.Same a b ↔ a.equals b = true :=
    (Json.equals_iff first second).symm
  refine ⟨⟨Json.same_equivalence, parts, fun _ _ => Json.wellFormed_of_parse?⟩, ?_, ?_⟩
  · intro table history built
    obtain rfl := built_iff.1 built
    have represented := represents_keys history
    refine ⟨sublist_keys history, represented, ?_, ?_⟩
    · intro keys other
      rw [size_eq, represented.length_eq other]
    intro value
    refine ⟨?_, fun unknown => ⟨?_, ?_⟩⟩
    · intro target last
      rw [lookup, (get?_ofPairs history value target).2 last]
      rfl
    · intro target last
      rw [lookup, (get?_ofPairs_eq_none history value).2 unknown,
        (get?_ofPairs history .null target).2 last]
      rfl
    · intro without
      have nothing : ∀ insertion ∈ history, ¬ Json.Same insertion.1 .null :=
        fun insertion member same => without insertion member (Json.same_null_iff.1 same)
      rw [lookup, (get?_ofPairs_eq_none history value).2 unknown,
        (get?_ofPairs_eq_none history .null).2 nothing]
      rfl
  · intro members
    have pairs := ofJson?_pairs (members.map fun member => (.string member.1, member.2))
    rw [List.map_map] at pairs
    exact ⟨_, ofJson?_object members, pairs⟩

def sizes : Json := .object [("a", .ofInt 1), ("b", .ofInt 2)]

/-- The same members in the other order. -/
def sizesBack : Json := .object [("b", .ofInt 2), ("a", .ofInt 1)]

/-- The double `1.0`. -/
def oneDouble : Json := .number (.double ⟨false, Double.one, by decide +kernel⟩)

/-- An object inserted once more with its members in another order takes `null` for its target, and
`1.0` is another key than `1`. -/
theorem sizes_remembered :
    let table :=
      (((empty.insert sizes (.string "two")).insert (.ofInt 1) (.string "one")).withFallback
        (.string "other")).insert sizesBack .null
    let history : List Insertion :=
      [(sizes, .string "two"), (.ofInt 1, .string "one"), (.null, .string "other"),
        (sizesBack, .null)]
    let plain := empty.insert (.ofInt 1) (.string "one")
    Json.parse? "\x7b\"a\": 1, \"b\": 2\x7d" = some sizes ∧
      Json.parse? "\x7b\"b\": 2, \"a\": 1\x7d" = some sizesBack ∧
      sizes.WellFormed ∧ sizesBack.WellFormed ∧ Json.Same sizes sizesBack ∧
      Built table history ∧ Represents [sizesBack, .ofInt 1, .null] history ∧ table.size = 3 ∧
      LastInsertion history sizes .null ∧ table.lookup sizes = .null ∧
      (∀ insertion ∈ history, ¬ Json.Same insertion.1 oneDouble) ∧
      LastInsertion history .null (.string "other") ∧ table.lookup oneDouble = .string "other" ∧
      Built plain [(.ofInt 1, .string "one")] ∧ plain.lookup oneDouble = .null := by
  intro table history plain
  obtain ⟨⟨_, equality, read⟩, answers, _⟩ := tables_remember_last_insertions
  have text : Json.parse? "\x7b\"a\": 1, \"b\": 2\x7d" = some sizes := by decide +kernel
  have textBack : Json.parse? "\x7b\"b\": 2, \"a\": 1\x7d" = some sizesBack := by decide +kernel
  have first : sizes.WellFormed := read _ _ text
  have second : sizesBack.WellFormed := read _ _ textBack
  have same : Json.Same sizes sizesBack := (equality _ _ first second).2 (by decide +kernel)
  have built : Built table history :=
    (((Built.empty.insert _ _).insert _ _).withFallback _).insert _ _
  have keys : Represents [sizesBack, .ofInt 1, .null] history :=
    ⟨by decide +kernel, by decide +kernel, by decide +kernel⟩
  have twice : LastInsertion history sizes .null :=
    ⟨history.take 3, sizesBack, [], rfl, same.symm, nofun⟩
  have unknown : ∀ insertion ∈ history, ¬ Json.Same insertion.1 oneDouble := by decide +kernel
  have other : LastInsertion history .null (.string "other") :=
    ⟨history.take 2, .null, history.drop 3, rfl, .refl _, by decide +kernel⟩
  have alone : Built plain [(.ofInt 1, .string "one")] := Built.empty.insert _ _
  have differs : ∀ insertion ∈ [((.ofInt 1, .string "one") : Insertion)],
      ¬ Json.Same insertion.1 oneDouble := by
    decide +kernel
  obtain ⟨_, _, size, lookups⟩ := answers table history built
  obtain ⟨_, _, _, more⟩ := answers plain _ alone
  exact ⟨text, textBack, first, second, same, built, keys, size _ keys, twice,
    (lookups sizes).1 _ twice, unknown, other, ((lookups oneDouble).2 unknown).1 _ other, alone,
    ((more oneDouble).2 differs).2 (by decide +kernel)⟩

end ValueMap

end Reshape
