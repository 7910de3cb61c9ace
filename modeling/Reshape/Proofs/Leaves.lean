import Mathlib.Data.List.Basic
import Reshape.Capability
import Reshape.Json.Location

/-!
# Leaves of arrays

What flattening an array finds:

* `LeafAt` says which values are leaves of an array, and by which route of indices each of them is
  reached; objects are leaves themselves and are not entered;
* `routes` lists the leaves with their routes: `mem_routes_iff` says that all of them are there, and
  `pairwise_routes` that they come from left to right;
* `leavesOf_append` and `leavesOf_of_leaves`, from which all the laws of splicing follow;
* `flatten_lists_leaves` puts these together.
-/

namespace Reshape.Json

/-- A value that is no array is reached by a route of indices. -/
def LeafAt (value : Json) (route : List Nat) (leaf : Json) : Prop :=
  value.at? (route.map .index) = some leaf ∧ leaf.kind ≠ .array

/-- A property of all values that arrays hand on from their items. -/
theorem items_induction {P : Json → Prop} (leaf : ∀ value, value.kind ≠ .array → P value)
    (array : ∀ items, (∀ item ∈ items, P item) → P (.array items)) : (value : Json) → P value
  | .array items => array items fun item _ => items_induction leaf array item
  | .null => leaf _ nofun
  | .bool _ => leaf _ nofun
  | .number _ => leaf _ nofun
  | .string _ => leaf _ nofun
  | .object _ => leaf _ nofun

/-! ## Routes -/

mutual

/-- The leaves of a value with the routes to them. -/
def routes : Json → List (List Nat × Json)
  | array items => routesFrom 0 items
  | other => [([], other)]

/-- The leaves of items, the first of which stands at `position`. -/
def routesFrom (position : Nat) : List Json → List (List Nat × Json)
  | [] => []
  | item :: rest =>
    item.routes.map (fun (route, leaf) => (position :: route, leaf)) ++
      routesFrom (position + 1) rest

end

theorem routes_of_leaf {value : Json} (leaf : value.kind ≠ .array) :
    value.routes = [([], value)] := by
  cases value with
  | array items => exact absurd rfl leaf
  | null | bool | number | string | object => rfl

theorem mem_routesFrom_iff {position : Nat} {items : List Json} {route : List Nat} {leaf : Json} :
    (route, leaf) ∈ routesFrom position items ↔
      ∃ i below item, items[i]? = some item ∧ route = (position + i) :: below ∧
        (below, leaf) ∈ item.routes := by
  induction items generalizing position with
  | nil => simp [routesFrom]
  | cons first rest ih =>
    rw [routesFrom, List.mem_append, List.mem_map, ih]
    constructor
    · rintro (⟨⟨below, leaf⟩, here, same⟩ | ⟨i, below, item, found, rfl, there⟩)
      · cases same
        exact ⟨0, below, first, rfl, rfl, here⟩
      · exact ⟨i + 1, below, item, found, by rw [Nat.add_right_comm, Nat.add_assoc], there⟩
    · rintro ⟨i, below, item, found, rfl, there⟩
      cases i with
      | zero =>
        cases found
        exact .inl ⟨(below, leaf), there, rfl⟩
      | succ i =>
        exact .inr ⟨i, below, item, found, by rw [Nat.add_right_comm, Nat.add_assoc], there⟩

theorem leafAt_of_leaf {value : Json} (single : value.kind ≠ .array) {route : List Nat}
    {leaf : Json} : LeafAt value route leaf ↔ route = [] ∧ leaf = value := by
  cases route with
  | nil =>
    simp only [LeafAt, List.map_nil, at?, Option.some.injEq, true_and]
    constructor
    · rintro ⟨rfl, _⟩
      rfl
    · rintro rfl
      exact ⟨rfl, single⟩
  | cons i route =>
    have nothing : value.item? i = none := by
      cases value with
      | array items => exact absurd rfl single
      | null | bool | number | string | object => rfl
    simp [LeafAt, at?, step?, nothing]

theorem leafAt_array_iff {items : List Json} {route : List Nat} {leaf : Json} :
    LeafAt (array items) route leaf ↔
      ∃ i below item, items[i]? = some item ∧ route = i :: below ∧ LeafAt item below leaf := by
  constructor
  · rintro ⟨found, single⟩
    cases route with
    | nil =>
      cases found
      exact absurd rfl single
    | cons i below =>
      obtain ⟨item, here, there⟩ := Option.bind_eq_some_iff.1 found
      exact ⟨i, below, item, here, rfl, there, single⟩
  · rintro ⟨i, below, item, here, rfl, there, single⟩
    exact ⟨Option.bind_eq_some_iff.2 ⟨item, here, there⟩, single⟩

/-- All leaves are listed, each with its route. -/
theorem mem_routes_iff (value : Json) {route : List Nat} {leaf : Json} :
    (route, leaf) ∈ value.routes ↔ LeafAt value route leaf := by
  induction value using items_induction generalizing route with
  | leaf value single =>
    rw [routes_of_leaf single, List.mem_singleton, Prod.mk.injEq, leafAt_of_leaf single]
  | array items ih =>
    rw [routes, mem_routesFrom_iff, leafAt_array_iff]
    simp only [Nat.zero_add]
    refine exists_congr fun i => exists_congr fun below => exists_congr fun item => ?_
    refine and_congr_right fun found => and_congr_right fun _ => ?_
    exact ih item (List.mem_of_getElem? found)

/-- The routes of items come in their order if those of each item do. -/
theorem pairwise_routesFrom {items : List Json} (position : Nat)
    (each : ∀ item ∈ items, item.routes.Pairwise fun before after => before.1 < after.1) :
    (routesFrom position items).Pairwise fun before after => before.1 < after.1 := by
  induction items generalizing position with
  | nil => exact .nil
  | cons item rest ih =>
    obtain ⟨first, others⟩ := List.forall_mem_cons.1 each
    rw [routesFrom, List.pairwise_append]
    refine ⟨.map _ ?_ first, ih _ others, ?_⟩
    · intro before after below
      exact List.cons_lt_cons_iff.2 (.inr ⟨rfl, below⟩)
    · rintro before here ⟨route, leaf⟩ there
      obtain ⟨⟨below, _⟩, _, rfl⟩ := List.mem_map.1 here
      obtain ⟨i, later, _, _, rfl, _⟩ := mem_routesFrom_iff.1 there
      exact List.cons_lt_cons_iff.2 (.inl (by omega))

/-- The leaves come from left to right. -/
theorem pairwise_routes (value : Json) :
    value.routes.Pairwise fun before after => before.1 < after.1 := by
  induction value using items_induction with
  | leaf value single =>
    rw [routes_of_leaf single]
    exact List.pairwise_singleton _ _
  | array items ih => exact pairwise_routesFrom 0 ih

/-! ## Leaves -/

theorem leaves_of_leaf {value : Json} (leaf : value.kind ≠ .array) : value.leaves = [value] := by
  cases value with
  | array items => exact absurd rfl leaf
  | null | bool | number | string | object => rfl

theorem leavesOf_eq_map_routesFrom {items : List Json} (position : Nat)
    (each : ∀ item ∈ items, item.leaves = item.routes.map Prod.snd) :
    leavesOf items = (routesFrom position items).map Prod.snd := by
  induction items generalizing position with
  | nil => rfl
  | cons item rest ih =>
    obtain ⟨first, others⟩ := List.forall_mem_cons.1 each
    rw [leavesOf, routesFrom, first, ih _ others, List.map_append, List.map_map]
    rfl

theorem leaves_eq_map_routes (value : Json) : value.leaves = value.routes.map Prod.snd := by
  induction value using items_induction with
  | leaf value single =>
    rw [leaves_of_leaf single, routes_of_leaf single]
    rfl
  | array items ih => exact leavesOf_eq_map_routesFrom 0 ih

theorem kind_of_mem_leavesOf {items : List Json} {leaf : Json} (member : leaf ∈ leavesOf items) :
    leaf.kind ≠ .array := by
  have listed : leaf ∈ (array items).leaves := member
  rw [leaves_eq_map_routes] at listed
  obtain ⟨⟨route, leaf⟩, there, rfl⟩ := List.mem_map.1 listed
  exact ((mem_routes_iff _).1 there).2

theorem leavesOf_append (before after : List Json) :
    leavesOf (before ++ after) = leavesOf before ++ leavesOf after := by
  induction before with
  | nil => rfl
  | cons item before ih => rw [List.cons_append, leavesOf, leavesOf, ih, List.append_assoc]

/-- Leaves are their own leaves. -/
theorem leavesOf_of_leaves {items : List Json} (single : ∀ item ∈ items, item.kind ≠ .array) :
    leavesOf items = items := by
  induction items with
  | nil => rfl
  | cons item rest ih =>
    obtain ⟨first, others⟩ := List.forall_mem_cons.1 single
    rw [leavesOf, leaves_of_leaf first, ih others]
    rfl

theorem leavesOf_leavesOf (items : List Json) : leavesOf (leavesOf items) = leavesOf items :=
  leavesOf_of_leaves fun _ => kind_of_mem_leavesOf

theorem leavesOf_array_cons (inner after : List Json) :
    leavesOf (array inner :: after) = leavesOf inner ++ leavesOf after := rfl

/-- **Flattening lists the leaves.** The operation `flatten` takes every array to the list of its
leaves: the values that are no arrays and are reached by a route of indices, one for each route and
in the lexical order of the routes. So no array is among them and flattening again changes nothing.
Appended arrays are flattened one after the other, and an item that is an array may be flattened
first, or give way to what it holds or to its leaves. -/
theorem flatten_lists_leaves (items : List Json) :
    (∃ operation, Capabilities.builtin.find? "flatten" (array items) = some operation ∧
      operation (array items) = array (leavesOf items)) ∧
    (∃ located : List (List Nat × Json), leavesOf items = located.map Prod.snd ∧
      (located.Pairwise fun before after => before.1 < after.1) ∧
      ∀ route leaf, (route, leaf) ∈ located ↔ LeafAt (array items) route leaf) ∧
    (∀ leaf ∈ leavesOf items, leaf.kind ≠ .array) ∧
    leavesOf (leavesOf items) = leavesOf items ∧
    (∀ more, leavesOf (items ++ more) = leavesOf items ++ leavesOf more) ∧
    ∀ before inner after, items = before ++ array inner :: after →
      leavesOf (before ++ array (leavesOf inner) :: after) = leavesOf items ∧
      leavesOf (before ++ inner ++ after) = leavesOf items ∧
      leavesOf (before ++ leavesOf inner ++ after) = leavesOf items := by
  refine ⟨⟨_, rfl, rfl⟩, ?_, fun _ => kind_of_mem_leavesOf, leavesOf_leavesOf items,
    leavesOf_append items, ?_⟩
  · exact ⟨(array items).routes, leaves_eq_map_routes (array items), pairwise_routes _,
      fun _ _ => mem_routes_iff _⟩
  · rintro before inner after rfl
    have whole : leavesOf (before ++ array inner :: after) =
        leavesOf before ++ (leavesOf inner ++ leavesOf after) := by
      rw [leavesOf_append, leavesOf_array_cons]
    refine ⟨?_, ?_, ?_⟩
    · rw [whole, leavesOf_append, leavesOf_array_cons, leavesOf_leavesOf]
    · rw [whole, List.append_assoc, leavesOf_append, leavesOf_append]
    · rw [whole, List.append_assoc, leavesOf_append, leavesOf_append, leavesOf_leavesOf]

/-- An object with an array in it is a leaf, and an empty array has none. -/
def shelves : List Json :=
  [.string "a", .array [.array [.null, .object [("b", .array [.string "c"])]], .string "a"],
    .array []]

theorem shelves_flattened :
    let last : Json := .object [("b", .array [.string "c"])]
    leavesOf shelves = [.string "a", .null, last, .string "a"] ∧
      last ∈ leavesOf shelves ∧ last.kind ≠ .array ∧ LeafAt (array shelves) [1, 0, 1] last ∧
      shelves = shelves.take 1 ++ array [.array [.null, last], .string "a"] :: [.array []] ∧
      leavesOf (shelves.take 1 ++ [.array [.null, last], .string "a"] ++ [.array []]) =
        leavesOf shelves := by
  intro last
  obtain ⟨_, _, single, _, _, splice⟩ := flatten_lists_leaves shelves
  have member : last ∈ leavesOf shelves := by decide +kernel
  have reached : LeafAt (array shelves) [1, 0, 1] last := ⟨rfl, by decide⟩
  exact ⟨by decide +kernel, member, single last member, reached, rfl,
    (splice (shelves.take 1) _ [.array []] rfl).2.1⟩

end Reshape.Json
