import Mathlib.Data.List.Forall2
import Reshape.Proofs.Path.Agreement

/-!
# Where a simple path leads

A simple path stands for locations: those with one step for each of its segments, where a `[*]` leaves
the index open. A document has some of them.

* `SimplePath.Leads` says which locations a path stands for;
* `Segment.walk` lists the steps that a segment takes into a value, and `SimplePath.places` the nodes
  that a whole path leads to, each with its location;
* `mem_places_iff`: these are the nodes of the document at the locations that the path stands for;
* `pairwise_places`: they come in the order of their indices;
* `select_eq_places` and `select_append`: the path finds their values, part after part;
* `selects_denoted` puts these together.
-/

namespace Reshape

/-- The index that a step takes, if it takes one. -/
def Step.index? : Step → Option Nat
  | .key _ => none
  | .index position => some position

/-- The indices on the way to a location, in order. -/
def Location.indices (location : Location) : List Nat := location.filterMap Step.index?

namespace SimplePath

/-! ## One segment -/

/-- A segment stands for a step: for one, or for any index. -/
inductive Segment.Takes : Segment → Step → Prop where
  | key (name : String) : Takes (.key name) (.key name)
  | index (position : Nat) : Takes (.index position) (.index position)
  | every (position : Nat) : Takes .every (.index position)

/-- The steps that a segment takes into a value, with what they lead to. -/
def Segment.walk (segment : Segment) (value : Json) : List (Step × Json) :=
  (segment.reach value).filter fun taken => !segment.takesMember taken.1

theorem Segment.select_eq_walk (segment : Segment) (value : Json) :
    segment.select value = (segment.walk value).map Prod.snd :=
  select_eq_filter_reach segment value

/-- A `[*]` takes the items of arrays, each by its index, and nothing else. -/
theorem Segment.mem_walk_every_iff {value : Json} {step : Step} {inner : Json} :
    (step, inner) ∈ Segment.every.walk value ↔
      ∃ position, step = .index position ∧ value.item? position = some inner := by
  unfold walk
  cases value with
  | array items =>
    simp only [reach, List.mem_filter, List.mem_map, Prod.exists, Json.item?]
    constructor
    · rintro ⟨⟨item, position, member, same⟩, _⟩
      cases same
      exact ⟨position, rfl, (List.mk_mem_zipIdx_iff_getElem?).1 member⟩
    · rintro ⟨position, rfl, found⟩
      exact ⟨⟨inner, position, List.mk_mem_zipIdx_iff_getElem?.2 found, rfl⟩, rfl⟩
  | object members =>
    simp only [reach, List.mem_filter, List.mem_map, Prod.exists, Json.item?]
    constructor
    · rintro ⟨⟨name, value, _, same⟩, kept⟩
      cases same
      cases kept
    · rintro ⟨_, _, found⟩
      cases found
  | null | bool | number | string =>
    simp [reach, Json.item?]

/-- A step into a value that leads to one value at most. -/
theorem mem_single_iff {taken step : Step} {found : Option Json} {inner : Json} :
    (step, inner) ∈ found.toList.map (Prod.mk taken) ↔ step = taken ∧ found = some inner := by
  rw [List.mem_map]
  constructor
  · rintro ⟨value, member, same⟩
    cases same
    exact ⟨rfl, Option.mem_toList.1 member⟩
  · rintro ⟨rfl, rfl⟩
    exact ⟨inner, Option.mem_toList.2 rfl, rfl⟩

/-- The steps taken are those that the segment stands for and the value has. -/
theorem Segment.mem_walk_iff {segment : Segment} {value : Json} {step : Step} {inner : Json} :
    (step, inner) ∈ segment.walk value ↔ segment.Takes step ∧ value.step? step = some inner := by
  cases segment with
  | key name =>
    rw [walk, reach, List.mem_filter, mem_single_iff]
    constructor
    · rintro ⟨⟨rfl, found⟩, _⟩
      exact ⟨.key name, found⟩
    · rintro ⟨⟨⟩, found⟩
      exact ⟨⟨rfl, found⟩, rfl⟩
  | index position =>
    rw [walk, reach, List.mem_filter, mem_single_iff]
    constructor
    · rintro ⟨⟨rfl, found⟩, _⟩
      exact ⟨.index position, found⟩
    · rintro ⟨⟨⟩, found⟩
      exact ⟨⟨rfl, found⟩, rfl⟩
  | every =>
    rw [mem_walk_every_iff]
    constructor
    · rintro ⟨position, rfl, found⟩
      exact ⟨.every position, found⟩
    · rintro ⟨⟨⟩, found⟩
      exact ⟨_, rfl, found⟩

theorem pairwise_option {α : Type} {R : α → α → Prop} (content : Option α) :
    content.toList.Pairwise R := by
  cases content with
  | none => exact .nil
  | some a => exact List.pairwise_singleton R a

/-- No segment takes two steps without an index, nor the same index twice. -/
theorem Segment.pairwise_walk (segment : Segment) (value : Json) :
    (segment.walk value).Pairwise fun before after =>
      ∃ first second, before.1 = .index first ∧ after.1 = .index second ∧ first < second := by
  cases segment with
  | key name => exact .filter _ (.map _ (fun _ _ h => h) (pairwise_option _))
  | index position => exact .filter _ (.map _ (fun _ _ h => h) (pairwise_option _))
  | every =>
    cases value with
    | array items =>
      have positions : (items.zipIdx.map Prod.snd).Pairwise (· < ·) := by
        rw [List.zipIdx_map_snd]
        exact List.pairwise_lt_range'
      refine .filter _ (.map _ ?_ (List.pairwise_map.1 positions))
      rintro ⟨before, first⟩ ⟨after, second⟩ below
      exact ⟨first, second, rfl, rfl, below⟩
    | object members =>
      -- A query would take the members here, in no order of indices.
      have nothing : Segment.every.walk (.object members) = [] := by
        refine List.eq_nil_iff_forall_not_mem.2 ?_
        rintro ⟨step, inner⟩ taken
        obtain ⟨_, _, found⟩ := mem_walk_every_iff.1 taken
        cases found
      rw [nothing]
      exact .nil
    | null | bool | number | string => exact .nil

/-! ## Whole paths -/

/-- The path stands for the location: each step is one that its segment stands for. -/
abbrev Leads (path : SimplePath) (location : Location) : Prop :=
  List.Forall₂ Segment.Takes path location

/-- The nodes that a path leads to from a value, with their locations inside the value. -/
def places : SimplePath → Json → List Node
  | [], value => [.root value]
  | segment :: rest, value =>
    (segment.walk value).flatMap fun (step, inner) =>
      (places rest inner).map fun node => ⟨step :: node.location, node.value⟩

theorem mem_places_iff {path : SimplePath} {document : Json} {node : Node} :
    node ∈ path.places document ↔
      path.Leads node.location ∧ document.at? node.location = some node.value := by
  induction path generalizing document node with
  | nil =>
    obtain ⟨location, found⟩ := node
    simp only [places, List.mem_singleton, Leads, List.forall₂_nil_left_iff]
    constructor
    · rintro ⟨⟩
      exact ⟨rfl, rfl⟩
    · rintro ⟨rfl, here⟩
      cases here
      rfl
  | cons segment rest ih =>
    simp only [places, List.mem_flatMap, List.mem_map, Prod.exists]
    constructor
    · rintro ⟨step, inner, taken, below, member, rfl⟩
      obtain ⟨takes, entered⟩ := Segment.mem_walk_iff.1 taken
      obtain ⟨leads, there⟩ := ih.1 member
      refine ⟨.cons takes leads, ?_⟩
      rw [Json.at?, entered]
      exact there
    · obtain ⟨location, found⟩ := node
      rintro ⟨leads, there⟩
      cases leads with
      | @cons _ step _ below takes leads =>
        obtain ⟨inner, entered, there⟩ := Option.bind_eq_some_iff.1 there
        exact ⟨step, inner, Segment.mem_walk_iff.2 ⟨takes, entered⟩, ⟨below, found⟩,
          ih.2 ⟨leads, there⟩, rfl⟩

theorem pairwise_places (path : SimplePath) (document : Json) :
    (path.places document).Pairwise fun before after =>
      before.location.indices < after.location.indices := by
  induction path generalizing document with
  | nil => exact List.pairwise_singleton _ _
  | cons segment rest ih =>
    rw [places, List.pairwise_flatMap]
    constructor
    · rintro ⟨step, inner⟩ _
      refine .map _ ?_ (ih inner)
      intro before after below
      cases step with
      | key name => exact below
      | index position => exact List.cons_lt_cons_iff.2 (.inr ⟨rfl, below⟩)
    · refine (segment.pairwise_walk document).imp ?_
      rintro ⟨_, before⟩ ⟨_, after⟩ ⟨first, second, rfl, rfl, below⟩ node there other later
      obtain ⟨node, _, rfl⟩ := List.mem_map.1 there
      obtain ⟨other, _, rfl⟩ := List.mem_map.1 later
      exact List.cons_lt_cons_iff.2 (.inl below)

/-- Following a path from several values is following it from each in turn. -/
theorem follow_eq_flatMap (path : SimplePath) (found : List Json) :
    follow path found = found.flatMap path.select := by
  induction path generalizing found with
  | nil => exact (List.flatMap_singleton' found).symm
  | cons segment rest ih =>
    have each (value : Json) :
        (segment.select value).flatMap (select rest) = select (segment :: rest) value := by
      rw [select, follow_cons, List.flatMap_singleton, ih]
    rw [follow_cons, ih, List.flatMap_assoc]
    exact congrArg found.flatMap (funext each)

theorem select_cons (segment : Segment) (rest : SimplePath) (document : Json) :
    select (segment :: rest) document = (segment.select document).flatMap rest.select := by
  rw [select, follow_cons, List.flatMap_singleton, follow_eq_flatMap]

/-- A path finds what its second part finds from each value that the first part finds. -/
theorem select_append (first second : SimplePath) (document : Json) :
    (first ++ second).select document = (first.select document).flatMap second.select := by
  induction first generalizing document with
  | nil => exact (List.flatMap_singleton second.select document).symm
  | cons segment rest ih =>
    rw [List.cons_append, select_cons, select_cons, List.flatMap_assoc]
    exact congrArg (segment.select document).flatMap (funext ih)

theorem select_eq_places (path : SimplePath) (document : Json) :
    path.select document = (path.places document).map Node.value := by
  induction path generalizing document with
  | nil => rfl
  | cons segment rest ih =>
    rw [select_cons, Segment.select_eq_walk, List.flatMap_map, places, List.map_flatMap]
    refine congrArg (segment.walk document).flatMap (funext fun taken => ?_)
    rw [ih, List.map_map]
    rfl

/-- **A simple path finds what it stands for.** What it finds in a document are the values at the
locations that it stands for and that the document has: at each of them once, in the lexicographic
order of their indices, and explicit nulls like any other value. A path in two parts finds what the
second finds from each value that the first finds, in order, if that finds any or none. -/
theorem selects_denoted (path : SimplePath) (document : Json) :
    (∃ locations : List Location,
      (path.select document).map some = locations.map document.at? ∧
      (∀ location, location ∈ locations ↔
        path.Leads location ∧ (document.at? location).isSome) ∧
      locations.Nodup ∧
      locations.Pairwise fun before after => before.indices < after.indices) ∧
    ∀ rest : SimplePath,
      (path ++ rest).select document = (path.select document).flatMap rest.select := by
  have ordered : ((path.places document).map Node.location).Pairwise
      fun before after => before.indices < after.indices :=
    List.pairwise_map.2 (pairwise_places path document)
  refine ⟨⟨(path.places document).map Node.location, ?_, ?_, ?_, ordered⟩,
    fun rest => select_append path rest document⟩
  · rw [select_eq_places, List.map_map, List.map_map]
    refine List.map_congr_left fun node member => ?_
    exact (mem_places_iff.1 member).2.symm
  · intro location
    rw [List.mem_map]
    constructor
    · rintro ⟨node, member, rfl⟩
      obtain ⟨leads, there⟩ := mem_places_iff.1 member
      exact ⟨leads, Option.isSome_of_eq_some there⟩
    · rintro ⟨leads, there⟩
      obtain ⟨value, there⟩ := Option.isSome_iff_exists.1 there
      exact ⟨⟨location, value⟩, mem_places_iff.2 ⟨leads, there⟩, rfl⟩
  · refine ordered.imp ?_
    rintro before after below rfl
    exact List.lt_irrefl _ below

end SimplePath

end Reshape
