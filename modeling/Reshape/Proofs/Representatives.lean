import Mathlib.Data.List.Induction
import Reshape.Capability
import Reshape.Proofs.Documents

/-!
# Representatives of equal items

What is left of an array without its repeated items:

* `exists_same_mem_uniq_iff`: the items kept so far answer whether an equal item was met before,
  although most of the items met are forgotten;
* `firstPositions` are the positions that no equal item stands before, and `map_some_uniq` says that
  the items there are those kept;
* `uniq_of_pairwise`: where no two items are equal, all are kept;
* `uniq_keeps_first_of_each` says this of equality part by part.
-/

namespace Reshape.Json

/-! ## One more item -/

/-- A new item is compared with the items kept so far. -/
theorem uniq_concat (items : List Json) (item : Json) :
    uniq (items ++ [item]) =
      if ∃ k ∈ uniq items, Same k item then uniq items else uniq items ++ [item] := by
  rw [uniq, List.foldl_append]
  rfl

theorem sublist_uniq (items : List Json) : (uniq items).Sublist items := by
  induction items using List.reverseRecOn with
  | nil => exact .slnil
  | append_singleton items item ih =>
    rw [uniq_concat]
    split
    · exact ih.trans (List.sublist_append_left _ _)
    · exact ih.append (.refl _)

theorem exists_same_of_mem {items : List Json} {item : Json} (member : item ∈ items) :
    ∃ k ∈ uniq items, Same k item := by
  induction items using List.reverseRecOn with
  | nil => cases member
  | append_singleton items last ih =>
    rw [uniq_concat]
    obtain before | here := List.mem_append.1 member
    · obtain ⟨k, kept, same⟩ := ih before
      split
      · exact ⟨k, kept, same⟩
      · exact ⟨k, List.mem_append_left _ kept, same⟩
    · obtain rfl := List.mem_singleton.1 here
      split
      · assumption
      · exact ⟨item, List.mem_append_right _ List.mem_cons_self, .refl _⟩

/-- An item is equal to one that was kept just if it is equal to one that was met. -/
theorem exists_same_mem_uniq_iff {items : List Json} {item : Json} :
    (∃ k ∈ uniq items, Same k item) ↔ ∃ earlier ∈ items, Same earlier item := by
  constructor
  · rintro ⟨k, kept, same⟩
    exact ⟨k, (sublist_uniq items).subset kept, same⟩
  · rintro ⟨earlier, met, same⟩
    obtain ⟨k, kept, alike⟩ := exists_same_of_mem met
    exact ⟨k, kept, alike.trans same⟩

theorem pairwise_uniq (items : List Json) : (uniq items).Pairwise fun a b => ¬ Same a b := by
  induction items using List.reverseRecOn with
  | nil => exact .nil
  | append_singleton items item ih =>
    rw [uniq_concat]
    split
    · exact ih
    · rename_i fresh
      refine List.pairwise_append.2 ⟨ih, List.pairwise_singleton _ _, ?_⟩
      intro k kept last here
      obtain rfl := List.mem_singleton.1 here
      exact fun same => fresh ⟨k, kept, same⟩

/-- Items of which no two are equal are all kept. -/
theorem uniq_of_pairwise {items : List Json} (unequal : items.Pairwise fun a b => ¬ Same a b) :
    uniq items = items := by
  induction items using List.reverseRecOn with
  | nil => rfl
  | append_singleton items item ih =>
    obtain ⟨others, _, apart⟩ := List.pairwise_append.1 unequal
    have fresh : ¬ ∃ k ∈ uniq items, Same k item := by
      rintro ⟨k, kept, same⟩
      exact apart k ((sublist_uniq items).subset kept) item List.mem_cons_self same
    rw [uniq_concat, if_neg fresh, ih others]

/-! ## Positions -/

/-- Whether an item stands at the position and no equal one before it. -/
def isFirst (items : List Json) (position : Nat) : Bool :=
  items[position]?.any fun item =>
    (items.take position).all fun earlier => !decide (Same earlier item)

theorem isFirst_iff {items : List Json} {position : Nat} {item : Json}
    (here : items[position]? = some item) :
    isFirst items position = true ↔ ∀ earlier ∈ items.take position, ¬ Same earlier item := by
  simp [isFirst, here]

/-- The positions of the items that no equal item stands before. -/
def firstPositions (items : List Json) : List Nat :=
  (List.range items.length).filter (isFirst items)

theorem mem_firstPositions_iff {items : List Json} {position : Nat} {item : Json}
    (here : items[position]? = some item) :
    position ∈ firstPositions items ↔ ∀ earlier ∈ items.take position, ¬ Same earlier item := by
  obtain ⟨inside, _⟩ := List.getElem?_eq_some_iff.1 here
  rw [firstPositions, List.mem_filter, List.mem_range, isFirst_iff here]
  exact and_iff_right inside

theorem pairwise_firstPositions (items : List Json) : (firstPositions items).Pairwise (· < ·) :=
  List.pairwise_lt_range.filter _

/-- What stands behind a position does not matter for it. -/
theorem isFirst_append {items : List Json} {position : Nat} (inside : position < items.length)
    (more : List Json) : isFirst (items ++ more) position = isFirst items position := by
  rw [isFirst, isFirst, List.getElem?_append_left inside, List.take_append_of_le_length inside.le]

theorem firstPositions_concat (items : List Json) (item : Json) :
    firstPositions (items ++ [item]) =
      if ∃ k ∈ uniq items, Same k item then firstPositions items
      else firstPositions items ++ [items.length] := by
  have before : (List.range items.length).filter (isFirst (items ++ [item])) =
      firstPositions items := by
    refine List.filter_congr fun position member => ?_
    exact isFirst_append (List.mem_range.1 member) [item]
  have last : isFirst (items ++ [item]) items.length = true ↔
      ¬ ∃ k ∈ uniq items, Same k item := by
    have here : (items ++ [item])[items.length]? = some item := by simp
    rw [isFirst_iff here, exists_same_mem_uniq_iff, List.take_left]
    simp
  rw [firstPositions, List.length_append, List.length_singleton, List.range_succ,
    List.filter_append, before]
  split
  · rename_i known
    have passed : ¬ isFirst (items ++ [item]) items.length = true := fun first => last.1 first known
    rw [List.filter_cons_of_neg passed, List.filter_nil, List.append_nil]
  · rename_i fresh
    rw [List.filter_cons_of_pos (last.2 fresh), List.filter_nil]

/-- The items at these positions are the items kept. -/
theorem map_some_uniq (items : List Json) :
    (uniq items).map some = (firstPositions items).map fun position => items[position]? := by
  induction items using List.reverseRecOn with
  | nil => rfl
  | append_singleton items item ih =>
    have earlier : (firstPositions items).map (fun position => (items ++ [item])[position]?) =
        (uniq items).map some := by
      rw [ih]
      refine List.map_congr_left fun position member => ?_
      exact List.getElem?_append_left (List.mem_range.1 (List.mem_filter.1 member).1)
    rw [uniq_concat, firstPositions_concat]
    split
    · exact earlier.symm
    · rw [List.map_append, List.map_append, earlier]
      simp

/-! ## Equality part by part -/

theorem equals_eq_false_iff {a b : Json} (first : a.WellFormed) (second : b.WellFormed) :
    a.equals b = false ↔ ¬ Same a b := by
  rw [← equals_iff first second, Bool.not_eq_true]

/-- Of the items, those are kept that no equal item stands before: they keep their order, no two of
them are equal, and each item is equal to one of them. -/
structure FirstOfEach (items kept : List Json) : Prop where
  sublist : kept.Sublist items
  unequal : kept.Pairwise fun a b => a.equals b = false
  first : ∃ positions : List Nat, positions.Pairwise (· < ·) ∧
    kept.map some = positions.map (fun position => items[position]?) ∧
    ∀ position item, items[position]? = some item →
      (position ∈ positions ↔ ∀ earlier ∈ items.take position, earlier.equals item = false)
  complete : ∀ item ∈ items, ∃ k ∈ kept, k.equals item = true

theorem firstOfEach_uniq {items : List Json} (sound : ∀ item ∈ items, item.WellFormed) :
    FirstOfEach items (uniq items) where
  sublist := sublist_uniq items
  unequal := by
    refine (pairwise_uniq items).imp_of_mem ?_
    intro a b here there unequal
    have first := sound a ((sublist_uniq items).subset here)
    have second := sound b ((sublist_uniq items).subset there)
    exact (equals_eq_false_iff first second).2 unequal
  first := by
    refine ⟨firstPositions items, pairwise_firstPositions items, map_some_uniq items, ?_⟩
    intro position item here
    rw [mem_firstPositions_iff here]
    refine forall₂_congr fun earlier member => ?_
    have before := sound earlier (List.mem_of_mem_take member)
    exact (equals_eq_false_iff before (sound item (List.mem_of_getElem? here))).symm
  complete := by
    intro item member
    obtain ⟨k, kept, same⟩ := exists_same_of_mem member
    have sound' := sound k ((sublist_uniq items).subset kept)
    exact ⟨k, kept, (equals_iff sound' (sound item member)).2 same⟩

/-- **The first of equal items is kept.** The operation `uniq` takes an array of values without
repeated keys to the items of it that no equal item stands before: items are equal part by part,
whatever the order of members and the sign of zero, and no integer equals a double. Applied again,
it changes nothing. -/
theorem uniq_keeps_first_of_each {items : List Json} (sound : ∀ item ∈ items, item.WellFormed) :
    (∃ operation, Capabilities.builtin.find? "uniq" (array items) = some operation ∧
      operation (array items) = array (uniq items)) ∧
    FirstOfEach items (uniq items) ∧ uniq (uniq items) = uniq items :=
  ⟨⟨_, rfl, rfl⟩, firstOfEach_uniq sound, uniq_of_pairwise (pairwise_uniq items)⟩

/-- A reading with a zero of either sign. -/
def reading (negative : Bool) : List (String × Json) :=
  [("at", .ofInt 1), ("level", .number (.double (Double.zero negative)))]

/-- The double that JSON writes as `1.0`. -/
def pointedOne : Json := .number (.double ((Double.ofInt? 1).getD (.zero false)))

/-- The third reading is the first one with its members in the other order. -/
def readings : List Json :=
  [.object (reading false), .ofInt 1, .object (reading true).reverse, pointedOne, .ofInt 1]

theorem readings_kept_once :
    (∀ item ∈ readings, item.WellFormed) ∧
      FirstOfEach readings [.object (reading false), .ofInt 1, pointedOne] := by
  have read : parse? ("[\x7b\"at\": 1, \"level\": 0.0\x7d, 1, " ++
      "\x7b\"level\": -0.0, \"at\": 1\x7d, 1.0, 1]") = some (array readings) := by
    decide +kernel
  have sound : ∀ item ∈ readings, item.WellFormed := by
    cases wellFormed_of_parse? read with
    | array each => exact each
  obtain ⟨_, first, _⟩ := uniq_keeps_first_of_each sound
  have kept : uniq readings = [.object (reading false), .ofInt 1, pointedOne] := by
    decide +kernel
  exact ⟨sound, kept ▸ first⟩

end Reshape.Json
