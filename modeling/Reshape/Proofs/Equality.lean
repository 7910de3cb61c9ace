import Mathlib.Data.List.Nodup
import Mathlib.Data.List.Perm.Subperm
import Mathlib.Data.String.Basic
import Reshape.Json.Equality

/-!
# Equality member by member

Equality by sorted forms is equality by comparing values part by part:

* `WellFormed` values have distinct keys in every object;
* `equals` compares items in their order and members by their keys, in any order; integers and
  doubles are compared by value, each with its own kind only;
* `canonicalMembers_eq_iff`: of objects with distinct keys the sorted members are the same if each
  holds the members of the other;
* `equals_iff` says that both ways to compare well-formed values agree.
-/

namespace Reshape

/-- Whether both numbers are integers or both doubles, and of the same value. -/
def Number.equals : Number → Number → Bool
  | .integer a, .integer b => a == b
  | .double a, .double b => a.signedUnits == b.signedUnits
  | _, _ => false

theorem Double.signedUnits_eq_iff {c d : Double} :
    c.signedUnits = d.signedUnits ↔
      c.units = d.units ∧ (c.units = 0 ∨ c.negative = d.negative) := by
  unfold signedUnits
  cases c.negative <;> cases d.negative <;> simp <;> omega

theorem Double.eq_iff {c d : Double} : c = d ↔ c.units = d.units ∧ c.negative = d.negative := by
  obtain ⟨negative, units, _⟩ := c
  obtain ⟨other, others, _⟩ := d
  simp [and_comm]

/-- The sign of a zero double is left out of the comparison. -/
theorem Number.canonical_eq_iff {a b : Number} : a.canonical = b.canonical ↔ a.equals b = true := by
  match a, b with
  | .integer a, .integer b => simp [canonical, equals]
  | .double c, .double d =>
    simp only [canonical, equals, beq_iff_eq, Double.signedUnits_eq_iff]
    by_cases nothing : c.units = 0
    · by_cases also : d.units = 0
      · simp [nothing, also]
      · have zero : Double.zero false ≠ d := fun same => also (same ▸ rfl)
        simp [nothing, also, zero, Ne.symm also]
    · by_cases also : d.units = 0
      · have zero : c ≠ Double.zero false := fun same => nothing (same ▸ rfl)
        simp [nothing, also, zero]
      · simp [nothing, also, Double.eq_iff]
  | .integer _, .double d =>
    simp only [canonical, equals]
    split <;> simp
  | .double c, .integer _ =>
    simp only [canonical, equals]
    split <;> simp

namespace Json

/-- Every object in the value holds each of its keys once. -/
inductive WellFormed : Json → Prop where
  | null : WellFormed null
  | bool (value : Bool) : WellFormed (bool value)
  | number (value : Number) : WellFormed (number value)
  | string (value : String) : WellFormed (string value)
  | array {items : List Json} (each : ∀ item ∈ items, WellFormed item) : WellFormed (array items)
  | object {members : List (String × Json)} (distinct : Keyed.Distinct members)
      (each : ∀ member ∈ members, WellFormed member.2) : WellFormed (object members)

mutual

/-- Whether two values are equal, part by part. -/
def equals : Json → Json → Bool
  | null, null => true
  | bool a, bool b => a == b
  | number a, number b => a.equals b
  | string a, string b => a == b
  | array as, array bs => equalItems as bs
  | object as, object bs => as.length == bs.length && equalMembers as bs
  | _, _ => false

def equalItems : List Json → List Json → Bool
  | [], [] => true
  | a :: as, b :: bs => a.equals b && equalItems as bs
  | _, _ => false

/-- Whether `others` hold an equal value under the key of each member. -/
def equalMembers : List (String × Json) → Keyed Json → Bool
  | [], _ => true
  | (key, a) :: rest, others => (others.get? key).any a.equals && equalMembers rest others

end

/-! ## Sorted members -/

theorem perm_placeMember (key : String) (value : Json) (members : List (String × Json)) :
    (placeMember key value members).Perm ((key, value) :: members) := by
  induction members with
  | nil => exact .refl _
  | cons member rest ih =>
    unfold placeMember
    split
    · exact .refl _
    · exact (ih.cons member).trans (.swap ..)

theorem perm_canonicalMembers (members : List (String × Json)) :
    (canonicalMembers members).Perm
      (members.map fun member => (member.1, member.2.canonical)) := by
  induction members with
  | nil => exact .refl _
  | cons member rest ih =>
    rw [canonicalMembers, List.map_cons]
    exact (perm_placeMember _ _ _).trans (ih.cons _)

theorem pairwise_placeMember (key : String) (value : Json) {members : List (String × Json)}
    (sorted : members.Pairwise fun a b => a.1 ≤ b.1) :
    (placeMember key value members).Pairwise fun a b => a.1 ≤ b.1 := by
  induction members with
  | nil => exact List.pairwise_singleton _ _
  | cons member rest ih =>
    obtain ⟨first, others⟩ := List.pairwise_cons.1 sorted
    unfold placeMember
    split
    · rename_i before
      refine List.pairwise_cons.2 ⟨?_, sorted⟩
      intro other present
      obtain rfl | later := List.mem_cons.1 present
      · exact le_of_lt before
      · exact le_trans (le_of_lt before) (first other later)
    · rename_i behind
      refine List.pairwise_cons.2 ⟨?_, ih others⟩
      intro other present
      obtain rfl | later := List.mem_cons.1 ((perm_placeMember _ _ _).mem_iff.1 present)
      · exact le_of_not_gt behind
      · exact first other later

theorem pairwise_canonicalMembers (members : List (String × Json)) :
    (canonicalMembers members).Pairwise fun a b => a.1 ≤ b.1 := by
  induction members with
  | nil => exact .nil
  | cons member rest ih => exact pairwise_placeMember _ _ ih

/-- A member as it stands in sorted form. -/
def canonicalMember (member : String × Json) : String × Json := (member.1, member.2.canonical)

theorem distinct_canonicalMembers {members : List (String × Json)}
    (distinct : Keyed.Distinct members) : Keyed.Distinct (canonicalMembers members) := by
  have keys : Keyed.keys (members.map canonicalMember) = Keyed.keys members := by
    rw [Keyed.keys, Keyed.keys, List.map_map]
    rfl
  have same : (Keyed.keys (canonicalMembers members)).Perm (Keyed.keys members) :=
    keys ▸ (perm_canonicalMembers members).map Prod.fst
  exact same.nodup_iff.2 distinct

/-- Of distinct keys, sorted members are the same if each of the ones is among the others. -/
theorem canonicalMembers_eq_iff {as bs : List (String × Json)} (first : Keyed.Distinct as)
    (second : Keyed.Distinct bs) :
    canonicalMembers as = canonicalMembers bs ↔
      as.length = bs.length ∧
        ∀ member ∈ as, ∃ b, Keyed.get? bs member.1 = some b ∧ Same member.2 b := by
  have before := perm_canonicalMembers as
  have after := perm_canonicalMembers bs
  constructor
  · intro same
    have exchanged : (as.map canonicalMember).Perm (bs.map canonicalMember) :=
      before.symm.trans (same ▸ after)
    refine ⟨by simpa using exchanged.length_eq, ?_⟩
    intro member present
    have moved := exchanged.mem_iff.1 (List.mem_map_of_mem present)
    obtain ⟨⟨key, b⟩, there, equal⟩ := List.mem_map.1 moved
    obtain ⟨rfl, equal⟩ := Prod.ext_iff.1 equal
    exact ⟨b, Keyed.get?_of_mem second there, equal.symm⟩
  · rintro ⟨length, each⟩
    have inside : as.map canonicalMember ⊆ bs.map canonicalMember := by
      intro entry present
      obtain ⟨member, there, rfl⟩ := List.mem_map.1 present
      obtain ⟨b, found, same⟩ := each member there
      exact List.mem_map.2 ⟨_, Keyed.mem_of_get? found, Prod.ext rfl same.symm⟩
    have sortedKeys := distinct_canonicalMembers first
    have nodup : (as.map canonicalMember).Nodup :=
      before.nodup_iff.1 (List.Nodup.of_map _ sortedKeys)
    have exchanged : (as.map canonicalMember).Perm (bs.map canonicalMember) :=
      (List.subperm_of_subset nodup inside).perm_of_length_le (by simp [length])
    have whole : (canonicalMembers as).Perm (canonicalMembers bs) :=
      before.trans (exchanged.trans after.symm)
    refine whole.eq_of_pairwise ?_ (pairwise_canonicalMembers as) (pairwise_canonicalMembers bs)
    intro a b here there ab ba
    have key : a.1 = b.1 := le_antisymm ab ba
    have value := Keyed.get?_of_mem sortedKeys here
    have other := Keyed.get?_of_mem sortedKeys (whole.mem_iff.2 there)
    rw [key, other] at value
    exact Prod.ext key (Option.some.inj value).symm

/-! ## Values -/

theorem same_equivalence : Equivalence Same := ⟨Same.refl, Same.symm, Same.trans⟩

theorem same_null_iff {value : Json} : Same value null ↔ value = null := by
  cases value <;> simp [Same, canonical]

theorem equalItems_iff {as bs : List Json}
    (each : ∀ a ∈ as, ∀ b ∈ bs, a.equals b = true ↔ Same a b) :
    equalItems as bs = true ↔ canonicalItems as = canonicalItems bs := by
  induction as generalizing bs with
  | nil => cases bs <;> simp [equalItems, canonicalItems]
  | cons a as ih =>
    cases bs with
    | nil => simp [equalItems, canonicalItems]
    | cons b bs =>
      have here := each a List.mem_cons_self b List.mem_cons_self
      have later := ih fun a first b second =>
        each a (List.mem_cons_of_mem _ first) b (List.mem_cons_of_mem _ second)
      rw [equalItems, Bool.and_eq_true, here, later, canonicalItems, canonicalItems]
      exact List.cons_eq_cons.symm

theorem equalMembers_iff {as : List (String × Json)} {bs : Keyed Json} :
    equalMembers as bs = true ↔
      ∀ member ∈ as, ∃ b, bs.get? member.1 = some b ∧ member.2.equals b = true := by
  induction as with
  | nil => simp [equalMembers]
  | cons a as ih =>
    rw [equalMembers, Bool.and_eq_true, ih, List.forall_mem_cons, Option.any_eq_true]

/-- Well-formed values are the same just if they are equal part by part. -/
theorem equals_iff {a b : Json} (first : a.WellFormed) (second : b.WellFormed) :
    a.equals b = true ↔ Same a b := by
  induction first generalizing b with
  | null => cases b <;> simp [equals, Same, canonical]
  | bool value => cases b <;> simp [equals, Same, canonical]
  | number value => cases b <;> simp [equals, Same, canonical, Number.canonical_eq_iff]
  | string value => cases b <;> simp [equals, Same, canonical]
  | @array items _ ih =>
    cases second with
    | @array others each =>
      have items := equalItems_iff fun a here b there => ih a here (each b there)
      simp [equals, Same, canonical, items]
    | _ => simp [equals, Same, canonical]
  | @object members distinct _ ih =>
    cases second with
    | @object others otherDistinct each =>
      simp only [equals, Same, canonical, Bool.and_eq_true, beq_iff_eq, equalMembers_iff,
        object.injEq, canonicalMembers_eq_iff distinct otherDistinct]
      refine and_congr_right fun _ => forall₂_congr fun member present => exists_congr fun b => ?_
      refine and_congr_right fun found => ?_
      exact ih member present (each _ (Keyed.mem_of_get? found))
    | _ => simp [equals, Same, canonical]

end Json

end Reshape
