import Mathlib.Data.Rat.Floor
import Mathlib.Tactic.FieldSimp
import Mathlib.Tactic.Linarith
import Mathlib.Tactic.Ring
import Reshape.Capability
import Reshape.Proofs.Equality
import Reshape.Proofs.Rounding

/-!
# Whole numbers out of numbers

The operations that round, against the rationals that numbers stand for:

* `Double.value`, `Number.value`: a double is its signed units, of which `Double.one` make one;
* `Direction.whole`: what a rational is rounded to in each of four directions;
* `Direction.whole_value`: the arithmetic on units rounds in the same direction;
* `Direction.value_of_not_signed`: what is rounded to no signed word is whole already, because the
  doubles out there are multiples of one;
* `rounded_exactly_but_past_signed`: rounding is exact with one exception, the double `2 ^ 63`, for
  which the greatest signed integer stands in.
-/

namespace Reshape

/-! ## Values -/

/-- The rational that a double stands for. -/
def Double.value (d : Double) : ℚ := d.signedUnits / one

/-- The rational that a number stands for. -/
def Number.value : Number → ℚ
  | .integer n => n
  | .double d => d.value

namespace Double

theorem one_pos : 0 < one := by decide +kernel

theorem one_pos_rat : (0 : ℚ) < one := Nat.cast_pos.2 one_pos

theorem exists_one_eq : ∃ places, one = 2 ^ places := by
  refine ⟨1074, ?_⟩
  rw [one]
  generalize 1074 = places
  exact Nat.one_shiftLeft places

theorem value_neg_iff {d : Double} : d.value < 0 ↔ d.signedUnits < 0 := by
  rw [value, div_lt_iff₀ one_pos_rat, zero_mul, Int.cast_lt_zero]

theorem value_eq_intCast_iff {d : Double} {k : ℤ} : d.value = k ↔ d.signedUnits = k * one := by
  rw [value, div_eq_iff one_pos_rat.ne']
  exact_mod_cast Iff.rfl

theorem natAbs_signedUnits (d : Double) : d.signedUnits.natAbs = d.units := by
  unfold signedUnits
  split
  · rw [Int.natAbs_neg, Int.natAbs_natCast]
  · rw [Int.natAbs_natCast]

theorem value_add_half (d : Double) :
    d.value + 1 / 2 = (2 * d.signedUnits + one : ℤ) / (2 * one : ℕ) := by
  have nonzero := one_pos_rat.ne'
  rw [value]
  push_cast
  field_simp

theorem value_sub_half (d : Double) :
    d.value - 1 / 2 = (2 * d.signedUnits - one : ℤ) / (2 * one : ℕ) := by
  have nonzero := one_pos_rat.ne'
  rw [value]
  push_cast
  field_simp

/-- Half a unit is added to or taken from a number by its sign; both zeros are rounded to zero. -/
theorem round_eq (d : Double) :
    d.round =
      if d.signedUnits < 0 then -(-(2 * d.signedUnits - one) / (2 * one : ℕ))
      else (2 * d.signedUnits + one) / (2 * one : ℕ) := by
  have positive := one_pos
  unfold round signedUnits
  push_cast
  cases d.negative
  · have nonnegative : ¬ (d.units : ℤ) < 0 := by omega
    simp only [Bool.false_eq_true, if_false, nonnegative]
  by_cases none : d.units = 0
  · have half : (2 * 0 + one : ℤ) / (2 * one) = 0 :=
      Int.ediv_eq_zero_of_lt (by omega) (by omega)
    simp only [none, Int.natCast_zero, Int.neg_zero, if_true, Int.lt_irrefl, if_false, half]
  · have negative : -(d.units : ℤ) < 0 := by omega
    have turned : -(2 * -(d.units : ℤ) - one) = 2 * d.units + one := by ring
    simp only [if_true, negative, turned]

/-- From `2 ^ 52` on, neighbouring doubles are a multiple of one apart. -/
theorem one_dvd_gap {units : Nat} (large : 2 ^ 52 * one ≤ units) : one ∣ gap units := by
  obtain ⟨places, unit⟩ := exists_one_eq
  have nonzero : units ≠ 0 := by
    have positive := one_pos
    omega
  rw [unit, ← Nat.pow_add] at large
  have log := (Nat.le_log2 nonzero).2 large
  rw [unit, gap, Nat.one_shiftLeft]
  apply Nat.pow_dvd_pow
  omega

/-- From `2 ^ 52` on, doubles are whole. -/
theorem exists_value_eq_of_large {d : Double} (large : 2 ^ 52 * one ≤ d.units) :
    ∃ k : ℤ, d.value = k := by
  have multiple : one ∣ d.units := (one_dvd_gap large).trans d.representable.2
  rw [← natAbs_signedUnits] at multiple
  obtain ⟨k, whole⟩ := Int.natCast_dvd.2 multiple
  exact ⟨k, value_eq_intCast_iff.2 (whole.trans (Int.mul_comm _ _))⟩

theorem large_of_le_abs_value {d : Double} (large : 2 ^ 52 ≤ |d.value|) :
    2 ^ 52 * one ≤ d.units := by
  rw [value, abs_div, abs_of_pos one_pos_rat, le_div_iff₀ one_pos_rat, ← Int.cast_abs,
    Int.abs_eq_natAbs, natAbs_signedUnits] at large
  exact_mod_cast large

/-- The double `2 ^ 63`, the first whole number past the signed words. -/
def pastSigned : Double := ⟨false, 0x8000000000000000 * one, by decide +kernel⟩

theorem value_pastSigned : pastSigned.value = (0x8000000000000000 : ℤ) :=
  value_eq_intCast_iff.2 (by decide +kernel)

theorem eq_pastSigned_iff {d : Double} :
    d = pastSigned ↔ d.value = (0x8000000000000000 : ℤ) := by
  constructor
  · rintro rfl
    exact value_pastSigned
  · intro value
    have units : d.signedUnits = pastSigned.signedUnits :=
      (value_eq_intCast_iff.1 value).trans (value_eq_intCast_iff.1 value_pastSigned).symm
    obtain ⟨units, zero | sign⟩ := signedUnits_eq_iff.1 units
    · have nonzero : pastSigned.units ≠ 0 := by decide +kernel
      exact absurd (units ▸ zero) nonzero
    · exact eq_iff.2 ⟨units, sign⟩

end Double

/-! ## Directions -/

/-- Where a number that is not whole goes. -/
inductive Direction where
  | towardZero
  | down
  | up
  /-- To the nearest whole number, and from halfway between two to the one further from zero. -/
  | nearest

namespace Direction

/-- The whole number that a rational is rounded to. -/
def whole : Direction → ℚ → ℤ
  | towardZero, q => if q < 0 then ⌈q⌉ else ⌊q⌋
  | down, q => ⌊q⌋
  | up, q => ⌈q⌉
  | nearest, q => if q < 0 then ⌈q - 1 / 2⌉ else ⌊q + 1 / 2⌋

/-- The name of the operation that rounds in this direction. -/
def operation : Direction → String
  | towardZero => "to_i"
  | down => "floor"
  | up => "ceil"
  | nearest => "round"

/-- The arithmetic on units that the operation does. -/
def wholeUnits : Direction → Double → ℤ
  | towardZero => Double.truncate
  | down => Double.floor
  | up => Double.ceiling
  | nearest => Double.round

theorem find?_operation (direction : Direction) (n : Number) :
    Capabilities.builtin.find? direction.operation (.number n) =
      some (Capabilities.onNumber fun n => .number (n.toWholeBy direction.wholeUnits)) := by
  cases direction <;> rfl

/-- What is whole stays as it is. -/
theorem whole_intCast (direction : Direction) (k : ℤ) : direction.whole k = k := by
  cases direction with
  | towardZero => simp only [whole, Int.ceil_intCast, Int.floor_intCast, ite_self]
  | down => exact Int.floor_intCast k
  | up => exact Int.ceil_intCast k
  | nearest =>
    have below : ⌈(k : ℚ) - 1 / 2⌉ = k := by
      apply Int.ceil_eq_iff.2
      constructor <;> linarith
    have above : ⌊(k : ℚ) + 1 / 2⌋ = k := by
      apply Int.floor_eq_iff.2
      constructor <;> linarith
    simp only [whole, below, above, ite_self]

/-- Rounding moves a number by less than one. -/
theorem abs_whole_sub_lt (direction : Direction) (q : ℚ) : |(direction.whole q : ℚ) - q| < 1 := by
  have floor := Int.floor_le q
  have floor' := Int.lt_floor_add_one q
  have ceil := Int.le_ceil q
  have ceil' := Int.ceil_lt_add_one q
  rw [abs_lt]
  cases direction with
  | towardZero =>
    simp only [whole]
    split
    · constructor <;> linarith
    · constructor <;> linarith
  | down =>
    simp only [whole]
    constructor <;> linarith
  | up =>
    simp only [whole]
    constructor <;> linarith
  | nearest =>
    have low := Int.le_ceil (q - 1 / 2)
    have low' := Int.ceil_lt_add_one (q - 1 / 2)
    have high := Int.floor_le (q + 1 / 2)
    have high' := Int.lt_floor_add_one (q + 1 / 2)
    simp only [whole]
    split
    · constructor <;> linarith
    · constructor <;> linarith

/-- The arithmetic on units rounds the rational. -/
theorem whole_value (direction : Direction) (d : Double) :
    direction.whole d.value = direction.wholeUnits d := by
  cases direction with
  | towardZero =>
    simp only [whole, wholeUnits, Double.truncate, Double.value_neg_iff]
    split
    · rename_i negative
      have opposite : (-d.signedUnits).tdiv Double.one = -d.signedUnits / Double.one :=
        Int.tdiv_eq_ediv_of_nonneg (by omega)
      rw [Int.neg_tdiv] at opposite
      rw [← Int.neg_neg (d.signedUnits.tdiv _), opposite]
      exact Rat.ceil_intCast_div_natCast _ _
    · rename_i nonnegative
      rw [Int.tdiv_eq_ediv_of_nonneg (by omega)]
      exact Rat.floor_intCast_div_natCast _ _
  | down => exact Rat.floor_intCast_div_natCast _ _
  | up => exact Rat.ceil_intCast_div_natCast _ _
  | nearest =>
    simp only [whole, wholeUnits, Double.value_neg_iff, Double.round_eq, Double.value_sub_half,
      Double.value_add_half, Rat.ceil_intCast_div_natCast, Rat.floor_intCast_div_natCast]

/-- What is rounded to no signed word is whole. -/
theorem value_of_not_signed {direction : Direction} {d : Double}
    (outside : ¬ Number.IsSigned (direction.whole d.value)) :
    d.value = direction.whole d.value := by
  have near := abs_lt.1 (direction.abs_whole_sub_lt d.value)
  have far : direction.whole d.value < -0x8000000000000000 ∨
      0x8000000000000000 ≤ direction.whole d.value := by
    unfold Number.IsSigned at outside
    omega
  have large : 2 ^ 52 ≤ |d.value| := by
    obtain below | above := far
    · have below : (direction.whole d.value : ℚ) < -0x8000000000000000 := by exact_mod_cast below
      refine le_trans ?_ (neg_le_abs d.value)
      linarith
    · have above : (0x8000000000000000 : ℚ) ≤ direction.whole d.value := by exact_mod_cast above
      refine le_trans ?_ (le_abs_self d.value)
      linarith
  obtain ⟨k, same⟩ := Double.exists_value_eq_of_large (Double.large_of_le_abs_value large)
  rw [same, whole_intCast]

end Direction

/-! ## Operations -/

namespace Number

/-- The number is rounded exactly: to the whole number in the direction, which is an integer if the
number was one or if a signed word holds it, and a double otherwise. What is whole stands for the
same rational as before. -/
structure RoundsTo (direction : Direction) (n result : Number) : Prop where
  exact : result.value = direction.whole n.value
  integer_iff : (∃ k, result = .integer k) ↔
    (∃ k, n = .integer k) ∨ IsSigned (direction.whole n.value)
  unchanged : ∀ k : ℤ, n.value = k → result.value = n.value

variable {direction : Direction}

/-- That whole numbers are unchanged follows from the rest. -/
theorem RoundsTo.of_exact {n result : Number} (exact : result.value = direction.whole n.value)
    (integer_iff : (∃ k, result = .integer k) ↔
      (∃ k, n = .integer k) ∨ IsSigned (direction.whole n.value)) :
    RoundsTo direction n result := by
  refine ⟨exact, integer_iff, ?_⟩
  intro k whole
  rw [exact, whole, direction.whole_intCast]

theorem roundsTo_integer (direction : Direction) (k : ℤ) :
    RoundsTo direction (.integer k) ((Number.integer k).toWholeBy direction.wholeUnits) := by
  refine .of_exact ?_ ?_
  · exact congrArg Int.cast (direction.whole_intCast k).symm
  · exact ⟨fun _ => .inl ⟨k, rfl⟩, fun _ => ⟨k, rfl⟩⟩

/-- A double becomes an integer if a signed word holds it. -/
theorem roundsTo_of_signed {d : Double} (signed : IsSigned (direction.whole d.value)) :
    RoundsTo direction (.double d) ((Number.double d).toWholeBy direction.wholeUnits) := by
  have result : (Number.double d).toWholeBy direction.wholeUnits =
      .integer (direction.whole d.value) := by
    rw [direction.whole_value] at signed ⊢
    rw [toWholeBy, wholeOr, if_pos signed]
  rw [result]
  exact .of_exact rfl ⟨fun _ => .inr signed, fun _ => ⟨_, rfl⟩⟩

/-- A double that no signed word holds stays, but for the one next to them. -/
theorem roundsTo_of_not_signed {d : Double} (outside : ¬ IsSigned (direction.whole d.value))
    (other : d ≠ .pastSigned) :
    RoundsTo direction (.double d) ((Number.double d).toWholeBy direction.wholeUnits) := by
  have whole := Direction.value_of_not_signed outside
  have beyond : direction.whole d.value ≠ 0x8000000000000000 := by
    intro next
    rw [next] at whole
    exact other (Double.eq_pastSigned_iff.2 whole)
  have result : (Number.double d).toWholeBy direction.wholeUnits = .double d := by
    rw [direction.whole_value] at outside beyond
    rw [toWholeBy, wholeOr, if_neg outside, if_neg beyond]
  rw [result]
  refine .of_exact whole ⟨nofun, ?_⟩
  rintro (⟨_, same⟩ | signed)
  · cases same
  · exact absurd signed outside

theorem toWholeBy_pastSigned (direction : Direction) :
    (Number.double .pastSigned).toWholeBy direction.wholeUnits = .integer 0x7fffffffffffffff := by
  have whole : direction.wholeUnits .pastSigned = 0x8000000000000000 := by
    rw [← direction.whole_value, Double.value_pastSigned, direction.whole_intCast]
  rw [toWholeBy, whole]
  rfl

theorem not_roundsTo_pastSigned (direction : Direction) :
    ¬ RoundsTo direction (.double .pastSigned) (.integer 0x7fffffffffffffff) := by
  intro rounds
  have exact := rounds.exact
  simp only [value, Double.value_pastSigned, direction.whole_intCast, Int.cast_inj] at exact
  omega

theorem roundsTo_iff (direction : Direction) (n : Number) :
    RoundsTo direction n (n.toWholeBy direction.wholeUnits) ↔ n ≠ .double .pastSigned := by
  constructor
  · rintro rounds rfl
    rw [toWholeBy_pastSigned] at rounds
    exact not_roundsTo_pastSigned direction rounds
  · intro other
    cases n with
    | integer k => exact roundsTo_integer direction k
    | double d =>
      by_cases signed : IsSigned (direction.whole d.value)
      · exact roundsTo_of_signed signed
      · exact roundsTo_of_not_signed signed fun same => other (congrArg _ same)

end Number

namespace Capabilities

/-- What the operation for a direction makes of a number. -/
theorem find?_direction (direction : Direction) (n : Number) :
    ∃ operation, builtin.find? direction.operation (.number n) = some operation ∧
      operation (.number n) = .number (n.toWholeBy direction.wholeUnits) :=
  ⟨_, direction.find?_operation n, rfl⟩

/-- **Rounding is exact but for one double.** The operations `to_i`, `floor`, `ceil` and `round`
take every number to a number, and every number but the double `2 ^ 63` to exactly the whole number
in their direction: as an integer where the number was one or a signed word holds the result, as a
double otherwise, and without a change where the number is whole. The double `2 ^ 63` becomes the
integer before it. -/
theorem rounded_exactly_but_past_signed (direction : Direction) (n : Number) :
    ∃ operation result,
      builtin.find? direction.operation (.number n) = some operation ∧
        operation (.number n) = .number result ∧
        (Number.RoundsTo direction n result ↔ n ≠ .double .pastSigned) ∧
        (n = .double .pastSigned → result = .integer 0x7fffffffffffffff) := by
  obtain ⟨operation, found, applied⟩ := find?_direction direction n
  refine ⟨operation, _, found, applied, Number.roundsTo_iff direction n, ?_⟩
  rintro rfl
  exact Number.toWholeBy_pastSigned direction

/-- The double `2 ^ 63` is whole, and `to_i` takes one from it. -/
theorem past_signed_loses_one :
    ∃ operation, builtin.find? "to_i" (.number (.double .pastSigned)) = some operation ∧
      operation (.number (.double .pastSigned)) = .ofInt 0x7fffffffffffffff ∧
      (Number.double .pastSigned).value = 0x8000000000000000 ∧
      ¬ Number.RoundsTo .towardZero (.double .pastSigned) (.integer 0x7fffffffffffffff) := by
  obtain ⟨operation, found, applied⟩ := find?_direction .towardZero (.double .pastSigned)
  rw [Number.toWholeBy_pastSigned] at applied
  have value := Double.value_pastSigned
  exact ⟨operation, found, applied, by exact_mod_cast value, Number.not_roundsTo_pastSigned _⟩

end Capabilities

end Reshape
