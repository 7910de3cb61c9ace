import Mathlib.Algebra.Group.Nat.Defs
import Reshape.Decimal

/-!
# Rounding to doubles

What the nearest double to a ratio is, and that the fewest digits of a double read back to it:

* `ofUnits?_eq_some_iff`: the nearest double has the magnitude `roundUnits` and the sign given;
* `roundUnits_mul`: only the ratio counts; `roundUnits_exact`: doubles are not rounded;
* `le_two_mul_roundUnits` and `roundUnits_le`: a magnitude changes by less than a factor of two;
* `toDouble?_shortest`: the decimal that a double is written with reads back to it, whether one of
  the grids has it or all of its digits are written.
-/

namespace Reshape

/-! ## Quotients -/

theorem le_divNearestEven (num den : Nat) : num / den ≤ divNearestEven num den := by
  simp only [divNearestEven]
  repeat' split
  all_goals omega

theorem divNearestEven_mul (num den : Nat) {k : Nat} (positive : 0 < k) :
    divNearestEven (num * k) (den * k) = divNearestEven num den := by
  have below : 2 * (num % den * k) < den * k ↔ 2 * (num % den) < den := by
    rw [← Nat.mul_assoc, Nat.mul_lt_mul_right positive]
  have above : den * k < 2 * (num % den * k) ↔ den < 2 * (num % den) := by
    rw [← Nat.mul_assoc, Nat.mul_lt_mul_right positive]
  simp only [divNearestEven, Nat.mul_div_mul_right num den positive, Nat.mul_mod_mul_right, below,
    above]

theorem divNearestEven_exact (quotient : Nat) {den : Nat} (positive : 0 < den) :
    divNearestEven (quotient * den) den = quotient := by
  simp [divNearestEven, Nat.mul_div_cancel quotient positive, positive]

namespace Double

/-! ## Magnitudes -/

theorem gap_pos (units : Nat) : 0 < gap units := by
  rw [gap, Nat.one_shiftLeft]
  exact Nat.two_pow_pos _

/-- Neighbouring doubles are one unit apart, or closer to each other than to zero. -/
theorem gap_eq_one_or_le (units : Nat) : gap units = 1 ∨ 2 * gap units ≤ units := by
  rw [gap, Nat.one_shiftLeft]
  by_cases few : units.log2 ≤ 52
  · left
    rw [Nat.sub_eq_zero_of_le few, Nat.pow_zero]
  · right
    have nonzero : units ≠ 0 := by
      rintro rfl
      exact few (by decide)
    have top : 2 ^ units.log2 ≤ units := Nat.log2_self_le nonzero
    have step : 2 * 2 ^ (units.log2 - 52) = 2 ^ (units.log2 - 51) := by
      rw [← Nat.pow_succ']
      congr 1
      omega
    have less : 2 ^ (units.log2 - 51) ≤ 2 ^ units.log2 :=
      Nat.pow_le_pow_right (by decide) (Nat.sub_le _ _)
    omega

/-- Only the ratio counts. -/
theorem roundUnits_mul (num den : Nat) {k : Nat} (positive : 0 < k) :
    roundUnits (num * k) (den * k) = roundUnits num den := by
  rw [roundUnits, roundUnits, Nat.mul_div_mul_right num den positive, Nat.mul_right_comm den k,
    divNearestEven_mul _ _ positive]

/-- A magnitude of few enough bits is not rounded. -/
theorem roundUnits_exact {units den : Nat} (few : gap units ∣ units) (positive : 0 < den) :
    roundUnits (units * den) den = units := by
  obtain ⟨count, whole⟩ := few
  have step : 0 < den * gap units := Nat.mul_pos positive (gap_pos units)
  have num : units * den = count * (den * gap units) := by
    calc units * den = gap units * count * den := by rw [← whole]
      _ = count * (den * gap units) := by ac_rfl
  rw [roundUnits, Nat.mul_div_cancel units positive, num, divNearestEven_exact count step,
    Nat.mul_comm, ← whole]

/-- The magnitude lies within one gap of the ratio. -/
theorem roundUnits_bounds (num den : Nat) :
    num / den / gap (num / den) * gap (num / den) ≤ roundUnits num den ∧
      roundUnits num den ≤ (num / den / gap (num / den) + 1) * gap (num / den) := by
  rw [roundUnits, Nat.div_div_eq_div_mul]
  exact ⟨Nat.mul_le_mul_right _ (le_divNearestEven _ _),
    Nat.mul_le_mul_right _ (divNearestEven_le _ _)⟩

theorem le_two_mul_roundUnits (num den : Nat) : num / den ≤ 2 * roundUnits num den := by
  have lower := (roundUnits_bounds num den).1
  have split := Nat.div_add_mod (num / den) (gap (num / den))
  have rest := Nat.mod_lt (num / den) (gap_pos (num / den))
  rw [Nat.mul_comm] at split
  obtain one | close := gap_eq_one_or_le (num / den)
  · rw [one] at lower
    omega
  · omega

theorem roundUnits_le (num den : Nat) : roundUnits num den ≤ 2 * (num / den) + 1 := by
  have upper := (roundUnits_bounds num den).2
  have split := Nat.div_mul_le_self (num / den) (gap (num / den))
  rw [Nat.succ_mul] at upper
  obtain one | close := gap_eq_one_or_le (num / den)
  · omega
  · omega

/-! ## Nearest doubles -/

theorem ofUnits?_eq_some_iff {negative : Bool} {num den : Nat} {d : Double} :
    ofUnits? negative num den = some d ↔ d.negative = negative ∧ d.units = roundUnits num den := by
  unfold ofUnits?
  constructor
  · intro h
    split at h
    · cases h
      exact ⟨rfl, rfl⟩
    · cases h
  · rintro ⟨rfl, units⟩
    have fits : (roundUnits num den).log2 < 2098 := units ▸ d.representable.1
    rw [dif_pos fits]
    obtain ⟨negative, own, representable⟩ := d
    cases units
    rfl

theorem ofUnits?_congr {num den other place : Nat}
    (same : roundUnits num den = roundUnits other place) (negative : Bool) :
    ofUnits? negative num den = ofUnits? negative other place := by
  simp only [ofUnits?, same]

theorem eq_zero_of_units {d : Double} (none : d.units = 0) : d = zero d.negative := by
  obtain ⟨negative, units, representable⟩ := d
  cases none
  rfl

end Double

namespace Decimal

/-- Whether the nearest double has to be worked out: the exponent alone does not settle that the
decimal is too great or too small. -/
def InReach (x : Decimal) : Prop := 0 ≤ x.exponent + 400 + x.digits.log2 ∧ x.exponent ≤ 400

theorem tenTo_pos (exponent : Nat) : 0 < tenTo exponent := Nat.pow_pos (by decide)

theorem tenTo_eq (exponent : Nat) : tenTo exponent = 10 ^ exponent := rfl

theorem toDouble?_of_digits_zero {x : Decimal} (none : x.digits = 0) :
    x.toDouble? = some (.zero x.negative) := by
  rw [toDouble?, if_pos (.inl none)]

theorem toDouble?_of_inReach {x : Decimal} (some : x.digits ≠ 0) (reach : x.InReach) :
    x.toDouble? = Double.ofUnits? x.negative (x.digits * tenTo x.exponent.toNat * Double.one)
      (tenTo (-x.exponent).toNat) := by
  obtain ⟨low, high⟩ := reach
  have not_small : ¬ (x.digits = 0 ∨ x.exponent + 400 + x.digits.log2 < 0) := by
    rintro (none | small)
    · exact some none
    · omega
  rw [toDouble?, if_neg not_small, if_neg (by omega)]

/-- What is not zero was worked out. -/
theorem inReach_of_toDouble? {x : Decimal} {d : Double} (read : x.toDouble? = some d)
    (nonzero : d.units ≠ 0) : x.digits ≠ 0 ∧ x.InReach := by
  unfold toDouble? at read
  split at read
  · cases read
    exact absurd rfl nonzero
  · rename_i settled
    split at read
    · cases read
    · rw [not_or] at settled
      exact ⟨settled.1, by omega, by omega⟩

/-- A whole number and the same number with a place behind the point. -/
theorem toDouble?_placed {x : Decimal} (whole : 0 ≤ x.exponent) (small : x.exponent ≤ 400) :
    toDouble? ⟨x.negative, x.digits * 10 ^ (x.exponent.toNat + 1), -1⟩ = x.toDouble? := by
  by_cases none : x.digits = 0
  · have none' : x.digits * 10 ^ (x.exponent.toNat + 1) = 0 := by rw [none, Nat.zero_mul]
    rw [toDouble?_of_digits_zero none, toDouble?_of_digits_zero none']
  · have ten : 0 < 10 ^ (x.exponent.toNat + 1) := Nat.pow_pos (by decide)
    have some : x.digits * 10 ^ (x.exponent.toNat + 1) ≠ 0 :=
      Nat.mul_ne_zero none (Nat.ne_of_gt ten)
    have reach : InReach ⟨x.negative, x.digits * 10 ^ (x.exponent.toNat + 1), -1⟩ := by
      constructor
      · simp only
        omega
      · simp only
        omega
    have down : (-x.exponent).toNat = 0 := by omega
    rw [toDouble?_of_inReach none ⟨by omega, small⟩, toDouble?_of_inReach some reach, down]
    refine Double.ofUnits?_congr ?_ x.negative
    -- Both sides of the first ratio are ten times those of the second.
    have num : x.digits * 10 ^ (x.exponent.toNat + 1) * tenTo (-1 : Int).toNat * Double.one =
        x.digits * tenTo x.exponent.toNat * Double.one * 10 := by
      have one : tenTo (-1 : Int).toNat = 1 := rfl
      rw [one, Nat.mul_one, tenTo_eq, Nat.pow_succ]
      ac_rfl
    have den : tenTo (- -1 : Int).toNat = tenTo 0 * 10 := rfl
    rw [num, den, Double.roundUnits_mul _ _ (by decide)]

end Decimal

/-! ## Digits that read back -/

namespace Double

theorem toDouble?_of_tried {nearest other x : Decimal} {d : Double}
    (found : (if nearest.toDouble? = some d then some nearest
      else if other.toDouble? = some d then some other else none) = some x) :
    x.toDouble? = some d := by
  split at found
  · cases found
    assumption
  · split at found
    · cases found
      assumption
    · cases found

theorem toDouble?_onGrid? {d : Double} {exponent : Int} {x : Decimal}
    (found : d.onGrid? exponent = some x) : x.toDouble? = some d :=
  toDouble?_of_tried found

theorem exact_digits_mul (units places : Nat) :
    units * Nat.pow 5 places * Decimal.tenTo 0 * 1 <<< places =
      units * Decimal.tenTo places := by
  rw [Nat.one_shiftLeft, Decimal.tenTo_eq, Decimal.tenTo_eq, Nat.pow_zero, Nat.mul_one,
    Nat.mul_assoc]
  exact congrArg (units * ·) (Nat.mul_pow 5 2 places).symm

theorem exact_inReach {units : Nat} (nonzero : units ≠ 0) (negative : Bool) (places : Nat) :
    units * Nat.pow 5 places ≠ 0 ∧
      Decimal.InReach ⟨negative, units * Nat.pow 5 places, -(places : Int)⟩ := by
  have five : 0 < 5 ^ places := Nat.pow_pos (by decide)
  have digits : units * Nat.pow 5 places ≠ 0 := Nat.mul_ne_zero nonzero (Nat.ne_of_gt five)
  have many : 2 ^ places ≤ units * Nat.pow 5 places := by
    calc 2 ^ places ≤ 5 ^ places := Nat.pow_le_pow_left (by decide) _
      _ ≤ units * 5 ^ places := Nat.le_mul_of_pos_left _ (Nat.pos_of_ne_zero nonzero)
  have log := (Nat.le_log2 digits).2 many
  refine ⟨digits, ?_, ?_⟩
  · simp only
    omega
  · simp only
    omega

/-- All digits of a double read back. The number of places is left open here: only that it is the one
in the unit counts. -/
theorem toDouble?_exact {d : Double} (nonzero : d.units ≠ 0) {places : Nat} {exponent : Int}
    (unit : one = 1 <<< places) (last : exponent = -(places : Int)) :
    Decimal.toDouble? ⟨d.negative, d.units * Nat.pow 5 places, exponent⟩ = some d := by
  subst last
  obtain ⟨digits, reach⟩ := exact_inReach nonzero d.negative places
  have whole := exact_digits_mul d.units places
  have down : (-(places : Int)).toNat = 0 := by omega
  have up : (- -(places : Int)).toNat = places := by omega
  rw [Decimal.toDouble?_of_inReach digits reach]
  refine ofUnits?_eq_some_iff.2 ⟨rfl, ?_⟩
  simp only [down, up]
  rw [unit, whole, roundUnits_exact d.representable.2 (Decimal.tenTo_pos places)]

theorem toDouble?_exactDecimal {d : Double} (nonzero : d.units ≠ 0) :
    d.exactDecimal.toDouble? = some d := by
  -- The number of places is kept a variable, so that the power of five stays as it is.
  obtain ⟨places, count⟩ : ∃ places, places = 1074 := ⟨1074, rfl⟩
  have unit : one = 1 <<< places := by rw [count, one]
  have last : (-1074 : Int) = -(places : Int) := by rw [count]; rfl
  unfold exactDecimal
  rw [← count]
  exact toDouble?_exact nonzero unit last

/-- A double reads back from the digits that it is written with. -/
theorem toDouble?_shortest (d : Double) : d.shortest.toDouble? = some d := by
  unfold shortest
  split
  · rename_i none
    exact congrArg some (eq_zero_of_units none).symm
  · rename_i nonzero
    cases found : (List.range 20).findSome? fun (i : Nat) => d.onGrid? (d.decimalTop - i) with
    | none => exact toDouble?_exactDecimal nonzero
    | some x =>
      obtain ⟨i, _, here⟩ := List.exists_of_findSome?_eq_some found
      exact toDouble?_onGrid? here

end Double

end Reshape
