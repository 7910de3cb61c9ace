/-!
# Finite binary64 numbers

A double is a sign and a magnitude counted in units of `2 ^ -1074`, the least positive double, so
all arithmetic on it is exact arithmetic on naturals:

* `Double.Representable`: at most 53 significant bits, below `2 ^ 1024`;
* `Double.roundUnits`: the representable magnitude nearest to a ratio, a tie going to the even
  significand; `gap_dvd_roundUnits` shows that its bits are few enough;
* `truncate`, `floor`, `ceiling`, `round`: the four ways to a whole number.
-/

namespace Reshape

/-- The quotient rounded to the nearest whole number, a tie going to the even one. -/
def divNearestEven (num den : Nat) : Nat :=
  let quotient := num / den
  let remainder := num % den
  if 2 * remainder < den then quotient
  else if den < 2 * remainder then quotient + 1
  else if quotient % 2 = 0 then quotient
  else quotient + 1

theorem divNearestEven_le (num den : Nat) : divNearestEven num den ≤ num / den + 1 := by
  simp only [divNearestEven]
  repeat' split
  all_goals omega

namespace Double

/-- How many units of `2 ^ -1074` make one. -/
def one : Nat := 1 <<< 1074

/-- The distance between neighbouring doubles around `units`: the weight of the last of 53 bits. -/
def gap (units : Nat) : Nat := 1 <<< (units.log2 - 52)

/-- At most 53 significant bits, and below `2 ^ 1024`. -/
def Representable (units : Nat) : Prop := units.log2 < 2098 ∧ gap units ∣ units

instance (units : Nat) : Decidable (Representable units) := by
  unfold Representable; infer_instance

/-- The magnitude nearest to `num / den` units, a tie going to the even significand. -/
def roundUnits (num den : Nat) : Nat :=
  divNearestEven num (den * gap (num / den)) * gap (num / den)

theorem divNearestEven_gap_le (num den : Nat) :
    divNearestEven num (den * gap (num / den)) ≤ 0x20000000000000 := by
  refine Nat.le_trans (divNearestEven_le _ _) ?_
  rw [← Nat.div_div_eq_div_mul]
  refine Nat.succ_le_of_lt (Nat.div_lt_of_lt_mul ?_)
  simp only [gap, Nat.one_shiftLeft]
  generalize num / den = q
  rw [show (0x20000000000000 : Nat) = 2 ^ 53 from rfl, ← Nat.pow_add]
  refine Nat.lt_of_lt_of_le (Nat.lt_log2_self (n := q)) (Nat.pow_le_pow_right (by decide) ?_)
  omega

theorem gap_dvd_roundUnits (num den : Nat) : gap (roundUnits num den) ∣ roundUnits num den := by
  have bound := divNearestEven_gap_le num den
  simp only [roundUnits, gap, Nat.one_shiftLeft] at *
  rw [show (0x20000000000000 : Nat) = 2 ^ 53 from rfl] at bound
  generalize (num / den).log2 - 52 = s at *
  generalize divNearestEven num (den * 2 ^ s) = m at *
  by_cases zero : m = 0
  · simp [zero]
  by_cases top : m = 2 ^ 53
  · rw [top, ← Nat.pow_add, Nat.log2_two_pow]
    exact Nat.pow_dvd_pow 2 (by omega)
  · have small : m < 2 ^ 53 := by omega
    have positive : m * 2 ^ s ≠ 0 := Nat.mul_ne_zero zero (by simp)
    have log : (m * 2 ^ s).log2 < 53 + s := by
      rw [Nat.log2_lt positive, Nat.pow_add]
      exact Nat.mul_lt_mul_of_pos_right small (Nat.two_pow_pos s)
    exact Nat.dvd_trans (Nat.pow_dvd_pow 2 (by omega)) (Nat.dvd_mul_left _ _)

end Double

/-- A finite binary64 number. Both zeros are values of their own. -/
structure Double where
  negative : Bool
  units : Nat
  representable : Double.Representable units
deriving DecidableEq

namespace Double

/-- The double nearest to `num / den` units with the given sign; `none` past the largest double. -/
def ofUnits? (negative : Bool) (num den : Nat) : Option Double :=
  if fits : (roundUnits num den).log2 < 2098 then
    some ⟨negative, roundUnits num den, fits, gap_dvd_roundUnits num den⟩
  else
    none

/-- The double nearest to a whole number; `none` past the largest double. -/
def ofInt? (n : Int) : Option Double := ofUnits? (n < 0) (n.natAbs * one) 1

def zero (negative : Bool) : Double := ⟨negative, 0, by decide⟩

/-- The signed magnitude in units. Both zeros have magnitude zero. -/
def signedUnits (d : Double) : Int := if d.negative then -(d.units : Int) else d.units

def abs (d : Double) : Double := { d with negative := false }

/-- The whole number next to `d` on the side of zero. -/
def truncate (d : Double) : Int := d.signedUnits.tdiv one

def floor (d : Double) : Int := d.signedUnits / one

def ceiling (d : Double) : Int := -(-d.signedUnits / one)

/-- The whole number nearest to `d`, a tie going away from zero. -/
def round (d : Double) : Int :=
  let magnitude : Int := (2 * d.units + one) / (2 * one)
  if d.negative then -magnitude else magnitude

end Double

end Reshape
