import Reshape.Double

/-!
# Decimal numerals

A decimal is a sign, a run of digits read as a natural, and a power of ten:

* `Decimal.toDouble?`: the nearest double, `none` past the largest one;
* `Double.shortest`: the fewest digits that read back to a double, the nearest of those to it, a
  tie going to the even digit.
-/

namespace Reshape

/-- The number `digits * 10 ^ exponent`, with a sign. -/
structure Decimal where
  negative : Bool
  digits : Nat
  exponent : Int
deriving DecidableEq

namespace Decimal

def tenTo (exponent : Nat) : Nat := Nat.pow 10 exponent

/-- The nearest double; `none` past the largest one. Exponents so large or so small that the value
is out of every double's reach are settled without raising ten to them. -/
def toDouble? (x : Decimal) : Option Double :=
  if x.digits = 0 ∨ x.exponent + 400 + x.digits.log2 < 0 then
    some (Double.zero x.negative)
  else if 400 < x.exponent then
    none
  else
    Double.ofUnits? x.negative (x.digits * tenTo x.exponent.toNat * Double.one)
      (tenTo (-x.exponent).toNat)

end Decimal

namespace Double

/-- Every digit of a double, written with 1074 places. -/
def exactDecimal (d : Double) : Decimal := ⟨d.negative, d.units * Nat.pow 5 1074, -1074⟩

/-- The multiple of `10 ^ exponent` that reads back to `d`: of the two multiples next to `d`, the
nearer one that does, or the even one when both do and are equally near. -/
def onGrid? (d : Double) (exponent : Int) : Option Decimal :=
  let num := d.units * Decimal.tenTo (-exponent).toNat
  let den := one * Decimal.tenTo exponent.toNat
  let below : Decimal := ⟨d.negative, num / den, exponent⟩
  let above : Decimal := ⟨d.negative, num / den + 1, exponent⟩
  let nearest := if divNearestEven num den = num / den then below else above
  let other := if divNearestEven num den = num / den then above else below
  if nearest.toDouble? = some d then some nearest
  else if other.toDouble? = some d then some other
  else none

/-- A power of ten above the magnitude of a double other than zero, by at most two places. -/
def decimalTop (d : Double) : Int := ((d.units.log2 : Int) + 1 - 1074) * 30103 / 100000 + 1

/-- The fewest digits that read back to `d`. Grids are tried from the coarsest on; seventeen
digits always suffice, so the exact value is never needed. -/
def shortest (d : Double) : Decimal :=
  if d.units = 0 then ⟨d.negative, 0, 0⟩
  else ((List.range 20).findSome? fun (i : Nat) => d.onGrid? (d.decimalTop - i)).getD d.exactDecimal

end Double

end Reshape
