import Reshape.Json.Reader
import Reshape.Proofs.Reading
import Reshape.Proofs.WrittenNumbers

/-!
# In front of an exponent

What stands in front of the exponent of a decimal:

* `number_mantissaChars`: a number of its own, as documents have it;
* `exists_toDouble?_mantissa` and `toDouble?_mantissa_ne`: a double is nearest to it, and another one
  than to the decimal.
-/

namespace Reshape

open Text

/-! ## What is written in front of an exponent -/

/-- Digits behind a point, and no point without digits. -/
def fractionChars : List Char → List Char
  | [] => []
  | digits => '.' :: digits

/-- What is written of a decimal in front of an exponent. -/
def Decimal.mantissaChars (x : Decimal) : List Char :=
  signChars x.negative ++ ((Number.digitChars x.digits).take 1 ++
    fractionChars ((Number.digitChars x.digits).drop 1))

theorem scientificChars_eq (x : Decimal) (exponent : Int) :
    signChars x.negative ++ Number.scientificChars (Number.digitChars x.digits) exponent =
      x.mantissaChars ++
        'e' :: (if exponent < 0 then '-' else '+') :: Number.digitChars exponent.natAbs := by
  have front : (if (Number.digitChars x.digits).length ≤ 1 then []
      else '.' :: (Number.digitChars x.digits).drop 1) =
        fractionChars ((Number.digitChars x.digits).drop 1) := by
    match Number.digitChars x.digits with
    | [] => rfl
    | [_] => rfl
    | _ :: _ :: _ => rfl
  rw [Number.scientificChars, front, Decimal.mantissaChars]
  simp only [List.append_assoc]

theorem mem_fractionChars {digits : List Char} {c : Char} (member : c ∈ fractionChars digits) :
    c ∈ digits ∨ c = '.' := by
  match digits, member with
  | d :: digits, member => exact (List.mem_cons.1 member).symm

/-- In front of the exponent there is a sign, digits and at most a point. -/
theorem exponent_not_mem_mantissaChars (x : Decimal) : 'e' ∉ x.mantissaChars := by
  intro member
  have run := Number.digitChars_run x.digits
  obtain sign | first | places := by
    simpa only [Decimal.mantissaChars, List.mem_append] using member
  · cases negative : x.negative with
    | true =>
      rw [negative] at sign
      cases List.mem_singleton.1 sign
    | false =>
      rw [negative] at sign
      cases sign
  · cases run _ (List.mem_of_mem_take first)
  · obtain digit | point := mem_fractionChars places
    · cases run _ (List.mem_of_mem_drop digit)
    · cases point

open Text.Reader

namespace Json.Reader

variable {digits : List Char}

theorem sign_signChars (negative : Bool) {c : Char} (other : c ≠ '-') (rest : List Char) :
    char? '-' (signChars negative ++ c :: rest) = some (negative, c :: rest) := by
  cases negative with
  | true => rfl
  | false => rw [char?_apply, signChars, List.nil_append, if_neg (by simpa using other)]

/-- A digit other than zero, and no digit after it, is the whole part. -/
theorem wholeDigits_single {c : Char} (digit : isDecimalDigit c = true) (nonzero : c ≠ '0')
    (digits : List Char) :
    wholeDigits (c :: fractionChars digits) = some ([c], fractionChars digits) := by
  have stop : takeWhile isDecimalDigit (fractionChars digits) =
      some ([], fractionChars digits) := by
    cases digits with
    | nil => rfl
    | cons d digits => rfl
  rw [wholeDigits, orElse_apply, bind_apply, char_cons, if_neg nonzero, Option.bind_none,
    Option.none_or, takeWhile1, bind_apply, satisfying_cons, if_pos digit, Option.bind_some,
    bind_apply, stop]
  rfl

theorem fraction_fractionChars (run : ∀ c ∈ digits, isDecimalDigit c = true) :
    fraction (fractionChars digits) = some (digits, []) := by
  cases digits with
  | nil => rfl
  | cons c digits =>
    obtain ⟨digit, others⟩ := List.forall_mem_cons.1 run
    have taken : takeWhile isDecimalDigit digits = some (digits, []) := by
      have stop : ∀ c, ([] : List Char).head? = some c → isDecimalDigit c = false := nofun
      have all := takeWhile_append others stop
      rwa [List.append_nil] at all
    have pointed : fractionChars (c :: digits) = '.' :: c :: digits := rfl
    have point : char? '.' ('.' :: c :: digits) = some (true, c :: digits) := rfl
    rw [pointed, fraction, bind_apply, point, Option.bind_some, if_pos rfl, takeWhile1,
      bind_apply, satisfying_cons, if_pos digit, Option.bind_some, bind_apply, taken]
    rfl

end Json.Reader

/-! ## What an exponent is worth -/

namespace Double

/-- A ratio gives bounds for the double nearest to it. -/
theorem le_two_mul_units {num den bound : Nat} (positive : 0 < den) (least : bound * den ≤ num) :
    bound ≤ 2 * roundUnits num den :=
  Nat.le_trans ((Nat.le_div_iff_mul_le positive).2 least) (le_two_mul_roundUnits num den)

theorem units_lt_two_mul {num den bound : Nat} (positive : 0 < den) (less : num < bound * den) :
    roundUnits num den < 2 * bound := by
  have ratio := (Nat.div_lt_iff_lt_mul positive).2 less
  have round := roundUnits_le num den
  omega

theorem one_large : 1000000 ≤ one := by decide +kernel

theorem log2_lt {units bits : Nat} (less : units < 2 ^ bits) (positive : 0 < bits) :
    units.log2 < bits := by
  by_cases zero : units = 0
  · rw [zero]
    exact positive
  · exact (Nat.log2_lt zero).2 less

end Double

namespace Decimal

variable {x : Decimal} {d : Double}

theorem units_of_toDouble? (read : x.toDouble? = some d) (nonzero : d.units ≠ 0) :
    d.units = Double.roundUnits (x.digits * tenTo x.exponent.toNat * Double.one)
      (tenTo (-x.exponent).toNat) := by
  obtain ⟨digits, reach⟩ := inReach_of_toDouble? read nonzero
  rw [toDouble?_of_inReach digits reach] at read
  exact (Double.ofUnits?_eq_some_iff.1 read).2

/-- All digits of the mantissa but the first stand behind its point. -/
theorem mantissa_places (x : Decimal) : x.mantissa.exponent.toNat = 0 ∧
    (-x.mantissa.exponent).toNat = (Number.digitChars x.digits).length - 1 := by
  have positive := Number.digitChars_length_pos x.digits
  simp only [mantissa]
  omega

/-- So as a ratio it is one at least and less than ten. -/
theorem le_mantissa (digits : x.digits ≠ 0) :
    Double.one * tenTo (-x.mantissa.exponent).toNat ≤
      x.mantissa.digits * tenTo x.mantissa.exponent.toNat * Double.one := by
  obtain ⟨whole, places⟩ := mantissa_places x
  rw [whole, places, tenTo_eq, tenTo_eq, Nat.pow_zero, Nat.mul_one, Nat.mul_comm]
  exact Nat.mul_le_mul_right _ (Number.tenTo_length_le digits)

theorem mantissa_lt (x : Decimal) :
    x.mantissa.digits * tenTo x.mantissa.exponent.toNat * Double.one <
      10 * Double.one * tenTo (-x.mantissa.exponent).toNat := by
  obtain ⟨whole, places⟩ := mantissa_places x
  have positive := Number.digitChars_length_pos x.digits
  have top : 10 ^ (Number.digitChars x.digits).length =
      10 * 10 ^ ((Number.digitChars x.digits).length - 1) := by
    rw [← Nat.pow_succ']
    congr 1
    omega
  rw [whole, places, tenTo_eq, tenTo_eq, Nat.pow_zero, Nat.mul_one]
  calc x.digits * Double.one < 10 ^ (Number.digitChars x.digits).length * Double.one :=
        Nat.mul_lt_mul_of_pos_right (Number.lt_tenTo_length x.digits)
          (Nat.lt_of_lt_of_le (by decide) Double.one_large)
    _ = 10 * Double.one * 10 ^ ((Number.digitChars x.digits).length - 1) := by rw [top]; ac_rfl

/-- The double of the mantissa is more than half of one and less than twice ten. -/
theorem mantissa_bounds (digits : x.digits ≠ 0) (read : x.mantissa.toDouble? = some d)
    (nonzero : d.units ≠ 0) : Double.one ≤ 2 * d.units ∧ d.units < 20 * Double.one := by
  have den := tenTo_pos (-x.mantissa.exponent).toNat
  have bound := Double.units_lt_two_mul den (mantissa_lt x)
  rw [units_of_toDouble? read nonzero]
  exact ⟨Double.le_two_mul_units den (le_mantissa digits), by omega⟩

/-- There always is such a double. -/
theorem exists_toDouble?_mantissa (x : Decimal) : ∃ d, x.mantissa.toDouble? = some d := by
  by_cases settled : x.mantissa.digits = 0 ∨
      x.mantissa.exponent + 400 + x.mantissa.digits.log2 < 0
  · exact ⟨_, by rw [toDouble?, if_pos settled]⟩
  have positive := Number.digitChars_length_pos x.digits
  have small : ¬ 400 < x.mantissa.exponent := by
    simp only [mantissa]
    omega
  have bound := Double.units_lt_two_mul (tenTo_pos _) (mantissa_lt x)
  have fits : 2 * (10 * Double.one) ≤ 2 ^ 2098 := by decide +kernel
  rw [toDouble?, if_neg settled, if_neg small, Double.ofUnits?, dif_pos]
  · exact ⟨_, rfl⟩
  · exact Double.log2_lt (Nat.lt_of_lt_of_le bound fits) (by decide)

/-- A decimal whose first digit counts less than `10 ^ -5` is below half of one. -/
theorem units_small (read : x.toDouble? = some d) (nonzero : d.units ≠ 0)
    (small : x.leadingExponent < -5) : 2 * d.units < Double.one := by
  have positive := Number.digitChars_length_pos x.digits
  have less := Number.lt_tenTo_length x.digits
  have units := units_of_toDouble? read nonzero
  simp only [leadingExponent] at small
  generalize (Number.digitChars x.digits).length = count at *
  have large := Double.one_large
  have ratio : x.digits * tenTo x.exponent.toNat * 100000 < tenTo (-x.exponent).toNat := by
    calc x.digits * tenTo x.exponent.toNat * 100000
        < 10 ^ count * 10 ^ x.exponent.toNat * 10 ^ 5 := by
          refine Nat.mul_lt_mul_of_pos_right ?_ (by decide)
          exact Nat.mul_lt_mul_of_pos_right less (tenTo_pos _)
      _ = 10 ^ (count + x.exponent.toNat + 5) := by rw [Nat.pow_add, Nat.pow_add]
      _ ≤ 10 ^ (-x.exponent).toNat := Nat.pow_le_pow_right (by decide) (by omega)
  have part : Double.one ≤ (Double.one / 100000 + 1) * 100000 := by omega
  have below : x.digits * tenTo x.exponent.toNat * Double.one <
      (Double.one / 100000 + 1) * tenTo (-x.exponent).toNat := by
    apply Nat.lt_of_mul_lt_mul_right (a := 100000)
    calc x.digits * tenTo x.exponent.toNat * Double.one * 100000
        = x.digits * tenTo x.exponent.toNat * 100000 * Double.one := by ac_rfl
      _ < tenTo (-x.exponent).toNat * Double.one :=
          Nat.mul_lt_mul_of_pos_right ratio (Nat.lt_of_lt_of_le (by decide) large)
      _ ≤ tenTo (-x.exponent).toNat * ((Double.one / 100000 + 1) * 100000) :=
          Nat.mul_le_mul_left _ part
      _ = (Double.one / 100000 + 1) * tenTo (-x.exponent).toNat * 100000 := by ac_rfl
  have bound := Double.units_lt_two_mul (tenTo_pos _) below
  omega

/-- A decimal whose first digit counts more than `10 ^ 15` is twenty at least. -/
theorem units_great (read : x.toDouble? = some d) (nonzero : d.units ≠ 0)
    (great : 15 < x.leadingExponent) : 20 * Double.one ≤ d.units := by
  have digits := (inReach_of_toDouble? read nonzero).1
  have positive := Number.digitChars_length_pos x.digits
  have least := Number.tenTo_length_le digits
  have units := units_of_toDouble? read nonzero
  simp only [leadingExponent] at great
  generalize (Number.digitChars x.digits).length = count at *
  have ratio : 10 ^ 16 * tenTo (-x.exponent).toNat ≤ x.digits * tenTo x.exponent.toNat := by
    calc 10 ^ 16 * 10 ^ (-x.exponent).toNat = 10 ^ (16 + (-x.exponent).toNat) :=
          (Nat.pow_add _ _ _).symm
      _ ≤ 10 ^ (count - 1 + x.exponent.toNat) := Nat.pow_le_pow_right (by decide) (by omega)
      _ = 10 ^ (count - 1) * 10 ^ x.exponent.toNat := Nat.pow_add _ _ _
      _ ≤ x.digits * 10 ^ x.exponent.toNat := Nat.mul_le_mul_right _ least
  have bound : 10 ^ 16 * Double.one ≤ 2 * d.units := by
    rw [units]
    apply Double.le_two_mul_units (tenTo_pos _)
    calc 10 ^ 16 * Double.one * tenTo (-x.exponent).toNat
        = 10 ^ 16 * tenTo (-x.exponent).toNat * Double.one := by ac_rfl
      _ ≤ x.digits * tenTo x.exponent.toNat * Double.one := Nat.mul_le_mul_right _ ratio
  omega

/-- The double of a decimal that is written with an exponent is past these bounds. -/
theorem not_plain_bounds (read : x.toDouble? = some d) (nonzero : d.units ≠ 0)
    (scientific : ¬ x.Plain) : 2 * d.units < Double.one ∨ 20 * Double.one ≤ d.units := by
  have outside : x.leadingExponent < -5 ∨ 15 < x.leadingExponent := by
    simp only [Plain, Number.positional, Bool.and_eq_true, decide_eq_true_eq, not_and_or,
      Int.not_le] at scientific
    exact scientific
  obtain small | great := outside
  · exact .inl (units_small read nonzero small)
  · exact .inr (units_great read nonzero great)

/-- What is read of a decimal that is written with an exponent is another double. -/
theorem toDouble?_mantissa_ne (read : x.toDouble? = some d) (nonzero : d.units ≠ 0)
    (scientific : ¬ x.Plain) : x.mantissa.toDouble? ≠ some d := by
  intro same
  have digits := (inReach_of_toDouble? read nonzero).1
  have near := mantissa_bounds digits same nonzero
  have far := not_plain_bounds read nonzero scientific
  omega

end Decimal

/-! ## The mantissa as a number -/

theorem toDouble?_withSign {negative : Bool} {n : Nat} (nonzero : n ≠ 0) :
    (Number.integer (withSign negative n)).toDouble? =
      Decimal.toDouble? ⟨negative, n, 0⟩ := by
  have reach : Decimal.InReach ⟨negative, n, 0⟩ := ⟨by simp only; omega, by simp⟩
  have sign : decide (withSign negative n < 0) = negative := by
    cases negative with
    | true => simp [withSign, Nat.pos_of_ne_zero nonzero]
    | false => simp [withSign]
  have size : (withSign negative n).natAbs = n := by
    cases negative <;> simp [withSign]
  rw [Decimal.toDouble?_of_inReach nonzero reach, Number.toDouble?, Double.ofInt?, sign, size]
  exact congrArg (fun num => Double.ofUnits? negative (num * Double.one) 1) (Nat.mul_one n).symm

/-- What is written in front of an exponent is a number of its own, and its double is that of the
mantissa. -/
theorem number_mantissaChars {x : Decimal} (nonzero : x.digits ≠ 0) {d : Double}
    (read : x.mantissa.toDouble? = some d) :
    ∃ n, Text.Reader.run? Json.Reader.number (String.ofList x.mantissaChars) = some n ∧
      n.toDouble? = some d := by
  have run := Number.digitChars_run x.digits
  have value := Number.valueOf_digitChars x.digits
  obtain zero | ⟨c, digits, written, other⟩ := toDigits_unpadded x.digits
  · rw [Number.digitChars, zero] at value
    exact absurd value.symm nonzero
  have written : Number.digitChars x.digits = c :: digits := written
  rw [written] at run value
  obtain ⟨digit, others⟩ := List.forall_mem_cons.1 run
  have chars : (String.ofList x.mantissaChars).toList =
      signChars x.negative ++ c :: fractionChars digits := by
    rw [String.toList_ofList, Decimal.mantissaChars, written]
    rfl
  have mantissa : x.mantissa = ⟨x.negative, x.digits, 0 - (digits.length : Int)⟩ := by
    rw [Decimal.mantissa, written, List.length_cons]
    congr 1
    omega
  have power : optional? Json.Reader.exponent [] = some (none, []) := rfl
  rw [mantissa] at read
  simp only [run?_eq_some, chars, Json.Reader.number, bind_apply,
    Json.Reader.sign_signChars x.negative (ne_of_digit digit rfl),
    Json.Reader.wholeDigits_single digit other, Json.Reader.fraction_fractionChars others, power,
    Option.bind_some, List.singleton_append, value, Option.getD_none]
  cases digits with
  | nil =>
    have few := Number.lt_tenTo_length x.digits
    rw [written] at few
    have whole : Number.IsInteger (withSign x.negative x.digits) := by
      unfold Number.IsInteger withSign
      split <;> simp at few <;> omega
    refine ⟨.integer (withSign x.negative x.digits), ?_, (toDouble?_withSign nonzero).trans read⟩
    rw [if_pos ⟨rfl, rfl, whole, fun zero => nonzero zero.2⟩]
    rfl
  | cons d digits =>
    refine ⟨.double _, ?_, rfl⟩
    rw [if_neg (by simp), read]
    rfl

end Reshape
