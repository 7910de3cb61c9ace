import Reshape.Proofs.Chains
import Reshape.Proofs.LeadingIntegers
import Reshape.Proofs.Rounding

/-!
# Numbers written and read again

What the leading numerals of texts are where the texts are numbers as they are written:

* `leadingInt_integerChars`: an integer is read back if a signed word holds it;
* `leadingDecimal_signed` says what is read of digits, a point and digits, whatever follows, and
  `toDouble?_leadingDecimal` from it that a decimal in plain form is read back;
* `leadingDecimal_scientific`: before an exponent the reading stops, so what is read is the
  mantissa.
-/

namespace Reshape

/-! ## Runs of digits -/

namespace Text

theorem isBlank_of_digit {c : Char} (digit : isDecimalDigit c = true) : isBlank c = false := by
  obtain ⟨d, small, rfl⟩ := isDecimalDigit_iff.1 digit
  clear digit
  decide +revert

theorem isDecimalDigit_of_mem_zeros {count : Nat} {c : Char}
    (member : c ∈ List.replicate count '0') : isDecimalDigit c = true := by
  rw [List.eq_of_mem_replicate member]
  rfl

/-- Zeros in front of a run of digits do not count. -/
theorem valueOf_zeros_append (count : Nat) (digits : List Char) :
    valueOf 10 (List.replicate count '0' ++ digits) = valueOf 10 digits := by
  induction count with
  | zero => rfl
  | succ count ih => rw [List.replicate_succ, List.cons_append, valueOf_zero_cons, ih]

/-- Each zero at the end of a run of digits counts ten times. -/
theorem valueOf_append_zeros (digits : List Char) (count : Nat) :
    valueOf 10 (digits ++ List.replicate count '0') = valueOf 10 digits * 10 ^ count := by
  induction count with
  | zero => simp
  | succ count ih =>
    have last := valueOf_concat (digits ++ List.replicate count '0') (d := 0) (by decide)
    rw [List.replicate_succ', ← List.append_assoc]
    refine last.trans ?_
    rw [ih, Nat.add_zero, Nat.pow_succ, Nat.mul_assoc]

theorem stop_nil : ∀ c ∈ ([] : List Char).head?, isDecimalDigit c = false := nofun

theorem stop_cons {c : Char} (other : isDecimalDigit c = false) (rest : List Char) :
    ∀ d ∈ (c :: rest).head?, isDecimalDigit d = false := by
  intro d first
  cases first
  exact other

theorem takeWhile_digits {digits rest : List Char}
    (run : ∀ c ∈ digits, isDecimalDigit c = true)
    (stop : ∀ c ∈ rest.head?, isDecimalDigit c = false) :
    (digits ++ rest).takeWhile isDecimalDigit = digits ∧
      (digits ++ rest).dropWhile isDecimalDigit = rest := by
  rw [List.takeWhile_append_of_pos run, List.dropWhile_append_of_pos run]
  cases rest with
  | nil => simp
  | cons c rest => simp [stop c rfl]

end Text

open Text

/-- What is written in front of a number. -/
def signChars : Bool → List Char
  | true => ['-']
  | false => []

theorem splitSign_signed (negative : Bool) {digits : List Char}
    (run : ∀ c ∈ digits, isDecimalDigit c = true) (nonempty : digits ≠ []) (rest : List Char) :
    splitSign (trimStartChars (signChars negative ++ (digits ++ rest))) =
      (negative, digits ++ rest) := by
  obtain ⟨c, digits, rfl⟩ := List.exists_cons_of_ne_nil nonempty
  have digit := run c List.mem_cons_self
  have solid : ∀ d ∈ (signChars negative ++ (c :: digits ++ rest)).head?, isBlank d = false := by
    cases negative with
    | true =>
      intro d first
      cases first
      rfl
    | false =>
      intro d first
      cases first
      exact isBlank_of_digit digit
  rw [trimStartChars_eq_self_iff.2 solid]
  cases negative with
  | true => rfl
  | false =>
    have minus : c ≠ '-' := ne_of_digit digit rfl
    have plus : c ≠ '+' := ne_of_digit digit rfl
    simp [signChars, splitSign, minus, plus]

namespace Number

theorem digitChars_run (n : Nat) : ∀ c ∈ digitChars n, isDecimalDigit c = true :=
  fun _ => isDecimalDigit_of_mem_toDigits

theorem digitChars_ne_nil (n : Nat) : digitChars n ≠ [] := Nat.toDigits_ne_nil

theorem valueOf_digitChars (n : Nat) : valueOf 10 (digitChars n) = n := valueOf_toDigits n

theorem digitChars_length_pos (n : Nat) : 0 < (digitChars n).length := Nat.length_toDigits_pos

theorem lt_tenTo_length (n : Nat) : n < 10 ^ (digitChars n).length :=
  (Nat.length_toDigits_le_iff (by decide) (digitChars_length_pos n)).1 (Nat.le_refl _)

theorem tenTo_length_le {n : Nat} (nonzero : n ≠ 0) : 10 ^ ((digitChars n).length - 1) ≤ n := by
  by_cases several : 0 < (digitChars n).length - 1
  · have fewer := Nat.length_toDigits_le_iff (n := n) (b := 10) (by decide) several
    have positive := digitChars_length_pos n
    apply Nat.le_of_not_lt
    intro less
    have short : (digitChars n).length ≤ (digitChars n).length - 1 := fewer.2 less
    omega
  · rw [Nat.eq_zero_of_not_pos several, Nat.pow_zero]
    exact Nat.pos_of_ne_zero nonzero

end Number

/-! ## Integers -/

theorem withSign_natAbs (n : Int) : withSign (decide (n < 0)) n.natAbs = n := by
  unfold withSign
  by_cases negative : n < 0
  · simp only [negative, decide_true, if_true]
    omega
  · simp only [negative, decide_false, Bool.false_eq_true, if_false]
    omega

/-- The characters of an integer are a sign, if it is negative, and digits. -/
theorem opens_integerChars (n : Int) :
    Opens (Number.integerChars n) [] (signChars (decide (n < 0))) (Number.digitChars n.natAbs)
      [] := by
  have run := Number.digitChars_run n.natAbs
  obtain ⟨c, rest, digits⟩ := List.exists_cons_of_ne_nil (Number.digitChars_ne_nil n.natAbs)
  have digit : isDecimalDigit c = true := run c (digits ▸ List.mem_cons_self)
  refine ⟨?_, nofun, ?_, ?_, run, nofun⟩
  · rw [List.append_nil, Number.integerChars]
    by_cases negative : n < 0
    · simp [negative, signChars]
    · simp [negative, signChars]
  · rw [digits]
    cases decide (n < 0) with
    | true =>
      rintro d ⟨⟩
      rfl
    | false =>
      rintro d ⟨⟩
      exact isBlank_of_digit digit
  · rw [digits]
    cases decide (n < 0) with
    | true => exact .inl rfl
    | false =>
      refine .inr (.inr ⟨rfl, ?_⟩)
      rintro d ⟨⟩
      exact ⟨ne_of_digit digit rfl, ne_of_digit digit rfl⟩

/-- An integer is read back if a signed word holds it, and as zero otherwise. -/
theorem leadingInt_integerChars (n : Int) :
    leadingInt (String.ofList (Number.integerChars n)) = if Number.IsSigned n then n else 0 := by
  have opens : Opens (String.ofList (Number.integerChars n)).toList [] (signChars (decide (n < 0)))
      (Number.digitChars n.natAbs) [] := by
    rw [String.toList_ofList]
    exact opens_integerChars n
  have sign : decide (signChars (decide (n < 0)) = ['-']) = decide (n < 0) := by
    cases decide (n < 0) <;> rfl
  rw [leadingInt_opens opens, sign, Number.valueOf_digitChars, withSign_natAbs]
  simp [Number.digitChars_ne_nil]

/-! ## Decimals -/

/-- The digits behind a point. -/
def placesOf : List Char → List Char
  | '.' :: tail => tail.takeWhile isDecimalDigit
  | _ => []

theorem placesOf_point {digits rest : List Char} (run : ∀ c ∈ digits, isDecimalDigit c = true)
    (stop : ∀ c ∈ rest.head?, isDecimalDigit c = false) :
    placesOf ('.' :: (digits ++ rest)) = digits :=
  (takeWhile_digits run stop).1

/-- Digits and what stands behind a point after them are read as one decimal. -/
theorem leadingDecimal_signed (negative : Bool) (whole rest : List Char)
    (run : ∀ c ∈ whole, isDecimalDigit c = true) (nonempty : whole ≠ [])
    (stop : ∀ c ∈ rest.head?, isDecimalDigit c = false) :
    leadingDecimal (String.ofList (signChars negative ++ (whole ++ rest))) =
      ⟨negative, valueOf 10 (whole ++ placesOf rest), -(placesOf rest).length⟩ := by
  have split := splitSign_signed negative run nonempty rest
  obtain ⟨digits, after⟩ := takeWhile_digits run stop
  have some : whole.isEmpty = false := List.isEmpty_eq_false_iff.2 nonempty
  simp only [leadingDecimal, String.toList_ofList, split, digits, after, some, Bool.false_eq_true,
    false_and, if_false]
  rfl

namespace Decimal

/-- The power of ten that the first digit counts. -/
def leadingExponent (x : Decimal) : Int := x.exponent + (Number.digitChars x.digits).length - 1

/-- The decimal is written without an exponent. -/
def Plain (x : Decimal) : Prop := Number.positional x.leadingExponent = true

instance (x : Decimal) : Decidable x.Plain := by unfold Plain; infer_instance

/-- The decimal with its point behind the first digit. -/
def mantissa (x : Decimal) : Decimal :=
  ⟨x.negative, x.digits, 1 - ((Number.digitChars x.digits).length : Int)⟩

end Decimal

/-- The digits of a number with a point among them or right behind them. -/
theorem leadingDecimal_pointed (negative : Bool) (n : Nat) {place : Nat} (inside : 0 < place)
    {rest : List Char} (stop : ∀ c ∈ rest.head?, isDecimalDigit c = false) :
    leadingDecimal (String.ofList (signChars negative ++
      ((Number.digitChars n).take place ++ '.' :: ((Number.digitChars n).drop place ++ rest)))) =
        ⟨negative, n, -((Number.digitChars n).length - place : Nat)⟩ := by
  have run := Number.digitChars_run n
  have front : ∀ c ∈ (Number.digitChars n).take place, isDecimalDigit c = true :=
    fun c member => run c (List.mem_of_mem_take member)
  have places : ∀ c ∈ (Number.digitChars n).drop place, isDecimalDigit c = true :=
    fun c member => run c (List.mem_of_mem_drop member)
  have nonempty : (Number.digitChars n).take place ≠ [] := by
    intro none
    obtain zero | empty := List.take_eq_nil_iff.1 none
    · omega
    · exact Number.digitChars_ne_nil n empty
  rw [leadingDecimal_signed negative _ _ front nonempty (stop_cons rfl _),
    placesOf_point places stop, List.take_append_drop, Number.valueOf_digitChars, List.length_drop]

section

variable (x : Decimal)

/-- A leading zero, a point and zeros in front of the digits: all of it is read. -/
theorem leadingDecimal_below_one (below : x.leadingExponent < 0) :
    leadingDecimal (String.ofList (signChars x.negative ++
      Number.positionalChars (Number.digitChars x.digits) x.leadingExponent)) = x := by
  let zeros := List.replicate (-x.leadingExponent - 1).toNat '0'
  let digits := Number.digitChars x.digits
  have places : ∀ c ∈ zeros ++ digits, isDecimalDigit c = true :=
    List.forall_mem_append.2 ⟨fun _ => isDecimalDigit_of_mem_zeros, Number.digitChars_run _⟩
  have read := leadingDecimal_signed x.negative ['0'] ('.' :: (zeros ++ digits ++ []))
    (List.forall_mem_singleton.2 rfl) (List.cons_ne_nil _ _) (stop_cons rfl _)
  have chars : Number.positionalChars digits x.leadingExponent =
      ['0'] ++ '.' :: (zeros ++ digits ++ []) := by
    rw [Number.positionalChars, if_pos below, List.append_nil]
    rfl
  have value : valueOf 10 (['0'] ++ (zeros ++ digits)) = x.digits := by
    rw [List.singleton_append, valueOf_zero_cons, valueOf_zeros_append, Number.valueOf_digitChars]
  have count : -((zeros ++ digits).length : Int) = x.exponent := by
    have length : zeros.length = (-x.leadingExponent - 1).toNat := List.length_replicate
    have leading : x.leadingExponent = x.exponent + digits.length - 1 := rfl
    rw [List.length_append]
    omega
  rw [chars, read, placesOf_point places stop_nil, value, count]

/-- A point among the digits: all of it is read. -/
theorem leadingDecimal_among (above : 0 ≤ x.leadingExponent)
    (fraction : x.leadingExponent.toNat + 1 < (Number.digitChars x.digits).length) :
    leadingDecimal (String.ofList (signChars x.negative ++
      Number.positionalChars (Number.digitChars x.digits) x.leadingExponent)) = x := by
  have chars : Number.positionalChars (Number.digitChars x.digits) x.leadingExponent =
      (Number.digitChars x.digits).take (x.leadingExponent.toNat + 1) ++
        '.' :: ((Number.digitChars x.digits).drop (x.leadingExponent.toNat + 1) ++ []) := by
    rw [Number.positionalChars, if_neg (Int.not_lt.2 above), List.append_nil]
    exact if_neg (Nat.not_le.2 fraction)
  have count : -(((Number.digitChars x.digits).length - (x.leadingExponent.toNat + 1) : Nat) : Int) =
      x.exponent := by
    have leading : x.leadingExponent = x.exponent + (Number.digitChars x.digits).length - 1 := rfl
    omega
  rw [chars, leadingDecimal_pointed x.negative x.digits (Nat.succ_pos _) stop_nil, count]

/-- The digits are filled up with zeros to the point: one zero more is read behind it. -/
theorem leadingDecimal_whole (above : 0 ≤ x.leadingExponent)
    (whole : (Number.digitChars x.digits).length ≤ x.leadingExponent.toNat + 1) :
    leadingDecimal (String.ofList (signChars x.negative ++
      Number.positionalChars (Number.digitChars x.digits) x.leadingExponent)) =
        ⟨x.negative, x.digits * 10 ^ (x.exponent.toNat + 1), -1⟩ := by
  let digits := Number.digitChars x.digits
  let zeros := List.replicate x.exponent.toNat '0'
  have front : ∀ c ∈ digits ++ zeros, isDecimalDigit c = true :=
    List.forall_mem_append.2 ⟨Number.digitChars_run _, fun _ => isDecimalDigit_of_mem_zeros⟩
  have nonempty : digits ++ zeros ≠ [] :=
    List.append_ne_nil_of_left_ne_nil (Number.digitChars_ne_nil _) _
  have read := leadingDecimal_signed x.negative (digits ++ zeros) ('.' :: (['0'] ++ []))
    front nonempty (stop_cons rfl _)
  have chars : Number.positionalChars digits x.leadingExponent =
      digits ++ zeros ++ '.' :: (['0'] ++ []) := by
    have leading : x.leadingExponent = x.exponent + digits.length - 1 := rfl
    have room : digits.length ≤ x.leadingExponent.toNat + 1 := whole
    have fill : x.leadingExponent.toNat + 1 - digits.length = x.exponent.toNat := by omega
    rw [Number.positionalChars, if_neg (Int.not_lt.2 above)]
    refine (if_pos room).trans ?_
    rw [fill]
    rfl
  have value : valueOf 10 (digits ++ zeros ++ ['0']) =
      x.digits * 10 ^ (x.exponent.toNat + 1) := by
    have more : zeros ++ ['0'] = List.replicate (x.exponent.toNat + 1) '0' :=
      List.replicate_succ'.symm
    rw [List.append_assoc, more, valueOf_append_zeros, Number.valueOf_digitChars]
  rw [chars, read, placesOf_point (List.forall_mem_singleton.2 rfl) stop_nil, value]
  rfl

/-- The reading stops in front of an exponent. -/
theorem leadingDecimal_scientific (exponent : Int) :
    leadingDecimal (String.ofList (signChars x.negative ++
      Number.scientificChars (Number.digitChars x.digits) exponent)) = x.mantissa := by
  let tail := 'e' :: (if exponent < 0 then '-' else '+') :: Number.digitChars exponent.natAbs
  have positive := Number.digitChars_length_pos x.digits
  by_cases single : (Number.digitChars x.digits).length ≤ 1
  · have chars : Number.scientificChars (Number.digitChars x.digits) exponent =
        Number.digitChars x.digits ++ tail := by
      rw [Number.scientificChars, if_pos single, List.append_nil, List.take_of_length_le single]
    have none : placesOf tail = [] := rfl
    have count : (0 : Int) = 1 - (Number.digitChars x.digits).length := by omega
    rw [chars, leadingDecimal_signed x.negative _ tail (Number.digitChars_run _)
      (Number.digitChars_ne_nil _) (stop_cons rfl _), none, List.append_nil,
      Number.valueOf_digitChars, Decimal.mantissa, ← count]
    rfl
  · have chars : Number.scientificChars (Number.digitChars x.digits) exponent =
        (Number.digitChars x.digits).take 1 ++
          '.' :: ((Number.digitChars x.digits).drop 1 ++ tail) := by
      rw [Number.scientificChars, if_neg single, List.append_assoc, List.cons_append]
    have count : -(((Number.digitChars x.digits).length - 1 : Nat) : Int) =
        1 - (Number.digitChars x.digits).length := by
      omega
    rw [chars, leadingDecimal_pointed x.negative x.digits Nat.one_pos (stop_cons rfl _), count]
    rfl

theorem decimalChars_eq :
    Number.decimalChars x = signChars x.negative ++
      if x.Plain then
        Number.positionalChars (Number.digitChars x.digits) x.leadingExponent
      else Number.scientificChars (Number.digitChars x.digits) x.leadingExponent := by
  have sign : (if x.negative then ['-'] else []) = signChars x.negative := by
    cases x.negative <;> rfl
  rw [Number.decimalChars, sign]
  rfl

end

/-- A decimal in plain form is read back up to zeros at its end, which do not change the double. -/
theorem toDouble?_leadingDecimal {x : Decimal} (plain : x.Plain) :
    (leadingDecimal (String.ofList (Number.decimalChars x))).toDouble? = x.toDouble? := by
  rw [decimalChars_eq, if_pos plain]
  by_cases below : x.leadingExponent < 0
  · rw [leadingDecimal_below_one x below]
  · have above : 0 ≤ x.leadingExponent := Int.not_lt.1 below
    by_cases whole : (Number.digitChars x.digits).length ≤ x.leadingExponent.toNat + 1
    · have leading : x.leadingExponent = x.exponent + (Number.digitChars x.digits).length - 1 := rfl
      have range : -5 ≤ x.leadingExponent ∧ x.leadingExponent ≤ 15 := by
        simpa [Decimal.Plain, Number.positional] using plain
      have positive := Number.digitChars_length_pos x.digits
      rw [leadingDecimal_whole x above whole]
      exact Decimal.toDouble?_placed (by omega) (by omega)
    · rw [leadingDecimal_among x above (Nat.not_le.1 whole)]

end Reshape
