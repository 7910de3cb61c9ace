import Reshape.Text.Digits

/-!
# Decimal numerals

Runs of decimal digits against the digits that a natural is written with:

* `isDecimalDigit_iff`: the decimal digits are those that naturals are written with;
* `valueOf_toDigits`: the digits that a natural is written with spell it;
* `toDigits_unpadded`: a natural is written without a zero in front, unless it is zero;
* `toDigits_valueOf`: a run that does not start with a zero is what its value is written with;
* `valueOf_zero_cons`: a zero in front does not count.
-/

namespace Reshape.Text

/-! ## One digit -/

theorem digit?_digitChar {d : Nat} (small : d < 10) : digit? 10 d.digitChar = some d := by
  decide +revert

theorem digitChar_of_digit? {c : Char} {d : Nat} (h : digit? 10 c = some d) :
    d < 10 ∧ c = d.digitChar := by
  unfold digit? at h
  by_cases decimal : '0' ≤ c ∧ c ≤ '9'
  · have low : 48 ≤ c.toNat := decimal.1
    have high : c.toNat ≤ 57 := decimal.2
    have small : c.toNat - 48 < 10 := by omega
    simp only [decimal, and_self, if_true, Char.reduceToNat, small, Option.some.injEq] at h
    subst h
    refine ⟨small, Char.toNat_inj.1 ?_⟩
    rw [Nat.toNat_digitChar_of_lt_ten small]
    omega
  -- A letter counts ten or more, and anything else counts as ten.
  · grind

/-- The decimal digits are those that naturals are written with. -/
theorem isDecimalDigit_iff {c : Char} : isDecimalDigit c = true ↔ ∃ d < 10, c = d.digitChar := by
  rw [isDecimalDigit, isDigitIn, Option.isSome_iff_exists]
  constructor
  · rintro ⟨d, found⟩
    exact ⟨d, digitChar_of_digit? found⟩
  · rintro ⟨d, small, rfl⟩
    exact ⟨d, digit?_digitChar small⟩

theorem ne_of_digit {c d : Char} (digit : isDecimalDigit c = true)
    (other : isDecimalDigit d = false) : c ≠ d := by
  rintro rfl
  simp [digit] at other

/-! ## Runs of digits -/

theorem isDecimalDigit_of_mem_toDigits {n : Nat} {c : Char} (member : c ∈ Nat.toDigits 10 n) :
    isDecimalDigit c = true := by
  induction n using Nat.base_induction 10 (by decide) with
  | single d small =>
    rw [Nat.toDigits_of_lt_base small, List.mem_singleton] at member
    exact isDecimalDigit_iff.2 ⟨d, small, member⟩
  | digit n d small positive ih =>
    rw [← Nat.toDigits_append_toDigits (by decide) positive small, List.mem_append,
      Nat.toDigits_of_lt_base small, List.mem_singleton] at member
    obtain earlier | last := member
    · exact ih earlier
    · exact isDecimalDigit_iff.2 ⟨d, small, last⟩

theorem valueOf_concat (digits : List Char) {d : Nat} (small : d < 10) :
    valueOf 10 (digits ++ [d.digitChar]) = valueOf 10 digits * 10 + d := by
  simp [valueOf, digit?_digitChar small]

theorem valueOf_zero_cons (digits : List Char) : valueOf 10 ('0' :: digits) = valueOf 10 digits :=
  rfl

/-- The digits that a natural is written with spell it. -/
theorem valueOf_toDigits (n : Nat) : valueOf 10 (Nat.toDigits 10 n) = n := by
  induction n using Nat.base_induction 10 (by decide) with
  | single d small =>
    have last := valueOf_concat [] small
    rw [Nat.toDigits_of_lt_base small]
    simpa [valueOf] using last
  | digit n d small positive ih =>
    rw [← Nat.toDigits_append_toDigits (by decide) positive small, Nat.toDigits_of_lt_base small,
      valueOf_concat _ small, ih, Nat.mul_comm]

/-- Only zero is written with a zero in front. -/
theorem toDigits_unpadded (n : Nat) :
    Nat.toDigits 10 n = ['0'] ∨ ∃ c digits, Nat.toDigits 10 n = c :: digits ∧ c ≠ '0' := by
  induction n using Nat.base_induction 10 (by decide) with
  | single d small =>
    rw [Nat.toDigits_of_lt_base small]
    by_cases zero : d = 0
    · exact .inl (by rw [zero]; rfl)
    · exact .inr ⟨d.digitChar, [], rfl, by decide +revert⟩
  | digit n d small positive ih =>
    rw [← Nat.toDigits_append_toDigits (by decide) positive small]
    obtain zero | ⟨c, digits, written, nonzero⟩ := ih
    · have value := valueOf_toDigits n
      rw [zero] at value
      exact absurd value.symm (Nat.ne_of_gt positive)
    · exact .inr ⟨c, digits ++ Nat.toDigits 10 d, by rw [written, List.cons_append], nonzero⟩

/-- Digits that follow a positive natural go on with its digits. -/
theorem toDigits_foldl {digits : List Char} (decimal : ∀ c ∈ digits, isDecimalDigit c = true)
    {start : Nat} (positive : 0 < start) :
    Nat.toDigits 10 (digits.foldl (fun value c => value * 10 + (digit? 10 c).getD 0) start) =
      Nat.toDigits 10 start ++ digits := by
  induction digits generalizing start with
  | nil => simp
  | cons c digits ih =>
    obtain ⟨first, others⟩ := List.forall_mem_cons.1 decimal
    obtain ⟨d, small, rfl⟩ := isDecimalDigit_iff.1 first
    have next : 0 < start * 10 + d := by omega
    have written := Nat.toDigits_append_toDigits (b := 10) (by decide) positive small
    rw [List.foldl_cons, digit?_digitChar small, Option.getD_some, ih others next, Nat.mul_comm,
      ← written, Nat.toDigits_of_lt_base small]
    simp

/-- A run of digits that does not start with a zero is what its value is written with. -/
theorem toDigits_valueOf {first : Char} {rest : List Char} (digit : isDecimalDigit first = true)
    (digits : ∀ c ∈ rest, isDecimalDigit c = true) (nonzero : first ≠ '0') :
    Nat.toDigits 10 (valueOf 10 (first :: rest)) = first :: rest := by
  obtain ⟨d, small, rfl⟩ := isDecimalDigit_iff.1 digit
  have positive : 0 < d := Nat.pos_of_ne_zero fun zero => nonzero (by rw [zero]; rfl)
  rw [valueOf, List.foldl_cons, digit?_digitChar small, Option.getD_some, Nat.zero_mul,
    Nat.zero_add, toDigits_foldl digits positive, Nat.toDigits_of_lt_base small]
  rfl

theorem toDigits_valueOf_single {c : Char} (digit : isDecimalDigit c = true) :
    Nat.toDigits 10 (valueOf 10 [c]) = [c] := by
  obtain ⟨d, small, rfl⟩ := isDecimalDigit_iff.1 digit
  have value : valueOf 10 [d.digitChar] = d := by simp [valueOf, digit?_digitChar small]
  rw [value, Nat.toDigits_of_lt_base small]

end Reshape.Text
