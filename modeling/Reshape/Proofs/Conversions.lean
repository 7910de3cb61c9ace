import Reshape.Proofs.Chains
import Reshape.Proofs.Mantissa

/-!
# Numbers made texts and numbers again

`conversions_invert_text`: which chains of operations give a number back that they have made a text
of, and what they give instead.
-/

namespace Reshape

open Text

/-! ## Chains of conversions -/

/-- The text of the double has no exponent. -/
def Double.Plain (d : Double) : Prop := 'e' ∉ (Number.double d).chars

instance (d : Double) : Decidable d.Plain := by unfold Double.Plain; infer_instance

/-- Before the exponent there are digits and at most a point. -/
theorem mem_positionalChars {digits : List Char} (run : ∀ c ∈ digits, isDecimalDigit c = true)
    {exponent : Int} {c : Char} (member : c ∈ Number.positionalChars digits exponent) :
    isDecimalDigit c = true ∨ c = '.' := by
  unfold Number.positionalChars at member
  split at member
  · simp only [List.mem_append, List.mem_cons] at member
    obtain (rfl | rfl | zero) | digit := member
    · exact .inl rfl
    · exact .inr rfl
    · exact .inl (isDecimalDigit_of_mem_zeros zero)
    · exact .inl (run c digit)
  · simp only at member
    split at member
    · simp only [List.mem_append, List.mem_cons, List.not_mem_nil, or_false] at member
      obtain (digit | zero) | rfl | rfl := member
      · exact .inl (run c digit)
      · exact .inl (isDecimalDigit_of_mem_zeros zero)
      · exact .inr rfl
      · exact .inl rfl
    · simp only [List.mem_append, List.mem_cons] at member
      obtain front | rfl | back := member
      · exact .inl (run c (List.mem_of_mem_take front))
      · exact .inr rfl
      · exact .inl (run c (List.mem_of_mem_drop back))

theorem Double.plain_iff {d : Double} : d.Plain ↔ d.shortest.Plain := by
  rw [Double.Plain, Number.chars, decimalChars_eq, List.mem_append]
  constructor
  · intro absent
    by_contra scientific
    refine absent (.inr ?_)
    rw [if_neg scientific, Number.scientificChars]
    exact List.mem_append_right _ List.mem_cons_self
  · intro plain
    rw [if_pos plain]
    rintro (sign | digit)
    · cases negative : d.shortest.negative with
      | true =>
        rw [negative] at sign
        cases List.mem_singleton.1 sign
      | false =>
        rw [negative] at sign
        cases sign
    · obtain decimal | point := mem_positionalChars (Number.digitChars_run _) digit
      · cases decimal
      · cases point

/-- Zeros are written as zeros. -/
theorem Double.units_ne_zero_of_not_plain {d : Double} (scientific : ¬ d.shortest.Plain) :
    d.units ≠ 0 := by
  intro none
  have zero : d.shortest = ⟨d.negative, 0, 0⟩ := by rw [Double.shortest, if_pos none]
  have plain : (⟨d.negative, 0, 0⟩ : Decimal).Plain := by
    cases d.negative <;> decide
  rw [zero] at scientific
  exact scientific plain

/-- A double is read back from its text, and before an exponent the mantissa is. -/
theorem toDouble?_leadingDecimal_double (d : Double) :
    (leadingDecimal (Number.double d).text).toDouble? =
      if d.shortest.Plain then some d else d.shortest.mantissa.toDouble? := by
  rw [Number.text, Number.chars]
  by_cases plain : d.shortest.Plain
  · rw [if_pos plain, toDouble?_leadingDecimal plain, d.toDouble?_shortest]
  · rw [if_neg plain, decimalChars_eq, if_neg plain, leadingDecimal_scientific]

theorem toDouble?_mantissa_shortest_ne {d : Double} (scientific : ¬ d.shortest.Plain) :
    d.shortest.mantissa.toDouble? ≠ some d :=
  Decimal.toDouble?_mantissa_ne d.toDouble?_shortest
    (Double.units_ne_zero_of_not_plain scientific) scientific

/-- In the text of a double that is not plain, a number stands in front of the exponent. -/
theorem Double.exists_front {d read : Double} (scientific : ¬ d.shortest.Plain)
    (nearest : d.shortest.mantissa.toDouble? = some read) :
    ∃ front power n, (Number.double d).text = front ++ "e" ++ power ∧ 'e' ∉ front.toList ∧
      Text.Reader.run? Json.Reader.number front = some n ∧ n.toDouble? = some read := by
  have digits := (Decimal.inReach_of_toDouble? d.toDouble?_shortest
    (Double.units_ne_zero_of_not_plain scientific)).1
  obtain ⟨n, number, same⟩ := number_mantissaChars digits nearest
  let exponent := d.shortest.leadingExponent
  refine ⟨String.ofList d.shortest.mantissaChars, String.ofList
    ((if exponent < 0 then '-' else '+') :: Number.digitChars exponent.natAbs), n, ?_, ?_, number,
    same⟩
  · rw [Number.text, Number.chars, decimalChars_eq, if_neg scientific, scientificChars_eq]
    refine String.toList_inj.1 ?_
    simp [String.toList_append, exponent]
  · rw [String.toList_ofList]
    exact exponent_not_mem_mantissaChars _

namespace Registry

/-- A number is made a text, and the text a number. -/
theorem applyAll_reading {name : String} {operation : Operation} (n : Number)
    (resolves : initial.Resolves (.named name) (.string n.text) operation) :
    initial.applyAll true [.named "to_s", .named name] (.number n) =
      .ok (operation (.string n.text)) := by
  have text : initial.Resolves (.named "to_s") (.number n) Capabilities.toText :=
    resolves_iff.2 rfl
  have written : Capabilities.toText (.number n) = .string n.text := by
    rw [Capabilities.toText, Json.compact]
    all_goals nofun
  rw [applyAll_cons (apply_of_resolves text true), written,
    applyAll_cons (apply_of_resolves resolves true)]
  rfl

theorem applyAll_toInt (n : Int) :
    initial.applyAll true [.named "to_s", .named "to_i"] (.ofInt n) =
      .ok (.ofInt (if Number.IsSigned n then n else 0)) := by
  have resolves : initial.Resolves (.named "to_i") (.string (Number.integer n).text)
      (Capabilities.onString fun s => .ofInt (leadingInt s)) :=
    resolves_iff.2 rfl
  have read := leadingInt_integerChars n
  rw [Json.ofInt, applyAll_reading _ resolves, ← read]
  rfl

theorem applyAll_toDouble (d : Double) :
    initial.applyAll true [.named "to_s", .named "to_f"] (.number (.double d)) =
      .ok (.ofDouble?
        (if d.shortest.Plain then some d else d.shortest.mantissa.toDouble?)) := by
  have resolves : initial.Resolves (.named "to_f") (.string (Number.double d).text)
      (Capabilities.onString fun s => .ofDouble? (leadingDecimal s).toDouble?) :=
    resolves_iff.2 rfl
  rw [applyAll_reading _ resolves, Capabilities.onString, toDouble?_leadingDecimal_double]

theorem ofDouble?_eq_iff {read : Option Double} {d : Double} :
    Json.ofDouble? read = .number (.double d) ↔ read = some d := by
  cases read <;> simp [Json.ofDouble?]

/-- **Conversions invert text.** An integer of a signed word of 64 bits that is made a text and read
as an integer again comes back. A double that is made a text and read as a double again always gives
a value, and comes back just when its text has no exponent. With an exponent it comes back as the
number in front of that. -/
theorem conversions_invert_text :
    (∀ n : Int, Number.IsSigned n →
      initial.applyAll true [.named "to_s", .named "to_i"] (.ofInt n) = .ok (.ofInt n)) ∧
    ∀ d : Double, ∃ value,
      initial.applyAll true [.named "to_s", .named "to_f"] (.number (.double d)) = .ok value ∧
        (value = .number (.double d) ↔ d.Plain) ∧
        (¬ d.Plain → ∃ front power n read, (Number.double d).text = front ++ "e" ++ power ∧
          'e' ∉ front.toList ∧ Text.Reader.run? Json.Reader.number front = some n ∧
          n.toDouble? = some read ∧ value = .number (.double read)) := by
  constructor
  · intro n signed
    rw [applyAll_toInt, if_pos signed]
  · intro d
    refine ⟨_, applyAll_toDouble d, ?_, ?_⟩
    · rw [ofDouble?_eq_iff, Double.plain_iff]
      constructor
      · intro read
        by_contra scientific
        rw [if_neg scientific] at read
        exact toDouble?_mantissa_shortest_ne scientific read
      · intro plain
        rw [if_pos plain]
    · rw [Double.plain_iff]
      intro scientific
      obtain ⟨read, nearest⟩ := Decimal.exists_toDouble?_mantissa d.shortest
      obtain ⟨front, power, n, text, first, number, same⟩ := Double.exists_front scientific nearest
      rw [if_neg scientific, nearest]
      exact ⟨front, power, n, read, text, first, number, same, rfl⟩

/-- The least integer of a signed word and the double 8.95 come back. -/
theorem least_integer_and_price_return :
    let price : Double := (Decimal.toDouble? ⟨false, 895, -2⟩).get (by decide +kernel)
    Number.IsSigned (-0x8000000000000000) ∧
      initial.applyAll true [.named "to_s", .named "to_i"] (.ofInt (-0x8000000000000000)) =
        .ok (.ofInt (-0x8000000000000000)) ∧
      initial.applyAll true [.named "to_s", .named "to_f"] (.number (.double price)) =
        .ok (.number (.double price)) := by
  intro price
  have signed : Number.IsSigned (-0x8000000000000000) := by decide
  have plain : price.Plain := by decide +kernel
  obtain ⟨value, read, same, -⟩ := conversions_invert_text.2 price
  rw [same.2 plain] at read
  exact ⟨signed, conversions_invert_text.1 _ signed, read⟩

/-- Past the signed words an integer comes back as zero, and `1e+16` is read up to its exponent. -/
theorem large_numbers_change :
    let large : Double := (Double.ofInt? 10000000000000000).get (by decide +kernel)
    let one : Double := (Double.ofInt? 1).get (by decide +kernel)
    Number.IsInteger 0x8000000000000000 ∧
      initial.applyAll true [.named "to_s", .named "to_i"] (.ofInt 0x8000000000000000) =
        .ok (.ofInt 0) ∧
      initial.applyAll true [.named "to_s", .named "to_f"] (.number (.double large)) =
        .ok (.number (.double one)) ∧
      large ≠ one := by
  intro large one
  have scientific : ¬ large.shortest.Plain := by decide +kernel
  have read : large.shortest.mantissa.toDouble? = some one := by decide +kernel
  refine ⟨by decide, applyAll_toInt _, ?_, by decide +kernel⟩
  rw [applyAll_toDouble, if_neg scientific, read]
  rfl

end Registry

end Reshape
