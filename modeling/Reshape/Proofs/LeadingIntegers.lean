import Mathlib.Algebra.Group.Int.Defs
import Reshape.Capability.Numeral
import Reshape.Proofs.Digits
import Reshape.Proofs.Trimming

/-!
# Integers at the start of texts

What `leadingInt` makes of a text, which it scans byte by byte, cuts and reads digit by digit:

* `Text.Opens` describes the start of a text: blanks, at most one sign, and as many digits as there
  are;
* `cut?_integerEnd`: the scan ends behind these digits, which is the end of a character;
* `readOn?_withSign`: no step of the reading leaves 64 bits unless the whole integer does;
* `leading_integers_read` puts these together.
-/

namespace Reshape

open Text

namespace Text

/-- How characters start: blanks, a sign if there is one, and all digits that follow. What is left
starts with nothing that could have been taken. -/
structure Opens (s blanks sign digits rest : List Char) : Prop where
  whole : s = blanks ++ (sign ++ (digits ++ rest))
  blank : ∀ c ∈ blanks, isBlank c = true
  solid : ∀ c ∈ (sign ++ (digits ++ rest)).head?, isBlank c = false
  single : sign = ['-'] ∨ sign = ['+'] ∨
    sign = [] ∧ ∀ c ∈ (digits ++ rest).head?, c ≠ '-' ∧ c ≠ '+'
  decimal : ∀ c ∈ digits, isDecimalDigit c = true
  stop : ∀ c ∈ rest.head?, isDecimalDigit c = false

theorem not_of_mem_head?_dropWhile {p : Char → Bool} {s : List Char} :
    ∀ c ∈ (s.dropWhile p).head?, p c = false := by
  intro c first
  have stops := List.head?_dropWhile_not p s
  rw [Option.mem_def.1 first] at stops
  exact stops

/-- Every text starts in such a way. -/
theorem exists_opens (s : List Char) :
    ∃ blanks sign digits rest, Opens s blanks sign digits rest := by
  let inner := trimStartChars s
  have split : s = s.takeWhile isBlank ++ inner := (List.takeWhile_append_dropWhile).symm
  have blank : ∀ c ∈ s.takeWhile isBlank, isBlank c = true := fun _ => List.mem_takeWhile_imp
  have solid : ∀ c ∈ inner.head?, isBlank c = false := not_of_mem_head?_dropWhile
  have digits (t : List Char) : t = t.takeWhile isDecimalDigit ++ t.dropWhile isDecimalDigit :=
    (List.takeWhile_append_dropWhile).symm
  have decimal (t : List Char) : ∀ c ∈ t.takeWhile isDecimalDigit, isDecimalDigit c = true :=
    fun _ => List.mem_takeWhile_imp
  by_cases signed : ∃ c t, inner = c :: t ∧ (c = '-' ∨ c = '+')
  · obtain ⟨c, t, same, sign⟩ := signed
    refine ⟨_, [c], _, t.dropWhile isDecimalDigit, ⟨?_, blank, ?_, ?_, decimal t,
      not_of_mem_head?_dropWhile⟩⟩
    · rw [← digits t, List.singleton_append, ← same, ← split]
    · rwa [← digits t, List.singleton_append, ← same]
    · obtain rfl | rfl := sign
      · exact .inl rfl
      · exact .inr (.inl rfl)
  · refine ⟨_, [], _, inner.dropWhile isDecimalDigit, ⟨?_, blank, ?_, .inr (.inr ⟨rfl, ?_⟩),
      decimal inner, not_of_mem_head?_dropWhile⟩⟩
    · rw [← digits inner, List.nil_append, ← split]
    · rwa [← digits inner, List.nil_append]
    · rw [← digits inner]
      intro c first
      obtain ⟨t, same⟩ := List.head?_eq_some_iff.1 first
      exact ⟨fun minus => signed ⟨c, t, same, .inl minus⟩,
        fun plus => signed ⟨c, t, same, .inr plus⟩⟩

variable {s blanks sign digits rest : List Char}

theorem Opens.trimStartChars (opens : Opens s blanks sign digits rest) :
    trimStartChars s = sign ++ (digits ++ rest) := by
  rw [opens.whole, Text.trimStartChars, List.dropWhile_append_of_pos opens.blank]
  exact trimStartChars_eq_self_iff.2 opens.solid

theorem Opens.splitSign (opens : Opens s blanks sign digits rest) :
    splitSign (sign ++ digits) = (decide (sign = ['-']), digits) := by
  obtain rfl | rfl | ⟨rfl, other⟩ := opens.single
  · rfl
  · rfl
  · cases digits with
    | nil => rfl
    | cons c digits =>
      obtain ⟨minus, plus⟩ := other c rfl
      simp [Reshape.splitSign, minus, plus]

end Text

/-! ## The scan -/

/-- How many bytes characters take. -/
def byteCount : List Char → Nat
  | [] => 0
  | c :: rest => c.utf8Size + byteCount rest

theorem utf8ByteSize_ofList (s : List Char) : (String.ofList s).utf8ByteSize = byteCount s := by
  induction s with
  | nil => rfl
  | cons c rest ih =>
    rw [String.ofList_cons, String.utf8ByteSize_append, ih, String.utf8ByteSize_singleton,
      byteCount]

/-- The bytes of whole characters are cut off at the end of a character. -/
theorem cut?_append (front rest : List Char) :
    cut? (byteCount front) (front ++ rest) = some front := by
  induction front with
  | nil => cases rest <;> rfl
  | cons c front ih =>
    have positive := c.utf8Size_pos
    have some_bytes : c.utf8Size + byteCount front ≠ 0 := by omega
    rw [byteCount, List.cons_append, cut?, if_neg some_bytes, if_pos (Nat.le_add_right _ _),
      Nat.add_sub_cancel_left, ih, Option.map_some]

/-- From a later place on only digits are scanned. -/
theorem integerEnd_digits {digits rest : List Char} {place : Nat} (later : place ≠ 0)
    (decimal : ∀ c ∈ digits, isDecimalDigit c = true)
    (stop : ∀ c ∈ rest.head?, isDecimalDigit c = false) :
    integerEnd place (digits ++ rest) = place + byteCount digits := by
  induction digits generalizing place with
  | nil =>
    cases rest with
    | nil => rfl
    | cons c rest => simp [integerEnd, stop c rfl, later, byteCount]
  | cons c digits ih =>
    obtain ⟨first, others⟩ := List.forall_mem_cons.1 decimal
    have next : place + c.utf8Size ≠ 0 := by omega
    rw [List.cons_append, integerEnd, first, Bool.true_or, if_pos rfl, ih next others, byteCount,
      Nat.add_assoc]

/-- A text that opens like this is scanned up to the last of the digits. -/
theorem integerEnd_opens {s blanks sign digits rest : List Char}
    (opens : Opens s blanks sign digits rest) :
    integerEnd 0 (sign ++ (digits ++ rest)) = byteCount (sign ++ digits) := by
  have after {c : Char} (sign : isDecimalDigit c = true ∨ c = '-' ∨ c = '+') {digits : List Char}
      (decimal : ∀ c ∈ digits, isDecimalDigit c = true) :
      integerEnd 0 (c :: (digits ++ rest)) = byteCount (c :: digits) := by
    have taken : (isDecimalDigit c || 0 == 0 && (c == '-' || c == '+')) = true := by
      simpa using sign
    have later : 0 + c.utf8Size ≠ 0 := by
      have := c.utf8Size_pos
      omega
    rw [integerEnd, if_pos taken, integerEnd_digits later decimal opens.stop, Nat.zero_add]
    rfl
  obtain rfl | rfl | ⟨rfl, other⟩ := opens.single
  · exact after (.inr (.inl rfl)) opens.decimal
  · exact after (.inr (.inr rfl)) opens.decimal
  · rw [List.nil_append, List.nil_append]
    cases digits with
    | cons c digits =>
      obtain ⟨first, others⟩ := List.forall_mem_cons.1 opens.decimal
      exact after (.inl first) others
    | nil =>
      cases rest with
      | nil => rfl
      | cons c rest =>
        obtain ⟨minus, plus⟩ := other c rfl
        simp [integerEnd, opens.stop c rfl, minus, plus, byteCount]

/-- What is cut off is the sign and the digits. -/
theorem cut?_integerEnd {s blanks sign digits rest : List Char}
    (opens : Opens s blanks sign digits rest) :
    cut? (integerEnd 0 (trimStartChars s)) (trimStartChars s) = some (sign ++ digits) := by
  rw [opens.trimStartChars, integerEnd_opens opens, ← List.append_assoc]
  exact cut?_append _ _

/-- Behind the bytes of its first characters a text has the end of a character. -/
theorem isValid_byteCount (front rest : List Char) :
    String.Pos.Raw.IsValid (String.ofList (front ++ rest)) ⟨byteCount front⟩ := by
  refine String.Pos.Raw.isValid_iff_exists_append.2
    ⟨String.ofList front, String.ofList rest, String.ofList_append, ?_⟩
  rw [← utf8ByteSize_ofList]
  rfl

/-! ## The digits -/

theorem foldl_digits_ge (digits : List Char) (start : Nat) :
    start ≤ digits.foldl (fun value c => value * 10 + (digit? 10 c).getD 0) start := by
  induction digits generalizing start with
  | nil => exact Nat.le_refl _
  | cons c digits ih =>
    rw [List.foldl_cons]
    have grown := ih (start * 10 + (digit? 10 c).getD 0)
    omega

/-- What is nearer to zero fits if the rest does. -/
theorem isSigned_of_le {negative : Bool} {m n : Nat} (nearer : m ≤ n)
    (fits : Number.IsSigned (withSign negative n)) : Number.IsSigned (withSign negative m) := by
  unfold Number.IsSigned withSign at *
  cases negative <;> simp only [Bool.false_eq_true, if_false, if_true] at * <;> omega

theorem withSign_mul (negative : Bool) (n m : Nat) :
    withSign negative n * m = withSign negative (n * m) := by
  cases negative with
  | true => exact Int.neg_mul _ _
  | false => rfl

theorem withSign_add (negative : Bool) (n m : Nat) :
    withSign negative n + withSign negative m = withSign negative (n + m) := by
  unfold withSign
  cases negative <;> simp only [Bool.false_eq_true, if_false, if_true] <;> omega

/-- Digits are read on to the integer that all of them spell. That one is farthest from zero, so it
fits into 64 bits just when every step on the way does. -/
theorem readOn?_withSign (negative : Bool) {digits : List Char}
    (decimal : ∀ c ∈ digits, isDecimalDigit c = true) {start : Nat}
    (fits : Number.IsSigned (withSign negative start)) :
    readOn? negative (withSign negative start) digits =
      signed? (withSign negative
        (digits.foldl (fun value c => value * 10 + (digit? 10 c).getD 0) start)) := by
  induction digits generalizing start with
  | nil => rw [readOn?, List.foldl_nil, signed?, if_pos fits]
  | cons c digits ih =>
    obtain ⟨first, others⟩ := List.forall_mem_cons.1 decimal
    obtain ⟨d, small, rfl⟩ := isDecimalDigit_iff.1 first
    have digit := digit?_digitChar small
    have grows := foldl_digits_ge digits (start * 10 + d)
    have moved : withSign negative start * 10 = withSign negative (start * 10) :=
      withSign_mul negative start 10
    rw [readOn?, List.foldl_cons, digit, Option.getD_some, moved]
    by_cases next : Number.IsSigned (withSign negative (start * 10 + d))
    · have room : Number.IsSigned (withSign negative (start * 10)) :=
        isSigned_of_le (Nat.le_add_right (start * 10) d) next
      simp only [signed?, room, next, if_true, Option.bind_eq_bind, Option.bind_some, withSign_add]
      exact ih others next
    · have whole : ¬ Number.IsSigned (withSign negative
          (digits.foldl (fun value c => value * 10 + (digit? 10 c).getD 0) (start * 10 + d))) :=
        fun fits => next (isSigned_of_le grows fits)
      by_cases room : Number.IsSigned (withSign negative (start * 10))
      · simp only [signed?, room, next, whole, if_true, if_false, Option.bind_eq_bind,
          Option.bind_some, Option.bind_none, withSign_add]
      · simp only [signed?, room, whole, if_false, Option.bind_eq_bind, Option.bind_none]

/-- A text that opens with a sign and digits gives the integer that they spell, if there are digits
and the integer fits into 64 bits, and zero otherwise. -/
theorem leadingInt_opens {s : String} {blanks sign digits rest : List Char}
    (opens : Opens s.toList blanks sign digits rest) :
    leadingInt s =
      if digits ≠ [] ∧ Number.IsSigned (withSign (decide (sign = ['-'])) (valueOf 10 digits)) then
        withSign (decide (sign = ['-'])) (valueOf 10 digits)
      else 0 := by
  unfold leadingInt
  dsimp only
  rw [cut?_integerEnd opens, Option.bind_some, signedOfChars?, opens.splitSign]
  dsimp only
  cases digits with
  | nil => simp
  | cons c digits =>
    have zero : Number.IsSigned (withSign (decide (sign = ['-'])) 0) := by
      unfold withSign
      split <;> decide
    have start : withSign (decide (sign = ['-'])) 0 = 0 := by
      unfold withSign
      split <;> rfl
    have read := readOn?_withSign (decide (sign = ['-'])) opens.decimal zero
    rw [start] at read
    rw [List.isEmpty_cons, if_neg Bool.false_ne_true, read, ← valueOf, signed?]
    by_cases fits : Number.IsSigned (withSign (decide (sign = ['-'])) (valueOf 10 (c :: digits)))
    · simp [fits]
    · simp [fits]

/-- **Integers at the start of texts.** Every text opens with blanks, at most one sign and a run of
digits. It gives the integer that the sign and the digits spell, if there is a digit and the integer
lies within 64 bits, and zero otherwise. What is cut off the text behind the blanks is the sign and
the digits, up to a place between two characters, and any other text with this sign and these digits
gives the same, whatever stands behind them. -/
theorem leading_integers_read (s : String) :
    (∃ blanks sign digits rest, Opens s.toList blanks sign digits rest) ∧
    ∀ blanks sign digits rest, Opens s.toList blanks sign digits rest →
      (leadingInt s =
        let value := withSign (decide (sign = ['-'])) (valueOf 10 digits)
        if digits ≠ [] ∧ -2 ^ 63 ≤ value ∧ value ≤ 2 ^ 63 - 1 then value else 0) ∧
      (let inner := trimStart s
        let size := integerEnd 0 inner.toList
        String.Pos.Raw.IsValid inner ⟨size⟩ ∧ cut? size inner.toList = some (sign ++ digits)) ∧
      ∀ (t : String) before after, Opens t.toList before sign digits after →
        leadingInt t = leadingInt s := by
  refine ⟨exists_opens s.toList, fun blanks sign digits rest opens => ⟨?_, ?_, ?_⟩⟩
  · have range (n : Int) : Number.IsSigned n ↔ -2 ^ 63 ≤ n ∧ n ≤ 2 ^ 63 - 1 := by
      unfold Number.IsSigned
      omega
    simp only [leadingInt_opens opens, range]
  · have cut := cut?_integerEnd opens
    have inner := opens.trimStartChars
    simp only [trimStart, String.toList_ofList]
    refine ⟨?_, cut⟩
    rw [inner, integerEnd_opens opens, ← List.append_assoc]
    exact isValid_byteCount _ _
  · intro t before after other
    rw [leadingInt_opens other, leadingInt_opens opens]

/-- The least integer of 64 bits, between a wide blank and a letter of two bytes. -/
theorem least_integer_leads :
    Opens "\u3000-9223372036854775808é1".toList ['\u3000'] ['-'] "9223372036854775808".toList
        ['é', '1'] ∧
      leadingInt "\u3000-9223372036854775808é1" = -9223372036854775808 ∧
      leadingInt "-9223372036854775808" = leadingInt "\u3000-9223372036854775808é1" := by
  have opens : Opens "\u3000-9223372036854775808é1".toList ['\u3000'] ['-']
      "9223372036854775808".toList ['é', '1'] := by
    refine ⟨by decide +kernel, List.all_eq_true.1 (by decide +kernel), ?_, .inl rfl,
      List.all_eq_true.1 (by decide +kernel), ?_⟩
    · rintro _ ⟨⟩
      decide +kernel
    · rintro _ ⟨⟩
      decide +kernel
  have alone : Opens "-9223372036854775808".toList [] ['-'] "9223372036854775808".toList [] := by
    refine ⟨by decide +kernel, nofun, ?_, .inl rfl, opens.decimal, nofun⟩
    rintro _ ⟨⟩
    decide +kernel
  obtain ⟨value, _, same⟩ := (leading_integers_read _).2 _ _ _ _ opens
  have least : withSign (decide (['-'] = ['-'])) (valueOf 10 "9223372036854775808".toList) =
      -9223372036854775808 := by
    decide +kernel
  refine ⟨opens, ?_, same _ _ _ alone⟩
  rw [value, least]
  decide +kernel

end Reshape
