import Mathlib
import Reshape.Proofs.Digits
import Reshape.Proofs.Reading
import Reshape.Settings.Form
import Reshape.Toml.Reader

/-!
# Settings that are written

A configuration file that settings are written to is read as what they are:

* `scalar_natural`: the digits of a natural are read as an integer and as nothing else;
* `Lines` says what the lines of a text are read as, and `document_of_lines` what statements they
  make together;
* `parse?_of_toToml?`: the lines of written settings are the table of these settings.
-/

namespace Reshape.Toml.Reader

open Text (Reader isDecimalDigit isDigitIn valueOf withSign isDecimalDigit_of_mem_toDigits
  ne_of_digit valueOf_toDigits toDigits_unpadded)
open Text.Reader

/-! ## Naturals -/

/-- What starts with another character than a word is not taken for it. -/
theorem chars_other {c d : Char} (other : d ≠ c) (more rest : List Char) :
    chars (c :: more) (d :: rest) = none := by
  rw [chars, bind_apply, char_cons, if_neg other]
  rfl

theorem word_other {word : String} {c d : Char} {more : List Char}
    (spelled : word.toList = c :: more) (other : d ≠ c) (rest : List Char) :
    Text.Reader.word word (d :: rest) = none := by
  rw [word_apply, spelled, chars_other other]

theorem lineString_other {quote c : Char} (other : c ≠ quote) (item : Reader Char)
    (rest : List Char) : lineString quote item (c :: rest) = none := by
  rw [lineString, bind_apply, char_cons, if_neg other]
  rfl

theorem blockString_other {quote c : Char} (other : c ≠ quote) (item : Reader (List Char))
    (rest : List Char) : blockString quote item (c :: rest) = none := by
  rw [blockString, bind_apply, chars_other other]
  rfl

theorem string_of_digit {c : Char} (digit : isDecimalDigit c = true) (rest : List Char) :
    string (c :: rest) = none := by
  have double : c ≠ '"' := ne_of_digit digit rfl
  have single : c ≠ '\'' := ne_of_digit digit rfl
  simp only [string, orElse_apply, blockString_other double, lineString_other double,
    blockString_other single, lineString_other single, Option.or_none]

theorem sign_of_digit {c : Char} (digit : isDecimalDigit c = true) (rest : List Char) :
    sign (c :: rest) = some (false, c :: rest) := by
  have minus : char '-' (c :: rest) = none := by
    rw [char_cons, if_neg (ne_of_digit digit rfl)]
  have plus : char '+' (c :: rest) = none := by
    rw [char_cons, if_neg (ne_of_digit digit rfl)]
  simp only [sign, orElse_apply, bind_apply, minus, plus, Option.bind_none, Option.none_or,
    pure_apply]

/-- A digit and more digits up to the end of a line. -/
structure Numeral (c : Char) (digits : List Char) : Prop where
  first : isDecimalDigit c = true
  others : ∀ d ∈ digits, isDecimalDigit d = true

theorem digitRun_line {c : Char} {digits : List Char} (numeral : Numeral c digits)
    (rest : List Char) :
    digitRun 10 (c :: (digits ++ '\n' :: rest)) = some (c :: digits, '\n' :: rest) := by
  have first := numeral.first
  have more : many (satisfying (isDigitIn 10) <|> (do char '_'; satisfying (isDigitIn 10)))
      (digits ++ '\n' :: rest) = some (digits, '\n' :: rest) := by
    apply many_run
    · intro d member after
      have digit : isDigitIn 10 d = true := numeral.others d member
      rw [orElse_apply, satisfying_cons, if_pos digit]
      rfl
    · rfl
  unfold isDecimalDigit at first
  simp only [digitRun, bind_apply, satisfying_cons, first, if_true, Option.bind_some, more,
    pure_apply]

/-- Digits without a needless zero are read to their end. -/
theorem signedDigits_line {c : Char} {digits : List Char} (numeral : Numeral c digits)
    (nonzero : c ≠ '0') (rest : List Char) :
    signedDigits (c :: (digits ++ '\n' :: rest)) = some ((false, c :: digits), '\n' :: rest) := by
  simp only [signedDigits, bind_apply, sign_of_digit numeral.first, Option.bind_some, orElse_apply,
    char_cons, nonzero, if_false, Option.bind_none, Option.none_or, digitRun_line numeral,
    pure_apply]

theorem float_line {c : Char} {digits : List Char} (numeral : Numeral c digits)
    (nonzero : c ≠ '0') (rest : List Char) :
    float (c :: (digits ++ '\n' :: rest)) = none := by
  have infinite : c ≠ 'i' := ne_of_digit numeral.first rfl
  have nan : c ≠ 'n' := ne_of_digit numeral.first rfl
  have finite : finiteFloat (c :: (digits ++ '\n' :: rest)) = none := by
    rw [finiteFloat, bind_apply, signedDigits_line numeral nonzero]
    rfl
  have inf : "inf".toList = ['i', 'n', 'f'] := by decide +kernel
  have no : "nan".toList = ['n', 'a', 'n'] := by decide +kernel
  simp only [float, orElse_apply, finite, bind_apply, sign_of_digit numeral.first,
    Option.bind_some, word_other inf infinite, word_other no nan, Option.bind_none, Option.none_or]

theorem integer_line {c : Char} {digits : List Char} (numeral : Numeral c digits)
    (nonzero : c ≠ '0') (signed : Number.IsSigned (valueOf 10 (c :: digits))) (rest : List Char) :
    integer (c :: (digits ++ '\n' :: rest)) =
      some ((valueOf 10 (c :: digits) : Int), '\n' :: rest) := by
  have hexadecimal : "0x".toList = ['0', 'x'] := by decide +kernel
  have octal : "0o".toList = ['0', 'o'] := by decide +kernel
  have binary : "0b".toList = ['0', 'b'] := by decide +kernel
  have based {mark : String} {more : List Char} (spelled : mark.toList = '0' :: more) (base : Nat) :
      basedInteger mark base (c :: (digits ++ '\n' :: rest)) = none := by
    rw [basedInteger, bind_apply, word_other spelled nonzero]
    rfl
  have decimal : decimalInteger (c :: (digits ++ '\n' :: rest)) =
      some ((valueOf 10 (c :: digits) : Int), '\n' :: rest) := by
    rw [decimalInteger, bind_apply, signedDigits_line numeral nonzero]
    rfl
  rw [integer, bind_apply, orElse_apply, orElse_apply, orElse_apply, based hexadecimal, based octal,
    based binary, decimal, Option.none_or, Option.none_or, Option.none_or, Option.bind_some,
    if_pos signed]
  rfl

/-! ## No dates -/

theorem digits_eq_some {width least greatest n : Nat} {text between : List Char}
    (read : Moment.digits width least greatest text = some (n, between)) :
    ∃ run, text = run ++ between ∧ ∀ c ∈ run, isDecimalDigit c = true := by
  simp only [Moment.digits, bind_eq_some] at read
  obtain ⟨run, after, taken, checked⟩ := read
  split at checked
  · rename_i fits
    cases checked
    exact ⟨run, take_eq_some taken, List.all_eq_true.1 fits.1⟩
  · cases checked

/-- What follows the digits of a line is the end of the line. -/
theorem char_after_digits {c : Char} {digits run between rest : List Char}
    (each : ∀ d ∈ digits, isDecimalDigit d = true) (inside : ∀ d ∈ run, isDecimalDigit d = true)
    (split : digits ++ '\n' :: rest = run ++ between) (other : isDecimalDigit c = false)
    (no : c ≠ '\n') : char c between = none := by
  cases read : char c between with
  | none => rfl
  | some found =>
    have ends := congrArg (List.dropWhile isDecimalDigit) split
    rw [char_eq_some read, List.dropWhile_append_of_pos each, List.dropWhile_append_of_pos inside,
      List.dropWhile_cons_of_neg (by decide),
      List.dropWhile_cons_of_neg (by rw [other]; nofun)] at ends
    cases ends
    exact absurd rfl no

theorem moment_line {c : Char} {digits : List Char} (numeral : Numeral c digits)
    (rest : List Char) : Moment.reader (c :: (digits ++ '\n' :: rest)) = none := by
  have each : ∀ d ∈ c :: digits, isDecimalDigit d = true :=
    List.forall_mem_cons.2 ⟨numeral.first, numeral.others⟩
  have fails {β : Type} (width least greatest : Nat) (mark : Char) (next : Nat → Reader β)
      (other : isDecimalDigit mark = false) (no : mark ≠ '\n') :
      (Moment.digits width least greatest >>= fun n => char mark >>= fun _ => next n)
        (c :: (digits ++ '\n' :: rest)) = none := by
    rw [bind_apply]
    cases read : Moment.digits width least greatest (c :: (digits ++ '\n' :: rest)) with
    | none => rfl
    | some found =>
      obtain ⟨run, split, inside⟩ := digits_eq_some read
      rw [Option.bind_some, bind_apply, char_after_digits each inside split other no]
      rfl
  have date : Moment.dateReader (c :: (digits ++ '\n' :: rest)) = none :=
    fails 4 0 9999 '-' _ rfl (by decide)
  have time : Moment.timeReader (c :: (digits ++ '\n' :: rest)) = none :=
    fails 2 0 23 ':' _ rfl (by decide)
  simp only [Moment.reader, orElse_apply, bind_apply, date, map_apply, time, Option.bind_none,
    Option.map_none, Option.or_none]

/-- What starts with a digit is an integer if it is no float. -/
theorem scalar_line {c : Char} {digits rest : List Char} (numeral : Numeral c digits) {n : Int}
    (no : float (c :: (digits ++ '\n' :: rest)) = none)
    (read : integer (c :: (digits ++ '\n' :: rest)) = some (n, '\n' :: rest)) :
    scalar (c :: (digits ++ '\n' :: rest)) = some (.integer n, '\n' :: rest) := by
  have yes : "true".toList = ['t', 'r', 'u', 'e'] := by decide +kernel
  have not : "false".toList = ['f', 'a', 'l', 's', 'e'] := by decide +kernel
  have truth := word_other yes (ne_of_digit numeral.first rfl)
  have falsity := word_other not (ne_of_digit numeral.first rfl)
  simp only [scalar, orElse_apply, map_apply, bind_apply, string_of_digit numeral.first, truth,
    falsity, moment_line numeral, no, read, Option.map_none, Option.map_some, Option.bind_none,
    Option.none_or]

/-- A natural that TOML can hold is read from its digits. -/
theorem scalar_natural {n : Nat} (signed : Number.IsSigned n) (rest : List Char) :
    scalar (Nat.toDigits 10 n ++ '\n' :: rest) = some (.integer n, '\n' :: rest) := by
  have value := valueOf_toDigits n
  obtain zero | ⟨c, digits, written, nonzero⟩ := toDigits_unpadded n
  · rw [zero] at value ⊢
    rw [← value]
    have no : float ('0' :: '\n' :: rest) = none := by cbv
    have read : integer ('0' :: '\n' :: rest) = some (0, '\n' :: rest) := by cbv
    exact scalar_line ⟨rfl, List.forall_mem_nil _⟩ no read
  · have each : ∀ d ∈ c :: digits, isDecimalDigit d = true := by
      rw [← written]
      exact fun _ => isDecimalDigit_of_mem_toDigits
    obtain ⟨first, others⟩ := List.forall_mem_cons.1 each
    rw [written] at value ⊢
    rw [← value] at signed ⊢
    have numeral : Numeral c digits := ⟨first, others⟩
    exact scalar_line numeral (float_line numeral nonzero rest)
      (integer_line numeral nonzero signed rest)

/-- A scalar is read as such at any depth. -/
theorem value_of_scalar {text : List Char} {read : Toml × List Char}
    (here : scalar text = some read) (depth : Nat) : value depth text = some read := by
  cases depth with
  | zero => exact here
  | succ depth => rw [value, orElse_apply, here, Option.some_or]

/-! ## Lines -/

theorem line_header (rest : List Char) :
    line ("[extraction]".toList ++ '\n' :: rest) =
      some (some (.table ["extraction"]), '\n' :: rest) := by
  cbv

theorem line_strict (strict : Bool) (rest : List Char) :
    line ("strict_modifiers = ".toList ++ ((Json.bool strict).compact.toList ++ '\n' :: rest)) =
      some (some (.assign [] "strict_modifiers" (.bool strict)), '\n' :: rest) := by
  cases strict with
  | false => cbv
  | true => cbv

theorem line_cardinality (cardinality : Cardinality) (rest : List Char) :
    line ("cardinality = ".toList ++
        ((Json.string cardinality.name).compact.toList ++ '\n' :: rest)) =
      some (some (.assign [] "cardinality" (.string cardinality.name)), '\n' :: rest) := by
  cases cardinality with
  | sequence => cbv
  | error => cbv

theorem compact_natural (n : Nat) : (Json.ofNat n).compact.toList = Nat.toDigits 10 n := by
  have nonnegative : ¬ (n : Int) < 0 := by omega
  simp only [Json.ofNat, Json.ofInt, Json.compact, Number.text, Number.chars, Number.integerChars,
    nonnegative, if_false, String.toList_ofList, List.nil_append, Int.natAbs_natCast,
    Number.digitChars]

/-- Only the blank in front of a numeral is skipped. -/
theorem blanks_natural (n : Nat) (rest : List Char) :
    blanks (' ' :: (Nat.toDigits 10 n ++ rest)) = some ((), Nat.toDigits 10 n ++ rest) := by
  obtain ⟨c, digits, written⟩ := List.exists_cons_of_ne_nil (Nat.toDigits_ne_nil (n := n) (b := 10))
  have digit : isDecimalDigit c = true :=
    isDecimalDigit_of_mem_toDigits (written ▸ List.mem_cons_self)
  have space : c ≠ ' ' := ne_of_digit digit rfl
  have tab : c ≠ '\t' := ne_of_digit digit rfl
  have solid : ¬ isBlank c = true := by simp [isBlank, space, tab]
  have blank : isBlank ' ' = true := rfl
  rw [blanks, skipWhile, written, List.cons_append, List.dropWhile_cons_of_pos blank,
    List.dropWhile_cons_of_neg solid]

theorem line_depth {n : Nat} (signed : Number.IsSigned n) (rest : List Char) :
    line ("max_depth = ".toList ++ ((Json.ofNat n).compact.toList ++ '\n' :: rest)) =
      some (some (.assign [] "max_depth" (.integer n)), '\n' :: rest) := by
  have solid := blanks_natural n ('\n' :: rest)
  have read := value_of_scalar (scalar_natural signed rest) maxNesting
  rw [compact_natural]
  -- What the digits are does not matter any more.
  generalize Nat.toDigits 10 n ++ '\n' :: rest = text at *
  have start : blanks ("max_depth = ".toList ++ text) =
      some ((), "max_depth = ".toList ++ text) := by
    cbv
  have plain : header ("max_depth = ".toList ++ text) = none := by cbv
  have name : key ("max_depth = ".toList ++ text) = some (["max_depth"], '=' :: ' ' :: text) := by
    cbv
  have last : (["max_depth"].getLast?.getM : Reader String) ('=' :: ' ' :: text) =
      some ("max_depth", '=' :: ' ' :: text) := rfl
  have equals : char '=' ('=' :: ' ' :: text) = some ((), ' ' :: text) := rfl
  have finished : blanks ('\n' :: rest) = some ((), '\n' :: rest) := rfl
  have assigned : assignment (value maxNesting) ("max_depth = ".toList ++ text) =
      some (([], "max_depth", .integer n), '\n' :: rest) := by
    simp only [assignment, bind_apply, name, Option.bind_some, last, equals, solid, read, finished]
    rfl
  have stated : statement ("max_depth = ".toList ++ text) =
      some (.assign [] "max_depth" (.integer n), '\n' :: rest) := by
    rw [statement, orElse_apply, plain, bind_apply, assigned]
    rfl
  simp only [line, bind_apply, start, Option.bind_some, optional?, orElse_apply, map_apply, stated,
    Option.map_some, Option.some_or, finished]
  rfl

/-- A text is read as lines: a line break follows each of them but the last. -/
inductive Lines : List Char → List (Option Statement) → Prop where
  | last {text : List Char} {content : Option Statement} (read : line text = some (content, [])) :
      Lines text [content]
  | next {text rest : List Char} {content : Option Statement} {more : List (Option Statement)}
      (read : line text = some (content, '\n' :: rest)) (others : Lines rest more) :
      Lines text (content :: more)

theorem Lines.repeats {text : List Char} {contents : List (Option Statement)}
    (lines : Lines text contents) :
    Repeats (do lineBreak; line) ('\n' :: text) contents [] := by
  have broken (text : List Char) : (do lineBreak; line) ('\n' :: text) = line text := rfl
  induction lines with
  | last read => exact .next ((broken _).trans read) (.stop rfl)
  | next read _ ih => exact .next ((broken _).trans read) ih

/-- A document of several lines holds their statements. -/
theorem document_of_lines {text rest : List Char} {first : Option Statement}
    {contents : List (Option Statement)} (read : line text = some (first, '\n' :: rest))
    (others : Lines rest contents) (enough : contents.length ≤ rest.length)
    (unmarked : char? '\ufeff' text = some (false, text)) :
    document text = some ((first :: contents).filterMap id, []) := by
  have more : many (do lineBreak; line) ('\n' :: rest) = some (contents, []) :=
    others.repeats.many (Nat.le_succ_of_le enough)
  simp only [document, bind_apply, unmarked, Option.bind_some, separated, read, more, pure_apply]

end Reshape.Toml.Reader

namespace Reshape.Settings

open Toml.Reader

/-- What a configuration file says under `extraction`. -/
def tomlMembers (settings : Settings) : List (String × Toml) :=
  [("strict_modifiers", .bool settings.strictModifiers),
    ("cardinality", .string settings.cardinality.name), ("max_depth", .integer settings.maxDepth)]

theorem toToml?_eq_none_iff {settings : Settings} :
    settings.toToml? = none ↔ 2 ^ 63 ≤ settings.maxDepth := by
  have bounds : Number.IsSigned settings.maxDepth ↔ settings.maxDepth < 2 ^ 63 := by
    unfold Number.IsSigned
    omega
  unfold toToml?
  split
  · rename_i signed
    exact ⟨nofun, fun large => absurd (bounds.1 signed) (Nat.not_lt.2 large)⟩
  · rename_i large
    exact ⟨fun _ => Nat.not_lt.1 (mt bounds.2 large), fun _ => rfl⟩

theorem toToml?_eq_some {settings : Settings} {text : String}
    (written : settings.toToml? = some text) :
    Number.IsSigned settings.maxDepth ∧
      text.toList = "[extraction]".toList ++ '\n' ::
        ("strict_modifiers = ".toList ++
          ((Json.bool settings.strictModifiers).compact.toList ++ '\n' ::
            ("cardinality = ".toList ++
              ((Json.string settings.cardinality.name).compact.toList ++ '\n' ::
                ("max_depth = ".toList ++
                  ((Json.ofNat settings.maxDepth).compact.toList ++ '\n' :: [])))))) := by
  unfold toToml? at written
  split at written
  · rename_i signed
    cases written
    refine ⟨signed, ?_⟩
    simp [tomlLine]
  · cases written

/-- The file that settings are written to holds them. -/
theorem parse?_of_toToml? {settings : Settings} {text : String}
    (written : settings.toToml? = some text) :
    Toml.parse? text = some [("extraction", .table settings.tomlMembers)] := by
  obtain ⟨signed, chars⟩ := toToml?_eq_some written
  have strict := line_strict settings.strictModifiers
  have cardinality := line_cardinality settings.cardinality
  have depth := line_depth signed []
  have lines := Lines.next (strict _) (.next (cardinality _) (.next depth (.last rfl)))
  have document := document_of_lines (line_header _) lines (by simp) (by rfl)
  rw [← chars] at document
  rw [Toml.parse?, Text.Reader.run?_eq_some.2 document, Option.bind_some]
  rfl

end Reshape.Settings
