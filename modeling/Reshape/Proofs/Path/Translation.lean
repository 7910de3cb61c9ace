import Reshape.Proofs.Path.Spelling

/-!
# Simple paths read as queries

`Query.ofSimple` is a simple path as a general query. From a text that spells a simple path:

* `Readable` says that no index has a needless zero in front or passes `Query.maxInteger`;
* `upTo_of_readable` and `upTo_of_not_readable`: its segments are read to the end just then;
* `parse?_eq_some_iff` puts both together for whole texts.
-/

namespace Reshape

open Text (Reader isDecimalDigit ne_of_digit valueOf)
open Text.Reader

namespace Query

/-- A segment of a simple path as a segment of a query. -/
def Segment.ofSimple : SimplePath.Segment → Segment
  | .key name => .child [.name name]
  | .index position => .child [.index position]
  | .every => .child [.wildcard]

/-- A simple path as a query. -/
def ofSimple (path : SimplePath) : Query := ⟨path.map Segment.ofSimple⟩

namespace Reader

/-! ## Characters -/

theorem solid_of_digit {c : Char} (digit : isDecimalDigit c = true) : Json.isBlank c = false := by
  have h (d : Char) (other : isDecimalDigit d = false) : (c == d) = false :=
    beq_eq_false_iff_ne.2 (ne_of_digit digit other)
  simp [Json.isBlank, h ' ' rfl, h '\t' rfl, h '\n' rfl, h '\r' rfl]

theorem blanks_solid {c : Char} (solid : Json.isBlank c = false) (text : List Char) :
    blanks (c :: text) = some ((), c :: text) := skipWhile_stop solid

/-! ## Integers -/

theorem char?_other {c d : Char} (h : d ≠ c) (text : List Char) :
    char? c (d :: text) = some (false, d :: text) := by
  simp [char?, orElse_apply, map_apply, char_cons, h]

theorem wholeDigits_zero (text : List Char) :
    Json.Reader.wholeDigits ('0' :: text) = some (['0'], text) := rfl

theorem wholeDigits_run {first c : Char} {rest text : List Char}
    (digit : isDecimalDigit first = true) (digits : ∀ c ∈ rest, isDecimalDigit c = true)
    (nonzero : first ≠ '0') (stop : isDecimalDigit c = false) :
    Json.Reader.wholeDigits (first :: (rest ++ c :: text)) = some (first :: rest, c :: text) := by
  have run : takeWhile isDecimalDigit (rest ++ c :: text) = some (rest, c :: text) :=
    takeWhile_append digits fun d same => Option.some.inj same ▸ stop
  simp [Json.Reader.wholeDigits, orElse_apply, bind_apply, map_apply, char_cons, nonzero,
    takeWhile1, satisfying_cons, digit, run]

theorem integer_apply {c : Char} {text rest digits : List Char}
    (digit : isDecimalDigit c = true)
    (read : Json.Reader.wholeDigits (c :: text) = some (digits, rest)) :
    integer (c :: text) =
      if maxInteger < valueOf 10 digits then none else some ((valueOf 10 digits : Int), rest) := by
  rw [integer, bind_apply, char?_other (ne_of_digit digit rfl)]
  simp only [Option.bind_some, bind_apply, read, Bool.false_eq_true, false_and, or_false]
  split
  · rfl
  · simp [Text.withSign]

/-! ## Selectors -/

theorem slice_of_integer {c d : Char} {text rest : List Char} {n : Int}
    (read : integer (c :: text) = some (n, d :: rest)) (solid : Json.isBlank d = false)
    (other : d ≠ ':') : slice (c :: text) = none := by
  simp [slice, optional?, orElse_apply, bind_apply, map_apply, read, blanks_solid solid, char_cons,
    other]

theorem slice_of_none {c : Char} {text : List Char} (read : integer (c :: text) = none)
    (other : c ≠ ':') : slice (c :: text) = none := by
  simp [slice, optional?, orElse_apply, bind_apply, map_apply, read, char_cons, other]

theorem selector_digit {condition : Reader Filter} {c : Char} {text : List Char}
    (digit : isDecimalDigit c = true) :
    selector condition (c :: text) =
      (slice (c :: text)).or ((integer (c :: text)).map fun read => (.index read.1, read.2)) := by
  have h (d : Char) (other : isDecimalDigit d = false) : c ≠ d := ne_of_digit digit other
  simp only [selector, orElse_apply, map_apply, bind_apply, string, quotedBy, char_cons,
    if_neg (h '\'' rfl), if_neg (h '"' rfl), if_neg (h '*' rfl), if_neg (h '?' rfl),
    Option.bind_none, Option.map_none, Option.none_or, Option.or_none]

/-! ## Segments -/

theorem segment_bracket (condition : Reader Filter) (text : List Char) :
    segment condition ('[' :: text) =
      (selectors condition ('[' :: text)).map fun read => (.child read.1, read.2) := by
  have dots : word ".." ('[' :: text) = none := rfl
  simp only [segment, orElse_apply, bind_apply, map_apply, dots, Option.bind_none, Option.none_or,
    blanks_solid (show Json.isBlank '[' = false from rfl), Option.bind_some, char_cons]
  cases selectors condition ('[' :: text) <;> rfl

/-- Brackets around one selector hold nothing else. -/
theorem selectors_single {condition : Reader Filter} {c d : Char} {text rest : List Char}
    {chosen : Selector} (solid : Json.isBlank c = false)
    (read : selector condition (c :: text) = some (chosen, d :: rest))
    (stop : Json.isBlank d = false) (other : d ≠ ',') :
    selectors condition ('[' :: c :: text) = if d = ']' then some ([chosen], rest) else none := by
  have separator : (do blanks; char ','; blanks : Reader Unit) (d :: rest) = none := by
    simp [bind_apply, blanks_solid stop, char_cons, other]
  have more : many (do (do blanks; char ','; blanks); selector condition) (d :: rest) =
      some ([], d :: rest) := by
    apply upTo_stop
    rw [bind_apply, separator]
    rfl
  simp only [selectors, enclosed, listed, separated, bind_apply, char_cons, if_true,
    Option.bind_some, blanks_solid solid, read, more, pure_apply, blanks_solid stop]
  split <;> rfl

theorem selectors_refuse {condition : Reader Filter} {c : Char} {text : List Char}
    (solid : Json.isBlank c = false) (refused : selector condition (c :: text) = none) :
    selectors condition ('[' :: c :: text) = none := by
  simp [selectors, enclosed, listed, separated, bind_apply, char_cons, blanks_solid solid, refused]

theorem segment_every (condition : Reader Filter) (text : List Char) :
    segment condition ('[' :: '*' :: ']' :: text) = some (.child [.wildcard], text) := by
  have star : selector condition ('*' :: ']' :: text) = some (.wildcard, ']' :: text) := rfl
  rw [segment_bracket, selectors_single rfl star rfl (by decide)]
  rfl

/-- An index without a needless zero in front is read if it is not too large. -/
theorem segment_index {condition : Reader Filter} {first : Char} {rest text : List Char}
    (digit : isDecimalDigit first = true) (digits : ∀ c ∈ rest, isDecimalDigit c = true)
    (plain : first = '0' → rest = []) :
    segment condition ('[' :: first :: (rest ++ ']' :: text)) =
      if maxInteger < valueOf 10 (first :: rest) then none
      else some (.child [.index (valueOf 10 (first :: rest) : Nat)], text) := by
  have whole : Json.Reader.wholeDigits (first :: (rest ++ ']' :: text)) =
      some (first :: rest, ']' :: text) := by
    by_cases zero : first = '0'
    · rw [plain zero, zero]
      exact wholeDigits_zero _
    · exact wholeDigits_run digit digits zero rfl
  have read := integer_apply digit whole
  rw [segment_bracket]
  split
  · rename_i large
    rw [if_pos large] at read
    rw [selectors_refuse (solid_of_digit digit)]
    · rfl
    · rw [selector_digit digit, slice_of_none read (ne_of_digit digit rfl), read]
      rfl
  · rename_i small
    rw [if_neg small] at read
    have chosen := @selector_digit condition first (rest ++ ']' :: text) digit
    rw [slice_of_integer read rfl (by decide), read] at chosen
    rw [selectors_single (solid_of_digit digit) chosen rfl (by decide)]
    rfl

/-- An index with a needless zero in front is refused. -/
theorem segment_needless_zero {condition : Reader Filter} {d : Char} {text : List Char}
    (digit : isDecimalDigit d = true) : segment condition ('[' :: '0' :: d :: text) = none := by
  have read : integer ('0' :: d :: text) = some (0, d :: text) :=
    integer_apply (show isDecimalDigit '0' = true from rfl) (wholeDigits_zero (d :: text))
  have chosen := @selector_digit condition '0' (d :: text) rfl
  rw [slice_of_integer read (solid_of_digit digit) (ne_of_digit digit rfl), read] at chosen
  rw [segment_bracket, selectors_single rfl chosen (solid_of_digit digit) (ne_of_digit digit rfl),
    if_neg (ne_of_digit digit rfl)]
  rfl

theorem plain_start {c : Char} (h : SimplePath.isNameStart c = true) : isNameStart c = true := by
  simp only [SimplePath.isNameStart, isNameStart, Bool.or_eq_true] at h ⊢
  exact .inl h

theorem plain_char {c : Char} (h : SimplePath.isNameChar c = true) :
    (isNameStart c || c.isDigit) = true := by
  simp only [SimplePath.isNameChar, isNameStart, Char.isAlphanum, Bool.or_eq_true] at h ⊢
  obtain (letter | digit) | underscore := h
  · exact .inl (.inl (.inl letter))
  · exact .inr digit
  · exact .inl (.inl (.inr underscore))

/-- A plain name that is not followed by more of a name is read as a whole. -/
theorem segment_key {condition : Reader Filter} {first : Char} {rest text : List Char}
    (start : SimplePath.isNameStart first = true)
    (inside : ∀ c ∈ rest, SimplePath.isNameChar c = true)
    (stop : ∀ c, text.head? = some c → c = '.' ∨ c = '[') :
    segment condition ('.' :: first :: (rest ++ text)) =
      some (.child [.name (String.ofList (first :: rest))], text) := by
  have other (d : Char) (h : SimplePath.isNameStart d = false) : first ≠ d := by
    rintro rfl
    simp [start] at h
  have run :
      takeWhile (fun c => isNameStart c || c.isDigit) (rest ++ text) = some (rest, text) := by
    refine takeWhile_append (fun c member => plain_char (inside c member)) fun c head => ?_
    obtain rfl | rfl := stop c head
    · rfl
    · rfl
  have dots : word ".." ('.' :: first :: (rest ++ text)) = none := by
    change (char '.' (first :: (rest ++ text))).bind _ = none
    rw [char_cons, if_neg (other '.' rfl)]
    rfl
  have closed : selectors condition ('.' :: first :: (rest ++ text)) = none := rfl
  simp only [segment, orElse_apply, bind_apply, map_apply, dots, Option.bind_none, Option.none_or,
    blanks_solid (show Json.isBlank '.' = false from rfl), Option.bind_some, closed, char_cons,
    if_true, shorthand, if_neg (other '*' rfl), plainName, satisfying_cons, plain_start start, run,
    pure_apply]
  rfl

end Reader

end Query

/-! ## Needless zeros -/

/-- No index starts with a zero that another digit follows. -/
def NoNeedlessZero (text : List Char) : Prop :=
  ∀ before digit after, text = before ++ '[' :: '0' :: digit :: after →
    isDecimalDigit digit = false

namespace NoNeedlessZero

theorem nil : NoNeedlessZero [] := by
  intro before digit after same
  simp at same

theorem cons_iff {c : Char} {text : List Char} :
    NoNeedlessZero (c :: text) ↔
      (c = '[' → ∀ digit after, text = '0' :: digit :: after → isDecimalDigit digit = false) ∧
        NoNeedlessZero text := by
  constructor
  · intro h
    refine ⟨?_, fun before digit after same => h (c :: before) digit after (by rw [same]; rfl)⟩
    rintro rfl digit after rfl
    exact h [] digit after rfl
  · rintro ⟨here, later⟩ before digit after same
    cases before with
    | nil =>
      obtain ⟨rfl, rfl⟩ := List.cons.inj same
      exact here rfl digit after rfl
    | cons d before => exact later before digit after (List.cons.inj same).2

theorem run_iff {run text : List Char} (h : ∀ c ∈ run, c ≠ '[') :
    NoNeedlessZero (run ++ text) ↔ NoNeedlessZero text := by
  induction run with
  | nil => rfl
  | cons c run ih =>
    obtain ⟨first, others⟩ := List.forall_mem_cons.1 h
    rw [List.cons_append, cons_iff, ih others]
    simp [first]

theorem key_iff {first : Char} {rest text : List Char} (start : SimplePath.isNameStart first = true)
    (inside : ∀ c ∈ rest, SimplePath.isNameChar c = true) :
    NoNeedlessZero ('.' :: first :: (rest ++ text)) ↔ NoNeedlessZero text :=
  run_iff (SimplePath.ne_bracket_of_key start inside)

theorem every_iff {text : List Char} :
    NoNeedlessZero ('[' :: '*' :: ']' :: text) ↔ NoNeedlessZero text := by
  simp [cons_iff]

theorem index_iff {first : Char} {rest text : List Char} (digit : isDecimalDigit first = true)
    (digits : ∀ c ∈ rest, isDecimalDigit c = true) :
    NoNeedlessZero ('[' :: first :: (rest ++ ']' :: text)) ↔
      (first = '0' → rest = []) ∧ NoNeedlessZero text := by
  have run : ∀ c ∈ first :: rest, c ≠ '[' := by
    intro c member
    obtain rfl | member := List.mem_cons.1 member
    · exact ne_of_digit digit rfl
    · exact ne_of_digit (digits c member) rfl
  have after : NoNeedlessZero (first :: (rest ++ ']' :: text)) ↔ NoNeedlessZero text := by
    rw [← List.cons_append, run_iff run, cons_iff]
    simp
  rw [cons_iff, after]
  refine and_congr_left fun _ => ⟨fun h zero => ?_, fun h _ d more same => ?_⟩
  · cases rest with
    | nil => rfl
    | cons d rest =>
      have := h rfl d (rest ++ ']' :: text) (by rw [zero]; rfl)
      simp [digits d List.mem_cons_self] at this
  · obtain ⟨zero, same⟩ := List.cons.inj same
    rw [h zero] at same
    obtain ⟨rfl, _⟩ := List.cons.inj same
    rfl

end NoNeedlessZero

/-! ## Indices that queries refuse -/

/-- No index of the path passes the greatest integer of queries. -/
def SmallIndices (path : SimplePath) : Prop :=
  ∀ position, SimplePath.Segment.index position ∈ path → position ≤ Query.maxInteger

/-- A path and its text have no index that queries refuse. -/
def Readable (path : SimplePath) (text : List Char) : Prop :=
  NoNeedlessZero text ∧ SmallIndices path

namespace Readable

variable {path : SimplePath} {text : List Char}

theorem nil : Readable [] [] := ⟨NoNeedlessZero.nil, fun _ member => absurd member List.not_mem_nil⟩

theorem key_iff {first : Char} {rest : List Char} {name : String}
    (start : SimplePath.isNameStart first = true)
    (inside : ∀ c ∈ rest, SimplePath.isNameChar c = true) :
    Readable (.key name :: path) ('.' :: first :: (rest ++ text)) ↔ Readable path text := by
  rw [Readable, NoNeedlessZero.key_iff start inside]
  simp [Readable, SmallIndices]

theorem every_iff :
    Readable (.every :: path) ('[' :: '*' :: ']' :: text) ↔ Readable path text := by
  rw [Readable, NoNeedlessZero.every_iff]
  simp [Readable, SmallIndices]

theorem index_iff {first : Char} {rest : List Char} {position : Nat}
    (digit : isDecimalDigit first = true) (digits : ∀ c ∈ rest, isDecimalDigit c = true) :
    Readable (.index position :: path) ('[' :: first :: (rest ++ ']' :: text)) ↔
      (first = '0' → rest = []) ∧ position ≤ Query.maxInteger ∧ Readable path text := by
  have small : SmallIndices (.index position :: path) ↔
      position ≤ Query.maxInteger ∧ SmallIndices path := by
    simp [SmallIndices]
  rw [Readable, NoNeedlessZero.index_iff digit digits, small, Readable]
  constructor
  · rintro ⟨⟨whole, zeros⟩, fits, others⟩
    exact ⟨whole, fits, zeros, others⟩
  · rintro ⟨whole, fits, zeros, others⟩
    exact ⟨⟨whole, zeros⟩, fits, others⟩

end Readable

/-! ## Whole texts -/

namespace Query

open Reader

variable {condition : Reader Filter}

theorem segment_nil : Reader.segment condition [] = none := rfl

/-- The segments of a readable text are read to its end. -/
theorem upTo_of_readable {path : SimplePath} {text : List Char}
    (spelled : SimplePath.Spelled path text) (readable : Readable path text) {limit : List Char}
    (enough : text.length ≤ limit.length) :
    upTo limit (Reader.segment condition) text = some (path.map Segment.ofSimple, []) := by
  -- Each segment takes one character off `limit` and at least as many off the text.
  induction spelled generalizing limit with
  | nil => exact upTo_stop segment_nil
  | key start inside later ih =>
    obtain _ | ⟨c, limit⟩ := limit
    · cases enough
    · refine upTo_cons (segment_key start inside fun _ => later.head) ?_
      apply ih ((Readable.key_iff start inside).1 readable)
      simp only [List.length_cons, List.length_append] at enough
      omega
  | @index first rest text path digit digits later ih =>
    obtain _ | ⟨c, limit⟩ := limit
    · cases enough
    · obtain ⟨whole, fits, below⟩ := (Readable.index_iff digit digits).1 readable
      have read := @segment_index condition _ _ text digit digits whole
      rw [if_neg (Nat.not_lt.2 fits)] at read
      refine upTo_cons read (ih below ?_)
      simp only [List.length_cons, List.length_append] at enough
      omega
  | every later ih =>
    obtain _ | ⟨c, limit⟩ := limit
    · cases enough
    · refine upTo_cons (segment_every condition _) (ih (Readable.every_iff.1 readable) ?_)
      simp only [List.length_cons] at enough
      omega

/-- The segments of any other text are not read to its end. -/
theorem upTo_of_not_readable {path : SimplePath} {text : List Char}
    (spelled : SimplePath.Spelled path text) (h : ¬ Readable path text) (limit : List Char) :
    ∃ read rest, upTo limit (Reader.segment condition) text = some (read, rest) ∧ rest ≠ [] := by
  induction spelled generalizing limit with
  | nil => exact absurd Readable.nil h
  | key start inside later ih =>
    obtain _ | ⟨c, limit⟩ := limit
    · exact ⟨[], _, rfl, List.cons_ne_nil _ _⟩
    · rw [Readable.key_iff start inside] at h
      obtain ⟨read, rest, others, left⟩ := ih h limit
      exact ⟨_, rest, upTo_cons (segment_key start inside fun _ => later.head) others, left⟩
  | @index first rest text path digit digits later ih =>
    obtain _ | ⟨c, limit⟩ := limit
    · exact ⟨[], _, rfl, List.cons_ne_nil _ _⟩
    · rw [Readable.index_iff digit digits] at h
      by_cases whole : first = '0' → rest = []
      · have here := @segment_index condition _ _ text digit digits whole
        split at here
        · exact ⟨[], _, upTo_stop here, List.cons_ne_nil _ _⟩
        · rename_i fits
          have below : ¬ Readable path text := fun below => h ⟨whole, Nat.not_lt.1 fits, below⟩
          obtain ⟨read, rest, others, left⟩ := ih below limit
          exact ⟨_, rest, upTo_cons here others, left⟩
      -- After the zero the reader wants a bracket, so the next digit stops it.
      · obtain ⟨rfl, needless⟩ := Classical.not_imp.1 whole
        obtain ⟨d, rest, rfl⟩ := List.exists_cons_of_ne_nil needless
        exact ⟨[], _, upTo_stop (segment_needless_zero (digits d List.mem_cons_self)),
          List.cons_ne_nil _ _⟩
  | every later ih =>
    obtain _ | ⟨c, limit⟩ := limit
    · exact ⟨[], _, rfl, List.cons_ne_nil _ _⟩
    · rw [Readable.every_iff] at h
      obtain ⟨read, rest, others, left⟩ := ih h limit
      exact ⟨_, rest, upTo_cons (segment_every condition _) others, left⟩

/-- A simple path is read as a query just when no index has a needless zero or is too large, and
then as the same segments. -/
theorem parse?_eq_some_iff {text : String} {path : SimplePath}
    (simple : SimplePath.segments? text = some path) {query : Query} :
    parse? text = some query ↔
      (NoNeedlessZero text.toList ∧ SmallIndices path) ∧ query = ofSimple path := by
  obtain ⟨chars, same, spelled⟩ := SimplePath.spelled_of_segments? simple
  have root : char '$' ('$' :: chars) = some ((), chars) := by rw [char_cons, if_pos rfl]
  have zeros : NoNeedlessZero ('$' :: chars) ↔ NoNeedlessZero chars := by
    rw [NoNeedlessZero.cons_iff]
    simp
  rw [parse?, run?_eq_some, same, zeros, ← Readable]
  simp only [bind_apply, root, Option.bind_some, many, pure_apply]
  by_cases h : Readable path chars
  · rw [upTo_of_readable spelled h (Nat.le_refl _)]
    simp [h, ofSimple, eq_comm]
  · obtain ⟨read, rest, reads, left⟩ :=
      @upTo_of_not_readable (Reader.condition text.length) _ _ spelled h chars
    rw [reads]
    simp [h, left]

end Query

end Reshape
