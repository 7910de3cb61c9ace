import Mathlib.Computability.Language
import Reshape.Proofs.Path.Spelling

/-!
# Simple paths read back

The texts of simple paths as a regular language, and the segments that are read from them:

* `pattern` is the language: a dollar and one or more segments;
* `segments?_eq_some_iff`: just the texts of the pattern are read, as the segments they spell;
* `search` takes segments wherever they start and passes over everything else. From a text of the
  pattern it takes the same segments (`search_of_spelled`), so it passes over the dollar only;
* `spelled_written` and `unpadded_of_spelled`: a path is spelled by what it is written as, and a
  spelling of a path differs from it by needless zeros only;
* `HoldsIndex` finds indices in a text, `holdsIndex_iff` in its segments;
* `simple_texts_decoded` puts these together.
-/

namespace Reshape.SimplePath

open Text (Reader isDecimalDigit ne_of_digit valueOf)
open Text.Reader
open scoped Computability

/-! ## The language -/

/-- The digits are a numeral of `n`, with zeros in front or not. -/
def IsNumeral (n : Nat) (digits : List Char) : Prop :=
  digits ≠ [] ∧ (∀ c ∈ digits, isDecimalDigit c = true) ∧ valueOf 10 digits = n

/-- The name is one that a dot may stand before. -/
def IsName (name : List Char) : Prop :=
  ∃ first rest, name = first :: rest ∧ isNameStart first = true ∧ ∀ c ∈ rest, isNameChar c = true

instance decidableIsName : (name : List Char) → Decidable (IsName name)
  | [] => .isFalse (by simp [IsName])
  | first :: rest =>
    decidable_of_iff (isNameStart first = true ∧ rest.all isNameChar = true) (by simp [IsName])

/-- Texts such as `.name`. -/
def keyTexts : Language Char := {text | ∃ name, text = '.' :: name ∧ IsName name}

/-- Texts such as `[3]` and `[003]`. -/
def indexTexts : Language Char :=
  {text | ∃ n digits, text = '[' :: (digits ++ [']']) ∧ IsNumeral n digits}

/-- Texts of one segment. -/
def segmentTexts : Language Char := keyTexts + indexTexts + {['[', '*', ']']}

/-- Texts of simple paths. -/
def pattern : Language Char := {['$']} * (segmentTexts * segmentTexts∗)

theorem Spelled.append {first second : SimplePath} {text rest : List Char}
    (h : Spelled first text) (more : Spelled second rest) :
    Spelled (first ++ second) (text ++ rest) := by
  induction h with
  | nil => exact more
  | key start inside _ ih => simpa using Spelled.key start inside ih
  | index digit digits _ ih => simpa using Spelled.index digit digits ih
  | every _ ih => exact .every ih

theorem spelled_single_of_mem {text : List Char} (h : text ∈ segmentTexts) :
    ∃ segment, Spelled [segment] text := by
  obtain (⟨_, rfl, first, rest, rfl, start, inside⟩ | ⟨_, digits, rfl, nonempty, decimal, _⟩) |
    every := h
  · exact ⟨_, by simpa using Spelled.key start inside .nil⟩
  · obtain ⟨first, rest, rfl⟩ := List.exists_cons_of_ne_nil nonempty
    obtain ⟨digit, digits⟩ := List.forall_mem_cons.1 decimal
    exact ⟨_, Spelled.index digit digits .nil⟩
  · obtain rfl : text = ['[', '*', ']'] := every
    exact ⟨_, .every .nil⟩

/-- A text of one segment, as the segment it spells. -/
theorem mem_segmentTexts_of_spelled {segment : Segment} {path : SimplePath} {text : List Char}
    (h : Spelled (segment :: path) text) :
    ∃ token rest, text = token ++ rest ∧ token ∈ segmentTexts ∧ Spelled path rest := by
  cases h with
  | @key first rest text _ start inside later =>
    have key : '.' :: first :: rest ∈ keyTexts := ⟨_, rfl, first, rest, rfl, start, inside⟩
    exact ⟨'.' :: first :: rest, text, by simp, .inl (.inl key), later⟩
  | @index first rest text _ digit digits later =>
    have index : '[' :: (first :: rest ++ [']']) ∈ indexTexts :=
      ⟨_, first :: rest, rfl, by simp, List.forall_mem_cons.2 ⟨digit, digits⟩, rfl⟩
    exact ⟨'[' :: (first :: rest ++ [']']), text, by simp, .inl (.inr index), later⟩
  | @every text _ later => exact ⟨['[', '*', ']'], text, rfl, .inr rfl, later⟩

theorem mem_kstar_iff {text : List Char} : text ∈ segmentTexts∗ ↔ ∃ path, Spelled path text := by
  rw [Language.mem_kstar]
  constructor
  · rintro ⟨tokens, rfl, each⟩
    induction tokens with
    | nil => exact ⟨[], .nil⟩
    | cons token tokens ih =>
      obtain ⟨first, others⟩ := List.forall_mem_cons.1 each
      obtain ⟨segment, here⟩ := spelled_single_of_mem first
      obtain ⟨path, later⟩ := ih others
      exact ⟨[segment] ++ path, here.append later⟩
  · rintro ⟨path, spelled⟩
    induction path generalizing text with
    | nil =>
      cases spelled
      exact ⟨[], rfl, nofun⟩
    | cons segment path ih =>
      obtain ⟨token, rest, rfl, here, later⟩ := mem_segmentTexts_of_spelled spelled
      obtain ⟨tokens, rfl, each⟩ := ih later
      exact ⟨token :: tokens, rfl, List.forall_mem_cons.2 ⟨here, each⟩⟩

/-- The texts of the pattern are those that spell at least one segment after a dollar. -/
theorem mem_pattern_iff {text : List Char} :
    text ∈ pattern ↔ ∃ chars path, text = '$' :: chars ∧ path ≠ [] ∧ Spelled path chars := by
  simp only [pattern, Language.mem_mul, mem_kstar_iff]
  constructor
  · rintro ⟨_, rfl, _, ⟨token, here, rest, ⟨path, later⟩, rfl⟩, rfl⟩
    obtain ⟨segment, here⟩ := spelled_single_of_mem here
    exact ⟨token ++ rest, [segment] ++ path, rfl, by simp, here.append later⟩
  · rintro ⟨chars, path, rfl, nonempty, spelled⟩
    obtain ⟨segment, path, rfl⟩ := List.exists_cons_of_ne_nil nonempty
    obtain ⟨token, rest, rfl, here, later⟩ := mem_segmentTexts_of_spelled spelled
    exact ⟨['$'], rfl, token ++ rest, ⟨token, here, rest, ⟨path, later⟩, rfl⟩, rfl⟩

/-! ## Reading -/

theorem segment_key {first : Char} {rest text : List Char} (start : isNameStart first = true)
    (inside : ∀ c ∈ rest, isNameChar c = true)
    (stop : ∀ c, text.head? = some c → c = '.' ∨ c = '[') :
    segment ('.' :: first :: (rest ++ text)) =
      some (.key (String.ofList (first :: rest)), text) := by
  have run : takeWhile isNameChar (rest ++ text) = some (rest, text) := by
    refine takeWhile_append inside fun c head => ?_
    obtain rfl | rfl := stop c head
    · rfl
    · rfl
  simp only [segment, orElse_apply, bind_apply, char_cons, if_true, Option.bind_some,
    satisfying_cons, start, run, pure_apply, Option.some_or]

theorem segment_index {first : Char} {rest text : List Char} (digit : isDecimalDigit first = true)
    (digits : ∀ c ∈ rest, isDecimalDigit c = true) :
    segment ('[' :: first :: (rest ++ ']' :: text)) =
      some (.index (valueOf 10 (first :: rest)), text) := by
  have run : takeWhile isDecimalDigit (rest ++ ']' :: text) = some (rest, ']' :: text) :=
    takeWhile_append digits fun c head => Option.some.inj head ▸ rfl
  have dot : char '.' ('[' :: first :: (rest ++ ']' :: text)) = none := rfl
  simp only [segment, orElse_apply, bind_apply, dot, Option.bind_none, Option.none_or, char_cons,
    if_true, Option.bind_some, takeWhile1, satisfying_cons, digit, run, pure_apply, Option.some_or]

theorem segment_every (text : List Char) :
    segment ('[' :: '*' :: ']' :: text) = some (.every, text) := rfl

/-- The first segment of a spelling is read off its front. -/
theorem segment_of_spelled {first : Segment} {path : SimplePath} {text : List Char}
    (h : Spelled (first :: path) text) :
    ∃ rest, segment text = some (first, rest) ∧ rest.length < text.length ∧ Spelled path rest := by
  cases h with
  | @key _ _ rest _ start inside later =>
    refine ⟨rest, segment_key start inside fun _ => later.head, ?_, later⟩
    simp only [List.length_cons, List.length_append]
    omega
  | @index _ _ rest _ digit digits later =>
    refine ⟨rest, segment_index digit digits, ?_, later⟩
    simp only [List.length_cons, List.length_append]
    omega
  | @every rest _ later =>
    refine ⟨rest, segment_every rest, ?_, later⟩
    simp only [List.length_cons]
    omega

theorem segment_nil : segment [] = none := rfl

theorem upTo_of_spelled {path : SimplePath} {text limit : List Char} (spelled : Spelled path text)
    (enough : text.length ≤ limit.length) : upTo limit segment text = some (path, []) := by
  induction path generalizing text limit with
  | nil =>
    cases spelled
    exact upTo_stop segment_nil
  | cons first path ih =>
    obtain ⟨rest, read, shorter, later⟩ := segment_of_spelled spelled
    obtain _ | ⟨c, limit⟩ := limit
    · simp only [List.length_nil] at enough
      omega
    · simp only [List.length_cons] at enough
      exact upTo_cons read (ih later (by omega))

/-- What is read as a simple path are the spellings of at least one segment after a dollar. -/
theorem segments?_eq_some_iff {text : String} {path : SimplePath} :
    segments? text = some path ↔
      ∃ chars, text.toList = '$' :: chars ∧ path ≠ [] ∧ Spelled path chars := by
  constructor
  · intro h
    obtain ⟨chars, same, spelled⟩ := spelled_of_segments? h
    refine ⟨chars, same, ?_, spelled⟩
    rintro rfl
    have read := run?_eq_some.1 h
    simp only [bind_eq_some, pure_apply] at read
    obtain ⟨_, _, _, _, _, _, _, _, _, same⟩ := read
    cases same
  · rintro ⟨chars, same, nonempty, spelled⟩
    obtain ⟨first, path, rfl⟩ := List.exists_cons_of_ne_nil nonempty
    obtain ⟨rest, read, _, later⟩ := segment_of_spelled spelled
    have others : many segment rest = some (path, []) := upTo_of_spelled later (Nat.le_refl _)
    rw [segments?, run?_eq_some, same]
    simp only [bind_apply, char_cons, if_true, Option.bind_some, read, others, pure_apply]

/-- The texts written as simple paths are those of the pattern. -/
theorem isSimple_iff {text : String} : isSimple text = true ↔ text.toList ∈ pattern := by
  simp only [isSimple, Option.isSome_iff_exists, segments?_eq_some_iff, mem_pattern_iff]
  exact exists_comm

/-! ## Searching -/

/-- The segments that start somewhere in a text: where none starts, a character is passed over. The
list `limit` bounds the steps. -/
def search : (limit : List Char) → List Char → SimplePath
  | [], _ => []
  | _ :: limit, text =>
    match segment text with
    | some (found, rest) => found :: search limit rest
    | none => search limit text.tail

theorem search_of_spelled {path : SimplePath} {text limit : List Char}
    (spelled : Spelled path text) (enough : text.length ≤ limit.length) :
    search limit text = path := by
  induction path generalizing text limit with
  | nil =>
    cases spelled
    clear enough
    induction limit with
    | nil => rfl
    | cons c limit ih => exact ih
  | cons first path ih =>
    obtain ⟨rest, read, shorter, later⟩ := segment_of_spelled spelled
    obtain _ | ⟨c, limit⟩ := limit
    · simp only [List.length_nil] at enough
      omega
    · simp only [List.length_cons] at enough
      rw [search, read]
      exact congrArg (first :: ·) (ih later (by omega))

/-- A search through the whole text of a simple path takes its segments. -/
theorem search_of_segments? {text : String} {path : SimplePath} (h : segments? text = some path) :
    search text.toList text.toList = path := by
  obtain ⟨chars, same, _, spelled⟩ := segments?_eq_some_iff.1 h
  have dollar : segment ('$' :: chars) = none := rfl
  rw [same, search, dollar]
  exact search_of_spelled spelled (Nat.le_refl _)

/-! ## Writing -/

/-- The name of a segment may stand behind a dot, and its index can address something. -/
def Segment.Plain : Segment → Prop
  | .key name => IsName name.toList
  | .index position => position < indexLimit
  | .every => True

instance Segment.decidablePlain : (segment : Segment) → Decidable segment.Plain
  | .key name => inferInstanceAs (Decidable (IsName name.toList))
  | .index position => inferInstanceAs (Decidable (position < indexLimit))
  | .every => inferInstanceAs (Decidable True)

/-- What a path is written as after the dollar. -/
def written (path : SimplePath) : List Char := path.flatMap fun segment => segment.render.toList

theorem toList_render (path : SimplePath) : path.render.toList = '$' :: written path := by
  have dollar : "$".toList = ['$'] := by decide
  rw [render, String.toList_append, String.toList_join, List.flatMap_map, dollar]
  rfl

theorem toList_render_key (name : String) :
    (Segment.key name).render.toList = '.' :: name.toList := by
  simp [Segment.render]

theorem toList_render_index (position : Nat) :
    (Segment.index position).render.toList = '[' :: (Nat.toDigits 10 position ++ [']']) := by
  simp [Segment.render]

theorem toList_render_every : Segment.every.render.toList = ['[', '*', ']'] := by
  decide

/-- A path is spelled by what it is written as. -/
theorem spelled_written {path : SimplePath} (plain : ∀ segment ∈ path, segment.Plain) :
    Spelled path (written path) := by
  induction path with
  | nil => exact .nil
  | cons segment path ih =>
    obtain ⟨first, others⟩ := List.forall_mem_cons.1 plain
    have later : Spelled path (written path) := ih others
    rw [written, List.flatMap_cons, ← written]
    cases segment with
    | key name =>
      obtain ⟨c, rest, same, start, inside⟩ := first
      have whole : name = String.ofList (c :: rest) := by rw [← same, String.ofList_toList]
      rw [toList_render_key, same, whole]
      exact .key start inside later
    | index position =>
      obtain ⟨c, rest, same⟩ := List.exists_cons_of_ne_nil
        (Nat.toDigits_ne_nil (n := position) (b := 10))
      have decimal : ∀ d ∈ c :: rest, isDecimalDigit d = true :=
        fun d member => Text.isDecimalDigit_of_mem_toDigits (same ▸ member)
      obtain ⟨digit, digits⟩ := List.forall_mem_cons.1 decimal
      have spelled := Spelled.index digit digits later
      rw [← same, Text.valueOf_toDigits] at spelled
      rw [toList_render_index, same]
      simpa using spelled
    | every =>
      rw [toList_render_every]
      exact .every later

/-- A spelled path is plain if its indices can address something. -/
theorem plain_of_spelled {path : SimplePath} {text : List Char} (h : Spelled path text)
    (addressable : ∀ segment ∈ path, segment.addressable = true) :
    ∀ segment ∈ path, segment.Plain := by
  induction h with
  | nil => nofun
  | @key first rest _ _ start inside _ ih =>
    obtain ⟨_, others⟩ := List.forall_mem_cons.1 addressable
    have name : IsName (String.ofList (first :: rest)).toList :=
      ⟨first, rest, String.toList_ofList, start, inside⟩
    exact List.forall_mem_cons.2 ⟨name, ih others⟩
  | index _ _ _ ih =>
    obtain ⟨first, others⟩ := List.forall_mem_cons.1 addressable
    have fits : _ < indexLimit := of_decide_eq_true first
    exact List.forall_mem_cons.2 ⟨fits, ih others⟩
  | every _ ih =>
    obtain ⟨_, others⟩ := List.forall_mem_cons.1 addressable
    exact List.forall_mem_cons.2 ⟨trivial, ih others⟩

/-! ## Needless zeros -/

/-- A text without the needless zeros in front of its indices. Before it stand only an opening
bracket and zeros taken away, if it is `fresh`. -/
def unpadded (fresh : Bool) : List Char → List Char
  | [] => []
  | c :: rest =>
    if fresh && c == '0' && rest.head?.any isDecimalDigit then unpadded true rest
    else c :: unpadded (c == '[') rest

theorem unpadded_run {run : List Char} (h : ∀ c ∈ run, c ≠ '[') (text : List Char) :
    unpadded false (run ++ text) = run ++ unpadded false text := by
  induction run with
  | nil => rfl
  | cons c run ih =>
    obtain ⟨first, others⟩ := List.forall_mem_cons.1 h
    have inside : (c == '[') = false := beq_eq_false_iff_ne.2 first
    rw [List.cons_append, unpadded, Bool.false_and, Bool.false_and, inside, ih others]
    rfl

theorem unpadded_digits {first : Char} {rest : List Char} (digit : isDecimalDigit first = true)
    (digits : ∀ c ∈ rest, isDecimalDigit c = true) (text : List Char) :
    unpadded true (first :: (rest ++ ']' :: text)) =
      Nat.toDigits 10 (valueOf 10 (first :: rest)) ++ ']' :: unpadded false text := by
  induction rest generalizing first with
  | nil =>
    have last : (first == '[') = false := beq_eq_false_iff_ne.2 (ne_of_digit digit rfl)
    have stop : isDecimalDigit ']' = false := rfl
    rw [Text.toDigits_valueOf_single digit]
    simp [unpadded, last, stop]
  | cons second rest ih =>
    obtain ⟨next, others⟩ := List.forall_mem_cons.1 digits
    by_cases zero : first = '0'
    · rw [zero, Text.valueOf_zero_cons, ← ih next others]
      simp [unpadded, next]
    · have inside : (first == '[') = false := beq_eq_false_iff_ne.2 (ne_of_digit digit rfl)
      have kept := unpadded_run (ne_bracket_of_digits digits) text
      rw [Text.toDigits_valueOf digit digits zero]
      simp only [List.append_assoc, List.singleton_append] at kept
      simp [unpadded, zero, inside, ← kept]

/-- A spelling differs from what its path is written as by needless zeros only. -/
theorem unpadded_of_spelled {path : SimplePath} {text : List Char} (h : Spelled path text) :
    unpadded false text = written path := by
  induction h with
  | nil => rfl
  | @key first rest text path start inside _ ih =>
    have kept := unpadded_run (ne_bracket_of_key start inside) text
    rw [written, List.flatMap_cons, ← written, toList_render_key, String.toList_ofList, ← ih]
    exact kept
  | @index first rest text path digit digits _ ih =>
    have inside := unpadded_digits digit digits text
    rw [written, List.flatMap_cons, ← written, toList_render_index, ← ih, List.cons_append,
      List.append_assoc]
    exact congrArg ('[' :: ·) inside
  | @every text path _ ih =>
    rw [written, List.flatMap_cons, ← written, toList_render_every, ← ih]
    rfl

/-! ## Indices -/

/-- The index `n` is written somewhere in the text, with zeros in front or not. -/
def HoldsIndex (n : Nat) (text : List Char) : Prop :=
  ∃ before digits after, text = before ++ '[' :: (digits ++ ']' :: after) ∧ IsNumeral n digits

namespace HoldsIndex

theorem cons_iff {n : Nat} {c : Char} {text : List Char} :
    HoldsIndex n (c :: text) ↔
      (c = '[' ∧ ∃ digits after, text = digits ++ ']' :: after ∧ IsNumeral n digits) ∨
        HoldsIndex n text := by
  constructor
  · rintro ⟨_ | ⟨d, before⟩, digits, after, same, numeral⟩
    · obtain ⟨rfl, rfl⟩ := List.cons.inj same
      exact .inl ⟨rfl, digits, after, rfl, numeral⟩
    · obtain ⟨rfl, rfl⟩ := List.cons.inj same
      exact .inr ⟨before, digits, after, rfl, numeral⟩
  · rintro (⟨rfl, digits, after, rfl, numeral⟩ | ⟨before, digits, after, rfl, numeral⟩)
    · exact ⟨[], digits, after, rfl, numeral⟩
    · exact ⟨c :: before, digits, after, rfl, numeral⟩

theorem run_iff {n : Nat} {run : List Char} (h : ∀ c ∈ run, c ≠ '[') (text : List Char) :
    HoldsIndex n (run ++ text) ↔ HoldsIndex n text := by
  induction run with
  | nil => rfl
  | cons c run ih =>
    obtain ⟨first, others⟩ := List.forall_mem_cons.1 h
    rw [List.cons_append, cons_iff, ih others]
    simp [first]

theorem every_iff {n : Nat} {text : List Char} :
    HoldsIndex n ('[' :: '*' :: ']' :: text) ↔ HoldsIndex n text := by
  have star : ¬ ∃ digits after, '*' :: ']' :: text = digits ++ ']' :: after ∧
      IsNumeral n digits := by
    rintro ⟨_ | ⟨c, digits⟩, after, same, nonempty, decimal, _⟩
    · exact nonempty rfl
    · obtain ⟨rfl, _⟩ := List.cons.inj same
      cases decimal '*' List.mem_cons_self
  have later : HoldsIndex n ('*' :: ']' :: text) ↔ HoldsIndex n text :=
    run_iff (show ∀ c ∈ ['*', ']'], c ≠ '[' by simp) text
  rw [cons_iff, later]
  exact or_iff_right fun here => star here.2

/-- Of a numeral in brackets, the index is its value and not that of a part. -/
theorem bracket_iff {n m : Nat} {digits text : List Char} (numeral : IsNumeral m digits) :
    HoldsIndex n ('[' :: (digits ++ ']' :: text)) ↔ n = m ∨ HoldsIndex n text := by
  obtain ⟨nonempty, decimal, value⟩ := numeral
  have later : HoldsIndex n (digits ++ ']' :: text) ↔ HoldsIndex n text := by
    have passed := run_iff (n := n) (ne_bracket_of_digits decimal) text
    simpa using passed
  rw [cons_iff, later]
  refine or_congr_left ⟨?_, ?_⟩
  · rintro ⟨_, others, after, same, _, otherDecimal, rfl⟩
    have stop (rest : List Char) (c : Char) (head : (']' :: rest).head? = some c) :
        isDecimalDigit c = false := Option.some.inj head ▸ rfl
    -- Both runs of digits end where the first bracket closes.
    have here := takeWhile_append decimal (stop text)
    have there := takeWhile_append otherDecimal (stop after)
    rw [same, there] at here
    cases here
    exact value
  · rintro rfl
    exact ⟨rfl, digits, text, rfl, nonempty, decimal, value⟩

end HoldsIndex

/-- A spelling of a path holds the indices of the path. -/
theorem holdsIndex_iff {path : SimplePath} {text : List Char} (h : Spelled path text) (n : Nat) :
    HoldsIndex n text ↔ .index n ∈ path := by
  induction h with
  | nil =>
    have nowhere : ¬ HoldsIndex n [] := by
      rintro ⟨before, digits, after, same, _⟩
      simp at same
    simp [nowhere]
  | @key _ _ text _ start inside _ ih =>
    have passed := HoldsIndex.run_iff (n := n) (ne_bracket_of_key start inside) text
    simpa [ih] using passed
  | @index first rest text path digit digits _ ih =>
    have numeral : IsNumeral (valueOf 10 (first :: rest)) (first :: rest) :=
      ⟨List.cons_ne_nil _ _, List.forall_mem_cons.2 ⟨digit, digits⟩, rfl⟩
    have here : HoldsIndex n ('[' :: (first :: rest ++ ']' :: text)) ↔
        n = valueOf 10 (first :: rest) ∨ HoldsIndex n text :=
      HoldsIndex.bracket_iff numeral
    simpa [ih] using here
  | every _ ih =>
    rw [HoldsIndex.every_iff, ih]
    simp

/-! ## Whole texts -/

theorem parse?_eq_some_iff {text : String} {path : SimplePath} :
    parse? text = some path ↔
      segments? text = some path ∧ ∀ segment ∈ path, segment.addressable = true := by
  rw [parse?, Option.filter_eq_some_iff, List.all_eq_true]

theorem addressable_of_plain {segment : Segment} (plain : segment.Plain) :
    segment.addressable = true := by
  cases segment with
  | index position => exact decide_eq_true plain
  | key | every => rfl

/-- A path is read back from what it is written as. -/
theorem parse?_render {path : SimplePath} (nonempty : path ≠ [])
    (plain : ∀ segment ∈ path, segment.Plain) : parse? path.render = some path := by
  have spelled : Spelled path (written path) := spelled_written plain
  have read : segments? path.render = some path :=
    segments?_eq_some_iff.2 ⟨written path, toList_render path, nonempty, spelled⟩
  exact parse?_eq_some_iff.2
    ⟨read, fun segment member => addressable_of_plain (plain segment member)⟩

/-- What is read is written as the text is, needless zeros apart. -/
theorem unpadded_of_parse? {text : String} {path : SimplePath} (h : parse? text = some path) :
    path ≠ [] ∧ (∀ segment ∈ path, segment.Plain) ∧
      unpadded false text.toList = path.render.toList := by
  obtain ⟨read, addressable⟩ := parse?_eq_some_iff.1 h
  obtain ⟨chars, same, nonempty, spelled⟩ := segments?_eq_some_iff.1 read
  refine ⟨nonempty, plain_of_spelled spelled addressable, ?_⟩
  have dollar : unpadded false ('$' :: chars) = '$' :: unpadded false chars :=
    unpadded_run (show ∀ c ∈ ['$'], c ≠ '[' by simp) chars
  rw [same, toList_render, dollar, unpadded_of_spelled spelled]

theorem not_addressable_iff {path : SimplePath} :
    (¬ ∀ segment ∈ path, segment.addressable = true) ↔ ∃ n, indexLimit ≤ n ∧ .index n ∈ path := by
  constructor
  · intro refused
    simp only [not_forall] at refused
    obtain ⟨segment, member, lost⟩ := refused
    cases segment with
    | index n =>
      have great : ¬ n < indexLimit := fun fits => lost (decide_eq_true fits)
      exact ⟨n, Nat.not_lt.1 great, member⟩
    | key | every => exact absurd rfl lost
  · rintro ⟨n, great, member⟩ addressable
    have fits : n < indexLimit := of_decide_eq_true (addressable _ member)
    omega

/-- Refused are the texts outside the pattern and those with too great an index. -/
theorem parse?_eq_none_iff {text : String} :
    parse? text = none ↔
      text.toList ∉ pattern ∨ ∃ n, indexLimit ≤ n ∧ HoldsIndex n text.toList := by
  cases read : segments? text with
  | none =>
    have outside : text.toList ∉ pattern := by
      rw [← isSimple_iff, isSimple, read]
      simp
    simp [parse?, read, outside]
  | some path =>
    obtain ⟨chars, same, nonempty, spelled⟩ := segments?_eq_some_iff.1 read
    have inside : text.toList ∈ pattern := mem_pattern_iff.2 ⟨chars, path, same, nonempty, spelled⟩
    have holds (n : Nat) : HoldsIndex n text.toList ↔ .index n ∈ path := by
      have passed := HoldsIndex.run_iff (n := n) (show ∀ c ∈ ['$'], c ≠ '[' by simp) chars
      rw [same]
      exact passed.trans (holdsIndex_iff spelled n)
    rw [parse?, read, Option.filter_eq_none_iff]
    simp only [inside, not_true, false_or, holds, ← not_addressable_iff, ← List.all_eq_true]
    exact ⟨fun refused => refused path rfl, fun refused _ here => Option.some.inj here ▸ refused⟩

theorem solid_of_parse? {text : String} {path : SimplePath} (h : parse? text = some path) :
    Text.isBlankText text = false := by
  obtain ⟨chars, same, _⟩ := segments?_eq_some_iff.1 (parse?_eq_some_iff.1 h).1
  have dollar : Text.isBlank '$' = false := by decide
  rw [Text.isBlankText, same, List.all_cons, dollar]
  rfl

/-- A text that is not blank is taken as a general query just when it is refused here. -/
theorem parse?_eq_none_iff_compile {text : String} (solid : Text.isBlankText text = false) :
    parse? text = none ↔ Path.compile text = Path.compileGeneral text := by
  unfold Path.compile
  rw [if_neg (by simp [solid])]
  cases read : parse? text with
  | none => simp
  | some path =>
    simp only [reduceCtorEq, false_iff, Path.compileGeneral]
    split <;> nofun

/-- **Simple paths are decoded faithfully.** What a path is written as is read back as the path. A
text that is read as a path is written as the path is, needless zeros of indices apart, and a search
for segments through the whole text takes just those of the path. Refused are the texts outside the
pattern and those with too great an index; unless they are blank, they are taken as general queries,
and no other texts are. -/
theorem simple_texts_decoded :
    (∀ path : SimplePath, path ≠ [] → (∀ segment ∈ path, segment.Plain) →
      parse? path.render = some path) ∧
    (∀ text path, parse? text = some path →
      path ≠ [] ∧ (∀ segment ∈ path, segment.Plain) ∧
        unpadded false text.toList = path.render.toList ∧
        search text.toList text.toList = path) ∧
    (∀ text, parse? text = none ↔
      text.toList ∉ pattern ∨ ∃ n, indexLimit ≤ n ∧ HoldsIndex n text.toList) ∧
    ∀ text, Text.isBlankText text = false →
      (parse? text = none ↔ Path.compile text = Path.compileGeneral text) := by
  refine ⟨fun _ => parse?_render, ?_, fun _ => parse?_eq_none_iff,
    fun _ => parse?_eq_none_iff_compile⟩
  intro text path parsed
  obtain ⟨nonempty, plain, same⟩ := unpadded_of_parse? parsed
  exact ⟨nonempty, plain, same, search_of_segments? (parse?_eq_some_iff.1 parsed).1⟩

/-- `$.a[007][*]` is written without the zeros as `$.a[7][*]`, and `$..a` is no simple path. -/
theorem padded_path_decoded :
    let path : SimplePath := [.key "a", .index 7, .every]
    (path ≠ [] ∧ (∀ segment ∈ path, segment.Plain) ∧ parse? path.render = some path) ∧
    (parse? "$.a[007][*]" = some path ∧
      unpadded false "$.a[007][*]".toList = path.render.toList ∧
      search "$.a[007][*]".toList "$.a[007][*]".toList = path) ∧
    Text.isBlankText "$..a" = false ∧ parse? "$..a" = none ∧
      Path.compile "$..a" = Path.compileGeneral "$..a" := by
  intro path
  obtain ⟨decodes, written, _, compiles⟩ := simple_texts_decoded
  have nonempty : path ≠ [] := List.cons_ne_nil _ _
  have parsed : parse? "$.a[007][*]" = some path := by decide +kernel
  obtain ⟨_, plain, same, searched⟩ := written _ _ parsed
  have solid : Text.isBlankText "$..a" = false := by decide
  have refused : parse? "$..a" = none := by decide +kernel
  exact ⟨⟨nonempty, plain, decodes path nonempty plain⟩, ⟨parsed, same, searched⟩, solid, refused,
    (compiles _ solid).1 refused⟩

end Reshape.SimplePath
