import Reshape.Text.Reader

/-!
# What readers make of a text

A law for each way to build a reader says what it takes from the front of a text:

* sequences and alternatives, single characters, runs of characters;
* `upTo_cons` and `upTo_stop` follow a repetition item by item;
* `Repeats` is a whole repetition, `Repeats.many` what a reader makes of it, and `many_run` the
  case of single characters.
-/

namespace Reshape.Text.Reader

variable {α β : Type}

@[simp] theorem pure_apply (a : α) (text : List Char) : (pure a : Reader α) text = some (a, text) :=
  rfl

theorem bind_apply (reader : Reader α) (next : α → Reader β) (text : List Char) :
    (reader >>= next) text = (reader text).bind fun read => next read.1 read.2 := rfl

theorem bind_eq_some {reader : Reader α} {next : α → Reader β} {text : List Char}
    {read : β × List Char} :
    (reader >>= next) text = some read ↔
      ∃ a between, reader text = some (a, between) ∧ next a between = some read := by
  simp only [bind_apply, Option.bind_eq_some_iff, Prod.exists]

theorem map_apply (f : α → β) (reader : Reader α) (text : List Char) :
    (f <$> reader) text = (reader text).map fun read => (f read.1, read.2) := by
  change ((reader text).bind fun read => some (f read.1, read.2)) = _
  cases reader text <;> rfl

theorem orElse_apply (first second : Reader α) (text : List Char) :
    (first <|> second) text = (first text).or (second text) := by
  change (first text <|> second text) = _
  cases first text <;> rfl

theorem satisfying_cons (p : Char → Bool) (c : Char) (rest : List Char) :
    satisfying p (c :: rest) = if p c then some (c, rest) else none := by
  change (if p c then pure c else failure : Reader Char) rest = _
  split <;> rfl

theorem satisfying_eq_some {p : Char → Bool} {c : Char} {text rest : List Char}
    (h : satisfying p text = some (c, rest)) : text = c :: rest ∧ p c = true := by
  cases text with
  | nil => cases h
  | cons d text =>
    rw [satisfying_cons] at h
    split at h
    · rename_i holds
      cases h
      exact ⟨rfl, holds⟩
    · cases h

theorem char_cons (c d : Char) (rest : List Char) :
    char c (d :: rest) = if d = c then some ((), rest) else none := by
  rw [char, bind_apply, satisfying_cons]
  by_cases h : d = c
  · simp [h]
  · simp [h]

theorem char_eq_some {c : Char} {text rest : List Char} {u : Unit}
    (h : char c text = some (u, rest)) : text = c :: rest := by
  simp only [char, bind_eq_some, pure_apply] at h
  obtain ⟨d, between, read, same⟩ := h
  obtain ⟨rfl, found⟩ := satisfying_eq_some read
  cases same
  rw [beq_iff_eq.1 found]

theorem char?_apply (c : Char) (text : List Char) :
    char? c text =
      if text.head? = some c then some (true, text.tail) else some (false, text) := by
  rw [char?, orElse_apply, bind_apply]
  cases text with
  | nil => rfl
  | cons d rest =>
    rw [char_cons]
    by_cases same : d = c
    · simp [same]
    · simp [same]

theorem word_apply (text : String) (rest : List Char) : word text rest = chars text.toList rest :=
  rfl

theorem chars_eq_some {word text rest : List Char} {u : Unit}
    (h : chars word text = some (u, rest)) : text = word ++ rest := by
  induction word generalizing text with
  | nil => cases h; rfl
  | cons c word ih =>
    simp only [chars, bind_eq_some] at h
    obtain ⟨_, between, first, others⟩ := h
    rw [char_eq_some first, ih others, List.cons_append]

/-- A run stops before the first character that does not belong to it. -/
theorem takeWhile_append {p : Char → Bool} {run rest : List Char} (inside : ∀ c ∈ run, p c = true)
    (outside : ∀ c, rest.head? = some c → p c = false) :
    takeWhile p (run ++ rest) = some (run, rest) := by
  have ends : rest.takeWhile p = [] ∧ rest.dropWhile p = rest := by
    cases rest with
    | nil => exact ⟨rfl, rfl⟩
    | cons c rest => simp [outside c rfl]
  rw [takeWhile, List.takeWhile_append_of_pos inside, List.dropWhile_append_of_pos inside, ends.1,
    ends.2, List.append_nil]

theorem takeWhile_eq_some {p : Char → Bool} {text run rest : List Char}
    (h : takeWhile p text = some (run, rest)) : text = run ++ rest ∧ ∀ c ∈ run, p c = true := by
  cases h
  exact ⟨List.takeWhile_append_dropWhile.symm, List.all_eq_true.1 List.all_takeWhile⟩

theorem skipWhile_stop {p : Char → Bool} {c : Char} {rest : List Char} (h : p c = false) :
    skipWhile p (c :: rest) = some ((), c :: rest) := by
  simp [skipWhile, h]

theorem take_eq_some {n : Nat} {text run rest : List Char} (h : take n text = some (run, rest)) :
    text = run ++ rest := by
  induction n generalizing text run with
  | zero => cases h; rfl
  | succ n ih =>
    simp only [take, bind_eq_some, pure_apply] at h
    obtain ⟨c, between, first, others, last, later, same⟩ := h
    cases same
    cases text with
    | nil => cases first
    | cons d text =>
      cases first
      rw [ih later, List.cons_append]

theorem run?_eq_some {reader : Reader α} {text : String} {a : α} :
    run? reader text = some a ↔ reader text.toList = some (a, []) := by
  unfold run?
  constructor
  · intro h
    split at h
    · rename_i read
      cases h
      exact read
    · cases h
  · intro read
    rw [read]

/-! ## Repetition -/

theorem upTo_cons {item : Reader α} {limit text between rest : List Char} {a : α} {as : List α}
    {c : Char} (first : item text = some (a, between))
    (others : upTo limit item between = some (as, rest)) :
    upTo (c :: limit) item text = some (a :: as, rest) := by
  rw [upTo, orElse_apply, bind_apply, first]
  simp only [Option.bind_some, bind_apply, others, pure_apply, Option.some_or]

/-- What a repetition reads: nothing, or an item and what a shorter repetition reads. -/
theorem upTo_eq_some {item : Reader α} {limit text rest : List Char} {as : List α}
    (h : upTo limit item text = some (as, rest)) :
    (as = [] ∧ rest = text) ∨ ∃ c shorter a more between, limit = c :: shorter ∧ as = a :: more ∧
      item text = some (a, between) ∧ upTo shorter item between = some (more, rest) := by
  cases limit with
  | nil => cases h; exact .inl ⟨rfl, rfl⟩
  | cons c shorter =>
    rw [upTo, orElse_apply, Option.or_eq_some_iff] at h
    obtain read | ⟨_, none⟩ := h
    · simp only [bind_apply, Option.bind_eq_some_iff, pure_apply] at read
      obtain ⟨⟨a, between⟩, first, ⟨more, last⟩, others, same⟩ := read
      cases same
      exact .inr ⟨c, shorter, a, more, between, rfl, rfl, first, others⟩
    · cases none
      exact .inl ⟨rfl, rfl⟩

theorem upTo_stop {item : Reader α} {limit text : List Char} (h : item text = none) :
    upTo limit item text = some ([], text) := by
  cases limit with
  | nil => rfl
  | cons l limit =>
    rw [upTo, orElse_apply, bind_apply, h]
    rfl

/-- A reader takes values from a text, one after another, until it fails. -/
inductive Repeats (item : Reader α) : List Char → List α → List Char → Prop where
  | stop {text : List Char} (fails : item text = none) : Repeats item text [] text
  | next {text between rest : List Char} {a : α} {as : List α}
      (first : item text = some (a, between)) (others : Repeats item between as rest) :
      Repeats item text (a :: as) rest

/-- A repetition reads the values if it may read so many. -/
theorem Repeats.upTo {item : Reader α} {text rest : List Char} {as : List α}
    (repeats : Repeats item text as rest) {limit : List Char} (enough : as.length ≤ limit.length) :
    upTo limit item text = some (as, rest) := by
  induction repeats generalizing limit with
  | stop fails => exact upTo_stop fails
  | next first _ ih =>
    obtain _ | ⟨l, limit⟩ := limit
    · cases enough
    · exact upTo_cons first (ih (Nat.le_of_succ_le_succ enough))

theorem Repeats.many {item : Reader α} {text rest : List Char} {as : List α}
    (repeats : Repeats item text as rest) (enough : as.length ≤ text.length) :
    many item text = some (as, rest) :=
  repeats.upTo enough

/-- Characters that are read one by one, up to a text where that fails. -/
theorem repeats_run {item : Reader Char} {run rest : List Char}
    (each : ∀ c ∈ run, ∀ after, item (c :: after) = some (c, after)) (fails : item rest = none) :
    Repeats item (run ++ rest) run rest := by
  induction run with
  | nil => exact .stop fails
  | cons c run ih =>
    obtain ⟨here, later⟩ := List.forall_mem_cons.1 each
    exact .next (here (run ++ rest)) (ih later)

theorem many_run {item : Reader Char} {run rest : List Char}
    (each : ∀ c ∈ run, ∀ after, item (c :: after) = some (c, after)) (fails : item rest = none) :
    many item (run ++ rest) = some (run, rest) :=
  (repeats_run each fails).many (by simp)

end Reshape.Text.Reader
