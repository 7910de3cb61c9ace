import Reshape.Path
import Reshape.Proofs.Digits
import Reshape.Proofs.Reading

/-!
# How simple paths are spelled

`SimplePath.Spelled` is the grammar of the segments of a simple path, and `spelled_of_segments?`
says that what is read follows it. A bracket stands only in front of an index or a star.
-/

namespace Reshape

open Text (Reader isDecimalDigit ne_of_digit valueOf)
open Text.Reader

namespace SimplePath

/-- The segments of a simple path, as characters. -/
inductive Spelled : SimplePath → List Char → Prop where
  | nil : Spelled [] []
  | key {first : Char} {rest text : List Char} {path : SimplePath} :
      isNameStart first = true → (∀ c ∈ rest, isNameChar c = true) → Spelled path text →
      Spelled (.key (String.ofList (first :: rest)) :: path) ('.' :: first :: (rest ++ text))
  | index {first : Char} {rest text : List Char} {path : SimplePath} :
      isDecimalDigit first = true → (∀ c ∈ rest, isDecimalDigit c = true) → Spelled path text →
      Spelled (.index (valueOf 10 (first :: rest)) :: path) ('[' :: first :: (rest ++ ']' :: text))
  | every {text : List Char} {path : SimplePath} :
      Spelled path text → Spelled (.every :: path) ('[' :: '*' :: ']' :: text)

/-- What follows a segment starts with a dot or a bracket. -/
theorem Spelled.head {path : SimplePath} {text : List Char} (h : Spelled path text) {c : Char}
    (first : text.head? = some c) : c = '.' ∨ c = '[' := by
  cases h with
  | nil => cases first
  | key => exact .inl (Option.some.inj first).symm
  | index | every => exact .inr (Option.some.inj first).symm

theorem ne_bracket_of_key {first : Char} {rest : List Char} (start : isNameStart first = true)
    (inside : ∀ c ∈ rest, isNameChar c = true) : ∀ c ∈ '.' :: first :: rest, c ≠ '[' := by
  intro c member
  simp only [List.mem_cons] at member
  obtain rfl | rfl | member := member
  · decide
  · rintro rfl
    cases start
  · rintro rfl
    cases inside '[' member

theorem ne_bracket_of_digits {digits : List Char}
    (decimal : ∀ c ∈ digits, isDecimalDigit c = true) : ∀ c ∈ digits ++ [']'], c ≠ '[' := by
  intro c member
  obtain digit | last := List.mem_append.1 member
  · exact ne_of_digit (decimal c digit) rfl
  · rw [List.mem_singleton.1 last]
    decide

theorem spelled_cons {first : Segment} {path : SimplePath} {text rest : List Char}
    (read : segment text = some (first, rest)) (h : Spelled path rest) :
    Spelled (first :: path) text := by
  simp only [segment, orElse_apply, Option.or_eq_some_iff, bind_eq_some, takeWhile1, pure_apply,
    word_apply] at read
  obtain ⟨_, _, dot, c, _, start, run, _, inside, same⟩ |
    ⟨_, ⟨_, _, opening, _, _, ⟨c, _, start, run, _, inside, digits⟩, _, _, closing, same⟩ |
      ⟨_, _, _, star, same⟩⟩ := read
  · cases same
    obtain rfl := char_eq_some dot
    obtain ⟨rfl, starts⟩ := satisfying_eq_some start
    obtain ⟨rfl, all⟩ := takeWhile_eq_some inside
    exact .key starts all h
  · cases same
    cases digits
    obtain rfl := char_eq_some opening
    obtain ⟨rfl, starts⟩ := satisfying_eq_some start
    obtain ⟨rfl, all⟩ := takeWhile_eq_some inside
    obtain rfl := char_eq_some closing
    exact .index starts all h
  · cases same
    obtain rfl := chars_eq_some star
    exact .every h

theorem spelled_of_upTo {limit text : List Char} {path : SimplePath}
    (h : upTo limit segment text = some (path, [])) : Spelled path text := by
  induction limit generalizing text path with
  | nil =>
    cases h
    exact .nil
  | cons c limit ih =>
    obtain ⟨rfl, rfl⟩ | ⟨_, shorter, first, rest, between, same, rfl, read, others⟩ :=
      upTo_eq_some h
    · exact .nil
    · cases same
      exact spelled_cons read (ih others)

/-- What is read as a simple path is spelled as one. -/
theorem spelled_of_segments? {text : String} {path : SimplePath} (h : segments? text = some path) :
    ∃ chars, text.toList = '$' :: chars ∧ Spelled path chars := by
  have read := run?_eq_some.1 h
  simp only [bind_eq_some, pure_apply, many] at read
  obtain ⟨_, chars, root, first, _, start, rest, _, others, same⟩ := read
  cases same
  exact ⟨chars, char_eq_some root, spelled_cons start (spelled_of_upTo others)⟩

end SimplePath

end Reshape
