import Mathlib.Data.List.DropRight
import Reshape.Text.Blank

/-!
# Trimming

Texts without blanks around them:

* `trim_eq_self_iff`: trimming changes nothing just when the text is `Tidy`, with no blank at either
  end;
* `trim_trim` and `isBlankText_trim`: what is trimmed is tidy, and blank only if all of it was.
-/

namespace Reshape.Text

/-- No blank stands at either end of the text. -/
def Tidy (s : String) : Prop :=
  (∀ c ∈ s.toList.head?, isBlank c = false) ∧ ∀ c ∈ s.toList.getLast?, isBlank c = false

theorem trimStartChars_eq_self_iff {s : List Char} :
    trimStartChars s = s ↔ ∀ c ∈ s.head?, isBlank c = false := by
  rw [trimStartChars, List.dropWhile_eq_self_iff]
  cases s <;> simp

theorem trimEndChars_eq_self_iff {s : List Char} :
    trimEndChars s = s ↔ ∀ c ∈ s.getLast?, isBlank c = false := by
  change s.rdropWhile isBlank = s ↔ _
  rw [List.rdropWhile_eq_self_iff]
  cases s <;> simp [List.getLast?_eq_some_getLast]

/-- Trimming takes nothing off just when there is no blank at either end. -/
theorem trim_eq_self_iff {s : String} : trim s = s ↔ Tidy s := by
  rw [Tidy, ← trimStartChars_eq_self_iff, ← trimEndChars_eq_self_iff, ← String.toList_inj, trim,
    String.toList_ofList]
  constructor
  · intro same
    have part : trimEndChars (trimStartChars s.toList) <+: trimStartChars s.toList :=
      List.rdropWhile_prefix isBlank _
    have start : trimStartChars s.toList <:+ s.toList := List.dropWhile_suffix _
    rw [same] at part
    -- Nothing is shorter at the end, so nothing was taken off the start.
    have whole : trimStartChars s.toList = s.toList :=
      start.eq_of_length (Nat.le_antisymm start.length_le part.length_le)
    exact ⟨whole, by rwa [whole] at same⟩
  · rintro ⟨start, last⟩
    rw [start, last]

/-- What is left of characters after trimming does not start with a blank. -/
theorem dropWhile_trimmed (s : List Char) :
    (trimEndChars (trimStartChars s)).dropWhile isBlank = trimEndChars (trimStartChars s) := by
  have front : (trimStartChars s).dropWhile isBlank = trimStartChars s :=
    List.dropWhile_idempotent isBlank s
  have part : trimEndChars (trimStartChars s) <+: trimStartChars s :=
    List.rdropWhile_prefix isBlank _
  rw [List.dropWhile_eq_self_iff] at front ⊢
  intro positive
  have longer := part.length_le
  rw [part.getElem positive]
  exact front (by omega)

theorem trim_trim (name : String) : trim (trim name) = trim name := by
  simp only [trim, String.toList_ofList]
  rw [trimStartChars, dropWhile_trimmed]
  exact congrArg String.ofList (List.rdropWhile_idempotent isBlank _)

theorem all_dropWhile_isBlank (s : List Char) :
    (s.dropWhile isBlank).all isBlank = s.all isBlank := by
  induction s with
  | nil => rfl
  | cons c rest ih =>
    cases blank : isBlank c with
    | true => simp [blank, ih]
    | false => simp [blank]

theorem isBlankText_trim (name : String) : isBlankText (trim name) = isBlankText name := by
  simp only [isBlankText, trim, String.toList_ofList, trimEndChars, trimStartChars,
    List.all_reverse, all_dropWhile_isBlank]

end Reshape.Text
