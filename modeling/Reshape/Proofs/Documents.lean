import Reshape.Json.Reader
import Reshape.Proofs.Equality
import Reshape.Proofs.Reading

/-!
# Values that are read

What is read from a text has distinct keys in every object:

* `Yields` says of a reader that its values have a property, with one law for each way to build a
  reader;
* `wellFormed_of_parse?` is the case of JSON texts.
-/

namespace Reshape

namespace Text.Reader

variable {α β : Type} {P : α → Prop} {Q : β → Prop}

/-- Every value that the reader takes from a text has the property. -/
def Yields (P : α → Prop) (reader : Reader α) : Prop :=
  ∀ text a rest, reader text = some (a, rest) → P a

namespace Yields

theorem pure {a : α} (h : P a) : Yields P (Pure.pure a : Reader α) := by
  intro text b rest read
  cases read
  exact h

theorem bind {reader : Reader α} {next : α → Reader β} (first : Yields P reader)
    (later : ∀ a, P a → Yields Q (next a)) : Yields Q (reader >>= next) := by
  intro text b rest read
  obtain ⟨a, between, here, there⟩ := bind_eq_some.1 read
  exact later a (first text a between here) between b rest there

/-- What comes before a reader is of no account if its values always have the property. -/
theorem after {reader : Reader α} {next : α → Reader β} (later : ∀ a, Yields Q (next a)) :
    Yields Q (reader >>= next) := by
  intro text b rest read
  obtain ⟨a, between, _, there⟩ := bind_eq_some.1 read
  exact later a between b rest there

theorem map {f : α → β} {reader : Reader α} (h : Yields P reader) (each : ∀ a, P a → Q (f a)) :
    Yields Q (f <$> reader) := by
  intro text b rest read
  rw [map_apply, Option.map_eq_some_iff] at read
  obtain ⟨⟨a, between⟩, here, same⟩ := read
  cases same
  exact each a (h text a between here)

theorem orElse {first second : Reader α} (h : Yields P first) (k : Yields P second) :
    Yields P (first <|> second) := by
  intro text a rest read
  rw [orElse_apply, Option.or_eq_some_iff] at read
  obtain here | ⟨_, there⟩ := read
  · exact h text a rest here
  · exact k text a rest there

theorem upTo {item : Reader α} (h : Yields P item) (limit : List Char) :
    Yields (fun as => ∀ a ∈ as, P a) (upTo limit item) := by
  induction limit with
  | nil => exact .pure nofun
  | cons c limit ih =>
    refine orElse ?_ (.pure nofun)
    refine bind h fun a first => bind ih fun as others => .pure ?_
    exact List.forall_mem_cons.2 ⟨first, others⟩

theorem separated {item : Reader α} (h : Yields P item) (separator : Reader Unit) :
    Yields (fun as => ∀ a ∈ as, P a) (separated item separator) := by
  refine bind h fun a first => ?_
  have later : Yields P (do separator; item) := after fun _ => h
  have many : Yields (fun as => ∀ a ∈ as, P a) (many (do separator; item)) :=
    fun text as rest read => upTo later text text as rest read
  exact bind many fun as others => .pure (List.forall_mem_cons.2 ⟨first, others⟩)

end Yields

end Text.Reader

namespace Json

open Text (Reader)
open Text.Reader

theorem yields_bracketed {α : Type} {P : α → Prop} {item : Reader α} (h : Yields P item)
    (opening closing : Char) :
    Yields (fun as => ∀ a ∈ as, P a) (Reader.bracketed opening closing item) := by
  refine .after fun _ => .after fun _ => .after fun closed => ?_
  cases closed with
  | true => exact .pure nofun
  | false =>
    refine Yields.bind (h.separated _) fun as each => ?_
    exact .after fun _ => .after fun _ => .pure each

theorem yields_member {value : Reader Json} (h : Yields WellFormed value) :
    Yields (fun member => member.2.WellFormed) (Reader.member value) := by
  refine .after fun key => .after fun _ => .after fun _ => .after fun _ => ?_
  exact Yields.bind h fun a sound => .pure sound

theorem yields_scalar : Yields WellFormed Reader.scalar := by
  have word (text : String) {value : Json} (h : value.WellFormed) :
      Yields WellFormed (do word text; pure value) :=
    .after fun _ => .pure h
  have anything {α : Type} (reader : Reader α) : Yields (fun _ => True) reader :=
    fun _ _ _ _ => trivial
  refine .orElse (word _ .null) (.orElse (word _ (.bool _)) (.orElse (word _ (.bool _)) ?_))
  exact .orElse ((anything _).map fun text _ => .string text)
    ((anything _).map fun n _ => .number n)

theorem yields_value (depth : Nat) : Yields WellFormed (Reader.value depth) := by
  induction depth with
  | zero => exact yields_scalar
  | succ depth ih =>
    refine .orElse yields_scalar (.orElse ?_ ?_)
    · exact (yields_bracketed ih _ _).map fun items each => .array each
    · refine (yields_bracketed (yields_member ih) _ _).map fun members each => ?_
      exact .object (Keyed.distinct_ofList members) fun member present =>
        each member (Keyed.mem_ofList present)

/-- No object in a value that is read from a text holds a key twice. -/
theorem wellFormed_of_parse? {text : String} {value : Json} (h : parse? text = some value) :
    value.WellFormed := by
  have whole : Yields WellFormed
      (do Reader.blanks; let v ← Reader.value maxNesting; Reader.blanks; pure v) :=
    .after fun _ => Yields.bind (yields_value maxNesting) fun _ sound => .after fun _ => .pure sound
  exact whole _ _ _ (run?_eq_some.1 h)

end Json

end Reshape
