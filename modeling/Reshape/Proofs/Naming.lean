import Reshape.Proofs.Chains
import Reshape.Proofs.Resolution
import Reshape.Proofs.Trimming

/-!
# Names of modifiers in rules

A modifier is registered under its name as it is, and a rule refers to it by a text whose blanks at
the ends do not count:

* `ofJson_of_register`: the name of a registered modifier is always accepted in a rule;
* `apply_own`: without blanks at its ends it refers to the modifier registered under it;
* `agree_untidy`: with such blanks it refers to what it referred to before the registration;
* `referable_iff` and `registered_names_referable` put these together.
-/

namespace Reshape

namespace Registry

variable {registry extended : Registry} {name : String} {operation : Operation}

theorem ofJson_of_register (registered : registry.register name operation = .ok extended)
    (key : String) : Modifier.ofJson key (.string name) = .ok (.named (Text.trim name)) := by
  obtain ⟨solid, _⟩ := register_eq_ok.1 registered
  simp [Modifier.ofJson, solid]

/-- The modifier of a tidy name is the one registered last, whatever else has the name. -/
theorem apply_own (registered : registry.register name operation = .ok extended)
    (tidy : Text.Tidy name) (strict : Bool) (value : Json) :
    extended.apply strict (.named (Text.trim name)) value = .ok (operation value) := by
  obtain ⟨_, rfl⟩ := register_eq_ok.1 registered
  have known : (registry.modifiers.insert name operation).get? (Text.trim name) =
      some operation := by
    rw [Text.trim_eq_self_iff.2 tidy, Keyed.get?_insert, if_pos rfl]
  exact apply_of_resolves (.registered known value) strict

/-- A registration under a name that is not tidy is not seen by rules with that name. -/
theorem agree_untidy (registered : registry.register name operation = .ok extended)
    (untidy : ¬ Text.Tidy name) : extended.Agree registry (.named (Text.trim name)) := by
  refine agree_register registered ?_
  intro same
  exact untidy (Text.trim_eq_self_iff.1 (Modifier.named.inj same))

theorem apply_congr {modifier : Modifier} (agree : extended.Agree registry modifier)
    (strict : Bool) (value : Json) :
    extended.apply strict modifier value = registry.apply strict modifier value := by
  rw [apply, apply, agree value]

/-- After every registration under the name, a rule that gives the name applies what was registered
to every value, strict or not. -/
def Referable (name : String) : Prop :=
  ∀ (registry extended : Registry) (operation : Operation),
    registry.register name operation = .ok extended → ∀ key, ∃ modifier,
      Modifier.ofJson key (.string name) = .ok modifier ∧
        ∀ strict value, extended.apply strict modifier value = .ok (operation value)

theorem referable_iff (solid : Text.isBlankText name = false) :
    Referable name ↔ Text.Tidy name := by
  constructor
  · intro referable
    by_contra untidy
    let nothing := ofCapabilities .empty
    have registered := register_eq_ok.2
      ⟨solid, (rfl : { nothing with modifiers := nothing.modifiers.insert name id } = _)⟩
    obtain ⟨modifier, read, applies⟩ := referable nothing _ id registered ""
    cases (ofJson_of_register registered "").symm.trans read
    -- Nothing at all is registered under the trimmed name.
    have before := apply_congr (agree_untidy registered untidy) true .null
    rw [applies] at before
    cases before
  · intro tidy registry extended operation registered key
    exact ⟨.named (Text.trim name), ofJson_of_register registered key, apply_own registered tidy⟩

/-- **Registered names can be referred to.** Every name that a modifier can be registered under is
accepted in a rule. If it has no blanks at its ends, the rule applies what was registered to every
value; otherwise the rule does what it did before the registration. So just the tidy names are such
that a rule can always refer to what is registered under them. -/
theorem registered_names_referable
    (registered : registry.register name operation = .ok extended) (key : String) :
    (Referable name ↔ Text.Tidy name) ∧ ∃ modifier,
      Modifier.ofJson key (.string name) = .ok modifier ∧
        (Text.Tidy name →
          ∀ strict value, extended.apply strict modifier value = .ok (operation value)) ∧
        (¬ Text.Tidy name → ∀ strict value,
          extended.apply strict modifier value = registry.apply strict modifier value) := by
  obtain ⟨solid, _⟩ := register_eq_ok.1 registered
  refine ⟨referable_iff solid, .named (Text.trim name), ofJson_of_register registered key, ?_, ?_⟩
  · exact apply_own registered
  · intro untidy
    exact apply_congr (agree_untidy registered untidy)

/-- Registered under the name of a capability, a modifier comes before it. -/
theorem upcase_referable :
    ∃ extended modifier, initial.register "upcase" (fun value => .array [value]) = .ok extended ∧
      Text.Tidy "upcase" ∧ Modifier.ofJson "title" (.string "upcase") = .ok modifier ∧
      ∀ strict, extended.apply strict modifier (.string "a") = .ok (.array [.string "a"]) := by
  have registered : initial.register "upcase" (fun value => .array [value]) =
      .ok { initial with modifiers := [("upcase", fun value => .array [value])] } :=
    register_eq_ok.2 ⟨by decide, rfl⟩
  have tidy : Text.Tidy "upcase" := Text.trim_eq_self_iff.1 (by decide +kernel)
  obtain ⟨_, modifier, read, applies, _⟩ := registered_names_referable registered "title"
  exact ⟨_, modifier, registered, tidy, read, fun strict => applies tidy strict (.string "a")⟩

/-- Not every registered name can be referred to: blanks at its ends are lost in the rule. -/
theorem padded_name_unseen : ¬ ∀ name, Text.isBlankText name = false → Referable name := by
  intro always
  have tidy := (referable_iff (by decide)).1 (always " shout " (by decide))
  have blank := tidy.1 ' ' (by decide)
  cases blank

end Registry

end Reshape
