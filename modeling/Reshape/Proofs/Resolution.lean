import Reshape.Proofs.Conformance

/-!
# What a run reads of the registry

A run looks into its registry only to resolve the modifiers of its plan:

* `Plan.Refers` says which modifiers these are, those of nested plans included;
* `run_congr`: registries that resolve them alike make the same of every document;
* `agree_register` and `agree_registerCapability`: a registration is seen by modifiers that go by its
  name only, and not by all of these;
* `unrelated_registrations_unseen` puts these together.
-/

namespace Reshape

variable {σ : Type}

/-- The modifier belongs to an instruction of the plan or of a plan nested in it. -/
inductive Plan.Refers (modifier : Modifier) : Plan σ → Prop where
  | own {plan : Plan σ} {instruction : Instruction σ} (member : instruction ∈ plan)
      (listed : modifier ∈ instruction.field.modifiers) : Refers modifier plan
  | nested {plan inner : Plan σ} {instruction : Instruction σ} (member : instruction ∈ plan)
      (nests : instruction.field.nested = some inner) (below : Refers modifier inner) :
      Refers modifier plan

theorem Plan.Refers.of_mem {modifier : Modifier} {plan : Plan σ} {instruction : Instruction σ}
    (refers : Plan.Refers modifier [instruction]) (member : instruction ∈ plan) :
    plan.Refers modifier := by
  cases refers with
  | own here listed =>
    obtain rfl := List.mem_singleton.1 here
    exact .own member listed
  | nested here nests below =>
    obtain rfl := List.mem_singleton.1 here
    exact .nested member nests below

namespace Registry

/-! ## What a registration changes -/

/-- Both registries resolve the modifier in the same way, whatever the value. -/
def Agree (first second : Registry) (modifier : Modifier) : Prop :=
  ∀ value, first.resolve? modifier value = second.resolve? modifier value

/-- The registry with an operation declared for values of a kind. -/
def registerCapability (registry : Registry) (kind : Json.Kind) (name : String)
    (operation : Operation) : Registry :=
  { registry with capabilities := registry.capabilities.register kind name operation }

theorem register_eq_ok {registry extended : Registry} {name : String} {operation : Operation} :
    registry.register name operation = .ok extended ↔ Text.isBlankText name = false ∧
      extended = { registry with modifiers := registry.modifiers.insert name operation } := by
  unfold register
  cases Text.isBlankText name <;> simp [eq_comm]

theorem find?_register (table : Capabilities) (kind : Json.Kind) (name : String)
    (operation : Operation) (other : String) (value : Json) :
    (table.register kind name operation).find? other value =
      if value.kind = kind ∧ name = other then some operation else table.find? other value :=
  table.operations_register kind name operation value.kind other

/-- Registries with the same bindings resolve everything in the same way. -/
theorem agree_of_bindings {first second : Registry}
    (modifiers : ∀ name, first.modifiers.get? name = second.modifiers.get? name)
    (capabilities : ∀ kind name, (first.capabilities.operations kind).get? name =
      (second.capabilities.operations kind).get? name) (modifier : Modifier) :
    first.Agree second modifier := by
  intro value
  have supported (name : String) :
      first.capabilities.find? name value = second.capabilities.find? name value :=
    capabilities value.kind name
  cases modifier with
  | call operation => rfl
  | named name => simp only [resolve?, modifiers, supported]
  | ambient name => exact supported name

/-- A registration is seen by the named modifier of its name only. -/
theorem agree_register {registry extended : Registry} {name : String} {operation : Operation}
    (registered : registry.register name operation = .ok extended) {modifier : Modifier}
    (other : modifier ≠ .named name) : extended.Agree registry modifier := by
  intro value
  obtain ⟨_, rfl⟩ := register_eq_ok.1 registered
  cases modifier with
  | call operation => rfl
  | named different =>
    have distinct : ¬ name = different := fun same => other (congrArg Modifier.named same.symm)
    simp only [resolve?, Keyed.get?_insert, if_neg distinct]
  | ambient different => rfl

/-- A new capability is not seen where a registered modifier comes before it. -/
theorem agree_registerCapability {registry : Registry} {kind : Json.Kind} {name : String}
    {operation bound : Operation} (registered : registry.modifiers.get? name = some bound)
    {modifier : Modifier} (named : modifier.name? = some name → modifier = .named name) :
    (registry.registerCapability kind name operation).Agree registry modifier := by
  intro value
  by_cases same : modifier.name? = some name
  · rw [named same]
    simp only [resolve?, registerCapability, registered, Option.some_or]
  · have unseen (other : String) (goes : modifier.name? = some other) :
        (registry.capabilities.register kind name operation).find? other value =
          registry.capabilities.find? other value := by
      have distinct : ¬ (value.kind = kind ∧ name = other) := by
        rintro ⟨_, rfl⟩
        exact same goes
      rw [find?_register, if_neg distinct]
    cases modifier with
    | call operation => rfl
    | named other => simp only [resolve?, registerCapability, unseen other rfl]
    | ambient other => exact unseen other rfl

end Registry

namespace Extraction

/-! ## Runs with registries that agree -/

variable {first second : Registry} {settings : Settings}

theorem applyAll_congr {modifiers : List Modifier}
    (agree : ∀ modifier ∈ modifiers, first.Agree second modifier) (strict : Bool) (value : Json) :
    first.applyAll strict modifiers value = second.applyAll strict modifiers value := by
  induction modifiers generalizing value with
  | nil => rfl
  | cons modifier rest ih =>
    obtain ⟨here, later⟩ := List.forall_mem_cons.1 agree
    have same : first.apply strict modifier value = second.apply strict modifier value := by
      unfold Registry.apply
      rw [here value]
    simp only [Registry.applyAll, same, ih later]

theorem present_congr {ν : Type} {field : Field σ Path ν}
    (agree : ∀ modifier ∈ field.modifiers, first.Agree second modifier) :
    present first settings field = present second settings field := by
  funext found
  have same (value : Json) : field.transform first settings.strictModifiers value =
      field.transform second settings.strictModifiers value :=
    congrArg _ (applyAll_congr agree settings.strictModifiers value)
  simp only [present, same]

/-- An instruction finds the same with both registries. -/
def FindsAlike (first second : Registry) (settings : Settings) (instruction : Instruction σ) :
    Prop :=
  ∀ document,
    evaluate first settings document instruction = evaluate second settings document instruction

theorem fill_congr {plan : Plan σ}
    (each : ∀ instruction ∈ plan, FindsAlike first second settings instruction) (document : Json)
    (result : Keyed Json) :
    fill first settings document plan result = fill second settings document plan result := by
  induction plan generalizing result with
  | nil => rfl
  | cons instruction rest ih =>
    obtain ⟨here, later⟩ := List.forall_mem_cons.1 each
    simp only [fill, here document, ih later]

theorem gather_congr {nested : Option (Plan σ)}
    (each : ∀ plan, nested = some plan →
      ∀ inner ∈ plan, FindsAlike first second settings inner) (scopedKey : String) (array : Bool)
    (values : List Json) :
    gather first settings scopedKey array nested values =
      gather second settings scopedKey array nested values := by
  cases nested with
  | none => rfl
  | some plan =>
    have same (value : Json) := fill_congr (each plan rfl) value (Plan.template plan)
    simp only [gather, same]

theorem findsAlike (instruction : Instruction σ)
    (agree : ∀ modifier, Plan.Refers modifier [instruction] → first.Agree second modifier) :
    FindsAlike first second settings instruction := by
  induction instruction using Instruction.induction with
  | step instruction ih =>
    intro document
    have own : ∀ modifier ∈ instruction.field.modifiers, first.Agree second modifier :=
      fun modifier listed => agree modifier (.own List.mem_cons_self listed)
    have nested : ∀ plan, instruction.field.nested = some plan →
        ∀ inner ∈ plan, FindsAlike first second settings inner := by
      intro plan nests inner member
      exact ih plan nests inner member fun modifier refers =>
        agree modifier (.nested List.mem_cons_self nests (refers.of_mem member))
    simp only [evaluate_eq, present_congr own, gather_congr nested]

/-- Registries that resolve all modifiers of a plan alike make the same of every document. -/
theorem run_congr {plan : Plan σ}
    (agree : ∀ modifier, plan.Refers modifier → first.Agree second modifier) (document : Json) :
    plan.run first settings document = plan.run second settings document := by
  have each : ∀ instruction ∈ plan, FindsAlike first second settings instruction :=
    fun instruction member =>
      findsAlike instruction fun modifier refers => agree modifier (refers.of_mem member)
  rw [Plan.run, Plan.run, fill_congr each]

/-- **Unrelated registrations are not seen.** A modifier registered under a name that no named
modifier of a plan has, at any level, changes no run of the plan, also where ambient modifiers or
capabilities have that name; and neither does a capability under a name that is registered and that
only named modifiers of the plan have. A run is the same as before, value or error, from every state
of the producers and with the same state left. -/
theorem unrelated_registrations_unseen (registry : Registry) (plan : Plan σ) (name : String)
    (operation : Operation) :
    (Text.isBlankText name = false → ¬ plan.Refers (.named name) →
      ∃ extended, registry.register name operation = .ok extended ∧
        extended.modifiers.get? name = some operation ∧
        ∀ settings document,
          plan.run extended settings document = plan.run registry settings document) ∧
    (∀ kind bound, registry.modifiers.get? name = some bound →
      (∀ modifier, plan.Refers modifier → modifier.name? = some name → modifier = .named name) →
      ∀ settings document,
        plan.run (registry.registerCapability kind name operation) settings document =
          plan.run registry settings document) := by
  constructor
  · intro solid unnamed
    have registered : registry.register name operation = .ok _ :=
      Registry.register_eq_ok.2 ⟨solid, rfl⟩
    refine ⟨_, registered, by simp [Keyed.get?_insert], fun settings document => ?_⟩
    refine run_congr (fun modifier refers => ?_) document
    refine Registry.agree_register registered ?_
    rintro rfl
    exact unnamed refers
  · intro kind bound registered named settings document
    exact run_congr (fun modifier refers =>
      Registry.agree_registerCapability registered (named modifier refers)) document

/-- The texts of badges in lower case, each in a list of its own. -/
def badgePlan : Plan Nat :=
  [⟨"badges", "badges",
    ⟨some (.simple "$.badges[*]" [.key "badges", .every]), none, [], [], true,
      some [⟨"text", "badges.text",
        ⟨some (.simple "$.text" [.key "text"]), none, [.ambient "downcase", .named "box"], [],
          false, none⟩⟩]⟩⟩]

def boxing : Registry := { Registry.initial with modifiers := [("box", fun value => .array [value])] }

def badges : Json := .object [("badges", .array [.object [("text", .string "A")]])]

def badgeResult : Json :=
  .object [("badges", .array [.object [("text", .array [.string "a"])]])]

theorem eq_of_badgePlan_refers {modifier : Modifier} (refers : badgePlan.Refers modifier) :
    modifier = .ambient "downcase" ∨ modifier = .named "box" := by
  cases refers with
  | own member listed =>
    obtain rfl := List.mem_singleton.1 member
    cases listed
  | nested member nests below =>
    obtain rfl := List.mem_singleton.1 member
    cases nests
    cases below with
    | own member listed =>
      obtain rfl := List.mem_singleton.1 member
      simpa using listed
    | nested member nests _ =>
      obtain rfl := List.mem_singleton.1 member
      cases nests

/-- Badges are not blanked by a modifier with the name of their capability, nor by a capability with
the name of their modifier. -/
theorem badges_kept :
    Text.isBlankText "downcase" = false ∧ ¬ badgePlan.Refers (.named "downcase") ∧
      (∃ extended, boxing.register "downcase" (fun _ => .null) = .ok extended ∧
        Gives (badgePlan.run extended .standard badges) 0 badgeResult 0) ∧
      (∃ bound, boxing.modifiers.get? "box" = some bound) ∧
      (∀ modifier, badgePlan.Refers modifier → modifier.name? = some "box" →
        modifier = .named "box") ∧
      Gives (badgePlan.run (boxing.registerCapability .string "box" fun _ => .null) .standard badges)
        0 badgeResult 0 := by
  have solid : Text.isBlankText "downcase" = false := by decide
  have unnamed : ¬ badgePlan.Refers (.named "downcase") := by
    intro refers
    obtain other | other := eq_of_badgePlan_refers refers
    · cases other
    · simp at other
  have named : ∀ modifier, badgePlan.Refers modifier → modifier.name? = some "box" →
      modifier = .named "box" := by
    intro modifier refers called
    obtain rfl | rfl := eq_of_badgePlan_refers refers
    · simp [Modifier.name?] at called
    · rfl
  have given : Gives (badgePlan.run boxing .standard badges) 0 badgeResult 0 := by decide +kernel
  have bound : boxing.modifiers.get? "box" = some fun value => .array [value] := by
    simp [boxing, Keyed.get?]
  obtain ⟨extended, registered, _, same⟩ :=
    (unrelated_registrations_unseen boxing badgePlan "downcase" fun _ => .null).1 solid unnamed
  have unseen := (unrelated_registrations_unseen boxing badgePlan "box" fun _ => .null).2 .string _
    bound named .standard badges
  refine ⟨solid, unnamed, ⟨extended, registered, ?_⟩, ⟨_, bound⟩, named, ?_⟩
  · rw [same]
    exact given
  · rw [unseen]
    exact given

end Extraction

end Reshape
