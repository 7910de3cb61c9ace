import Reshape.Proofs.Compilation

/-!
# Faults of schemas

Every error that reading or compiling a schema reports is a fault of the schema:

* `CompileOnly` says so of a result, with one law for each way to compose results;
* `Schema.compileOnly_ofJson` and `Plan.compileOnly_compile` hold for every value and every schema.
-/

namespace Reshape

open Results

variable {σ : Type}

/-- No error but faults of schemas. -/
def CompileOnly {α : Type} (result : Except Error α) : Prop :=
  ∀ e, result = .error e → e.isCompileError = true

namespace CompileOnly

variable {α β : Type}

theorem ok (a : α) : CompileOnly (.ok a : Except Error α) := nofun

theorem error {e : Error} (h : e.isCompileError = true) :
    CompileOnly (.error e : Except Error α) := by
  rintro _ ⟨⟩
  exact h

theorem bind {result : Except Error α} {next : α → Except Error β} (first : CompileOnly result)
    (later : ∀ a, CompileOnly (next a)) : CompileOnly (result >>= next) := by
  intro e h
  obtain failed | ⟨a, _, failed⟩ := bind_eq_error.1 h
  · exact first e failed
  · exact later a e failed

theorem map {f : α → β} {result : Except Error α} (h : CompileOnly result) :
    CompileOnly (f <$> result) :=
  fun e failed => h e (map_eq_error.1 failed)

theorem mapM {f : α → Except Error β} (each : ∀ a, CompileOnly (f a)) (as : List α) :
    CompileOnly (as.mapM f) := by
  intro e h
  obtain ⟨a, _, failed⟩ := error_of_mapM h
  exact each a e failed

theorem forM {f : α → Except Error PUnit} (each : ∀ a, CompileOnly (f a)) :
    (as : List α) → CompileOnly (as.forM f)
  | [] => .ok _
  | a :: as => .bind (each a) fun _ => forM each as

theorem optionMapM {f : α → Except Error β} (each : ∀ a, CompileOnly (f a)) :
    (a : Option α) → CompileOnly (a.mapM f)
  | none => .ok _
  | some a => .map (each a)

end CompileOnly

theorem Modifier.compileOnly_ofJson (key : String) (value : Json) :
    CompileOnly (Modifier.ofJson key value) := by
  unfold Modifier.ofJson
  split
  · split
    · exact .error rfl
    · exact .ok _
  · exact .error rfl

namespace Rule

theorem compileOnly_pathOf (key : String) (members : Keyed Json) :
    CompileOnly (pathOf key members) := by
  unfold pathOf
  split
  · exact .ok _
  · exact .ok _
  · exact .ok _
  · exact .error rfl

theorem compileOnly_modifiersOf (key : String) (members : Keyed Json) :
    CompileOnly (modifiersOf key members) := by
  unfold modifiersOf
  split
  · exact .ok _
  · exact .mapM (Modifier.compileOnly_ofJson key) _
  · exact .map (Modifier.compileOnly_ofJson key _)

theorem compileOnly_mapOf (key : String) (value : Json) : CompileOnly (mapOf key value) := by
  unfold mapOf
  split
  · exact .ok _
  · exact .error rfl

theorem compileOnly_mapsOf (key : String) (members : Keyed Json) :
    CompileOnly (mapsOf key members) := by
  unfold mapsOf
  split
  · exact .ok _
  · split
    · exact .map (compileOnly_mapOf key _)
    · exact .mapM (compileOnly_mapOf key) _
  · exact .map (compileOnly_mapOf key _)

theorem compileOnly_arrayOf (key : String) (members : Keyed Json) :
    CompileOnly (arrayOf key members) := by
  unfold arrayOf
  split
  · exact .ok _
  · exact .ok _
  · exact .ok _
  · exact .error rfl

theorem compileOnly_flatFieldOf {ν : Type} (key : String) (members : Keyed Json) :
    CompileOnly (flatFieldOf key members : Except Error (Field σ String ν)) := by
  have filled : CompileOnly (do
      let expression ← pathOf key members
      let modifiers ← modifiersOf key members
      let maps ← mapsOf key members
      let array ← arrayOf key members
      return (⟨expression, (members.get? "default").map .value, modifiers, maps, array, none⟩ :
        Field σ String ν)) :=
    .bind (compileOnly_pathOf key members) fun _ =>
      .bind (compileOnly_modifiersOf key members) fun _ =>
      .bind (compileOnly_mapsOf key members) fun _ =>
      .bind (compileOnly_arrayOf key members) fun _ => .ok _
  unfold flatFieldOf
  split
  · exact .bind (.error rfl) fun _ => filled
  · exact filled

end Rule

namespace Schema

theorem compileOnly_rulesBelow (scope : String) (rules : List (String × Json)) :
    CompileOnly (rulesBelow scope rules : Except Error (List (String × Rule σ))) := by
  induction rules using rules_induction generalizing scope with
  | nil => exact .ok _
  | cons key value rest ih below =>
    rw [rulesBelow]
    refine .bind ?_ fun _ => .bind (ih scope) fun _ => .ok _
    cases value with
    | string path => exact .ok _
    | object members =>
      rw [ruleAt]
      refine .bind (Rule.compileOnly_flatFieldOf _ members) fun _ => .bind ?_ fun _ => .ok _
      obtain absent | refused | ⟨inner, member, same⟩ :=
        nestedOf_cases (σ := σ) (scopedKey scope key) members
      · rw [absent]; exact .ok _
      · rw [refused]; exact .error rfl
      · rw [same]; exact .map (below members inner rfl member _)
    | null | bool | number | array => exact .error rfl

/-- Reading a schema reports faults of schemas only. -/
theorem compileOnly_ofJson (value : Json) :
    CompileOnly (ofJson value : Except Error (Schema σ)) := by
  unfold ofJson ofJsonBelow
  split
  · exact .map (compileOnly_rulesBelow _ _)
  · exact .error rfl

end Schema

/-! ## Faults of compilation -/

theorem Modifier.compileOnly_validate (key : String) (modifier : Modifier) :
    CompileOnly (modifier.validate key) := by
  unfold validate
  split
  · exact .error rfl
  · exact .ok _

theorem Field.compileOnly_check {π ν : Type} (key : String) (field : Field σ π ν) :
    CompileOnly (field.check key) := by
  have named : CompileOnly (field.modifiers.forM (Modifier.validate key)) :=
    .forM (Modifier.compileOnly_validate key) _
  unfold check
  split
  · exact .bind (.error rfl) fun _ => named
  · exact named

theorem Path.compileOnly_compile (text : String) : CompileOnly (Path.compile text) := by
  unfold Path.compile Path.compileGeneral
  split
  · exact .error rfl
  · split
    · exact .ok _
    · split
      · exact .ok _
      · exact .error rfl

namespace Plan

mutual

theorem compileOnly_compileRules (limit : Nat) (scope : String) (depth : Nat) :
    (rules : List (String × Rule σ)) → CompileOnly (compileRules limit scope depth rules)
  | [] => .ok _
  | (_, rule) :: rest =>
    .bind (compileOnly_compileRule limit _ depth rule) fun _ =>
      .bind (compileOnly_compileRules limit scope depth rest) fun _ => .ok _

theorem compileOnly_compileRule (limit : Nat) (scopedKey : String) (depth : Nat) :
    (rule : Rule σ) → CompileOnly (compileRule limit scopedKey depth rule)
  | .path expression => .map (Path.compileOnly_compile expression)
  | .record ⟨expression, _, _, _, _, nested⟩ =>
    .bind (Field.compileOnly_check scopedKey _) fun _ =>
      .bind (.optionMapM Path.compileOnly_compile expression) fun _ =>
      .bind (compileOnly_compileNested limit scopedKey depth nested) fun _ => .ok _

theorem compileOnly_compileNested (limit : Nat) (scopedKey : String) (depth : Nat) :
    (nested : Option (List (String × Rule σ))) →
      CompileOnly (compileNested limit scopedKey depth nested)
  | none => .ok _
  | some rules => by
    rw [compileNested]
    split
    · exact .error rfl
    · exact .map (compileOnly_compileRules limit scopedKey (depth + 1) rules)

end

/-- Compiling a schema reports faults of schemas only. -/
theorem compileOnly_compile (limit : Nat) (schema : Schema σ) :
    CompileOnly (compile limit schema) :=
  compileOnly_compileRules limit "" 0 schema

end Plan

end Reshape
