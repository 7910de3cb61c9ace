import Reshape.Proofs.Failure

/-!
# Laxer settings

Settings decide whether a run fails, never what its result holds:

* `Settings.LaxerThan` compares settings by what they refuse;
* `Follows` sets a laxer run beside a stricter one: unless the stricter one fails by what was
  relaxed, both come to the same value or error and leave the same state. There is one law for each
  way to build a run;
* `follows_run` says so of the runs of every plan, and `laxer_runs_agree` what it means for results.
-/

namespace Reshape

/-- What these settings refuse, the others refuse too. -/
structure Settings.LaxerThan (lax strict : Settings) : Prop where
  modifiers : lax.strictModifiers = true → strict.strictModifiers = true
  cardinality : lax.cardinality = .error → strict.cardinality = .error

/-- The error is one that the laxer settings tolerate and the stricter ones do not. -/
inductive Settings.Relaxes (lax strict : Settings) : Error → Prop where
  | modifiers (name : String) (value : Json) (refused : strict.strictModifiers = true)
      (tolerated : lax.strictModifiers = false) : Relaxes lax strict (.unresolvedModifier name value)
  | cardinality (key : String) (count : Nat) (refused : strict.cardinality = .error)
      (tolerated : lax.cardinality = .sequence) :
      Relaxes lax strict (.ambiguousCardinality key count)

theorem Registry.applyAll_of_strict {registry : Registry} {modifiers : List Modifier}
    {value changed : Json} (h : registry.applyAll true modifiers value = .ok changed) :
    registry.applyAll false modifiers value = .ok changed := by
  induction modifiers generalizing value with
  | nil => exact h
  | cons modifier rest ih =>
    obtain ⟨between, here, later⟩ := Results.bind_eq_ok.1 h
    refine Results.bind_eq_ok.2 ⟨between, ?_, ih later⟩
    unfold apply at here ⊢
    split at here
    · exact here
    · cases here

namespace Extraction

variable {σ α β : Type} {excused : Error → Prop}

/-! ## Two runs side by side -/

/-- The second run does what the first does, unless the first fails by an excused error. -/
def Follows (excused : Error → Prop) (strict lax : Extraction σ α) : Prop :=
  ∀ s, (∃ e s', Fails strict s e s' ∧ excused e) ∨ outcome lax s = outcome strict s

namespace Follows

theorem refl (run : Extraction σ α) : Follows excused run run := fun _ => .inr rfl

theorem bind {strict lax : Extraction σ α} {next further : α → Extraction σ β}
    (first : Follows excused strict lax) (later : ∀ a, Follows excused (next a) (further a)) :
    Follows excused (strict >>= next) (lax >>= further) := by
  intro s
  obtain ⟨e, s', failed, tolerated⟩ | same := first s
  · exact .inl ⟨e, s', fails_bind.2 (.inl failed), tolerated⟩
  · obtain ⟨a, between, given⟩ | ⟨e, s', failed⟩ := gives_or_fails strict s
    · obtain ⟨e, s', failed, tolerated⟩ | agree := later a between
      · exact .inl ⟨e, s', fails_bind.2 (.inr ⟨a, between, given, failed⟩), tolerated⟩
      · have continued : outcome strict s = (.ok a, between) := given
        refine .inr ?_
        rw [outcome_bind, outcome_bind, same, continued]
        exact agree
    · have stopped : outcome strict s = (.error e, s') := failed
      refine .inr ?_
      rw [outcome_bind, outcome_bind, same, stopped]

theorem map {f : α → β} {strict lax : Extraction σ α} (h : Follows excused strict lax) :
    Follows excused (f <$> strict) (f <$> lax) := by
  simp only [map_eq_pure_bind]
  exact h.bind fun _ => refl _

theorem mapM {strict lax : α → Extraction σ β} (each : ∀ a, Follows excused (strict a) (lax a))
    (as : List α) : Follows excused (as.mapM strict) (as.mapM lax) := by
  induction as with
  | nil => exact refl _
  | cons a as ih =>
    simp only [List.mapM_cons]
    exact (each a).bind fun _ => ih.bind fun _ => refl _

theorem mk {strict lax : Except Error α}
    (h : (∃ e, strict = .error e ∧ excused e) ∨ lax = strict) :
    Follows excused (ExceptT.mk (pure strict) : Extraction σ α) (ExceptT.mk (pure lax)) := by
  intro s
  obtain ⟨e, failed, tolerated⟩ | same := h
  · exact .inl ⟨e, s, fails_mk.2 ⟨failed, rfl⟩, tolerated⟩
  · exact .inr (by rw [same])

theorem gives {strict lax : Extraction σ α} (h : Follows excused strict lax) {s s' : σ} {a : α}
    (given : Gives strict s a s') : Gives lax s a s' := by
  obtain ⟨e, t, failed, _⟩ | same := h s
  · cases failed.symm.trans given
  · exact same.trans given

theorem excused_of_fails {strict lax : Extraction σ α} (h : Follows excused strict lax)
    {s s' t : σ} {a : α} {e : Error} (given : Gives lax s a s') (failed : Fails strict s e t) :
    excused e := by
  obtain ⟨f, u, failure, tolerated⟩ | same := h s
  · cases failure.symm.trans failed
    exact tolerated
  · cases failed.symm.trans (same.symm.trans given)

end Follows

/-! ## Runs of plans -/

variable {registry : Registry} {lax strict : Settings}

theorem follows_transform {π ν : Type} (laxer : lax.LaxerThan strict) (field : Field σ π ν)
    (value : Json) :
    (∃ e, field.transform registry strict.strictModifiers value = .error e ∧
      lax.Relaxes strict e) ∨
    field.transform registry lax.strictModifiers value =
      field.transform registry strict.strictModifiers value := by
  cases tolerated : lax.strictModifiers with
  | true => exact .inr (by rw [laxer.modifiers tolerated])
  | false =>
    cases refused : strict.strictModifiers with
    | false => exact .inr rfl
    | true =>
      cases h : field.transform registry true value with
      | ok made =>
        obtain ⟨changed, modified, rfl⟩ := Results.map_eq_ok.1 h
        exact .inr (Results.map_eq_ok.2 ⟨changed, Registry.applyAll_of_strict modified, rfl⟩)
      | error e =>
        have failed := Results.map_eq_error.1 h
        rw [← refused] at failed
        obtain ⟨_, _, _, name, value, rfl, _⟩ := unresolved_of_applyAll failed
        exact .inl ⟨_, rfl, .modifiers name value refused tolerated⟩

theorem follows_present {ν : Type} (laxer : lax.LaxerThan strict) (field : Field σ Path ν)
    (found : Json) :
    Follows (lax.Relaxes strict) (present registry strict field found)
      (present registry lax field found) := by
  unfold present
  split
  · exact (Follows.refl _).bind fun value => .mk (follows_transform laxer field value)
  · exact (Follows.refl _).bind fun value => .mk (follows_transform laxer field value)

theorem follows_collect (laxer : lax.LaxerThan strict) (scopedKey : String) (array : Bool)
    (values : List Json) :
    (∃ e, collect strict scopedKey array values = .error e ∧ lax.Relaxes strict e) ∨
    collect lax scopedKey array values = collect strict scopedKey array values := by
  cases tolerated : lax.cardinality with
  | error => exact .inr (by simp only [collect, tolerated, laxer.cardinality tolerated])
  | sequence =>
    cases refused : strict.cardinality with
    | sequence => exact .inr (by simp only [collect, tolerated, refused])
    | error =>
      have refusal := Settings.Relaxes.cardinality scopedKey values.length refused tolerated
      unfold collect
      cases array with
      | true => exact .inr rfl
      | false =>
        obtain _ | ⟨value, _ | ⟨other, rest⟩⟩ := values
        · exact .inl ⟨_, by simp [refused], refusal⟩
        · exact .inr rfl
        · exact .inl ⟨_, by simp [refused], refusal⟩

mutual

theorem follows_fill (laxer : lax.LaxerThan strict) (document : Json) :
    (plan : List (Instruction σ)) → (result : Keyed Json) →
      Follows (lax.Relaxes strict) (fill registry strict document plan result)
        (fill registry lax document plan result)
  | [], _ => .refl _
  | instruction :: rest, _ =>
    (follows_evaluate laxer document instruction).bind fun _ => follows_fill laxer document rest _

theorem follows_evaluate (laxer : lax.LaxerThan strict) (document : Json) :
    (instruction : Instruction σ) →
      Follows (lax.Relaxes strict) (evaluate registry strict document instruction)
        (evaluate registry lax document instruction)
  | ⟨_, scopedKey, ⟨path, fallback, modifiers, maps, array, nested⟩⟩ => by
    rw [evaluate_eq, evaluate_eq]
    split
    · exact .refl _
    · exact (Follows.mapM (follows_present laxer _) _).bind fun values =>
        follows_gather laxer scopedKey array nested values

theorem follows_gather (laxer : lax.LaxerThan strict) (scopedKey : String) (array : Bool) :
    (nested : Option (List (Instruction σ))) → (values : List Json) →
      Follows (lax.Relaxes strict) (gather registry strict scopedKey array nested values)
        (gather registry lax scopedKey array nested values)
  | none, values => .mk (follows_collect laxer scopedKey array values)
  | some plan, values => by
    unfold gather
    split
    · exact (Follows.mapM (fun value => follows_fill laxer value plan _) values).bind fun _ =>
        .refl _
    · split
      · exact .refl _
      · exact .map (follows_fill laxer _ plan _)

end

theorem follows_run (laxer : lax.LaxerThan strict) (plan : Plan σ) (document : Json) :
    Follows (lax.Relaxes strict) (plan.run registry strict document)
      (plan.run registry lax document) :=
  .map (follows_fill laxer document plan _)

/-- Under laxer settings a run that gives a result gives the same one and leaves the producers in
the same state; where only the stricter run fails, it fails by what was relaxed. -/
theorem laxer_runs_agree (laxer : lax.LaxerThan strict) (plan : Plan σ) (document : Json) (s : σ) :
    (∀ result s', Gives (plan.run registry strict document) s result s' →
      Gives (plan.run registry lax document) s result s') ∧
    (∀ result s' e t, Gives (plan.run registry lax document) s result s' →
      Fails (plan.run registry strict document) s e t → lax.Relaxes strict e) :=
  ⟨fun _ _ given => (follows_run laxer plan document).gives given,
    fun _ _ _ _ given failed => (follows_run laxer plan document).excused_of_fails given failed⟩

/-- All friends at once, where one value is expected. -/
def crowdPlan : Plan Nat :=
  [⟨"friend", "friend",
    ⟨some (.simple "$.friends[*]" [.key "friends", .every]), none, [], [], false, none⟩⟩]

/-- Two friends under a known modifier, under an unknown one, and where one is expected: tolerating
everything changes no result, and each failure is one that was tolerated. -/
theorem friends_tolerated :
    let strict : Settings := { cardinality := .error }
    let lax : Settings := { strictModifiers := false }
    lax.LaxerThan strict ∧
    (Gives ((friendPlan "downcase").run .initial strict friends) 7 (friendResult 7) 8 ∧
      Gives ((friendPlan "downcase").run .initial lax friends) 7 (friendResult 7) 8) ∧
    (∃ result, Gives ((friendPlan "shout").run .initial lax friends) 7 result 8 ∧
      Fails ((friendPlan "shout").run .initial strict friends) 7
        (.unresolvedModifier "shout" (.string "Ada")) 7 ∧
      lax.Relaxes strict (.unresolvedModifier "shout" (.string "Ada"))) ∧
    ∃ result, Gives (crowdPlan.run .initial lax friends) 7 result 7 ∧
      Fails (crowdPlan.run .initial strict friends) 7 (.ambiguousCardinality "friend" 2) 7 ∧
      lax.Relaxes strict (.ambiguousCardinality "friend" 2) := by
  intro strict lax
  have laxer : lax.LaxerThan strict := ⟨nofun, nofun⟩
  have known : Gives ((friendPlan "downcase").run .initial strict friends) 7 (friendResult 7) 8 := by
    decide +kernel
  have shouted : Gives ((friendPlan "shout").run .initial lax friends) 7
      (.object [("friends", .array [.object [("name", .string "Ada")], .object [("name", .null)]]),
        ("id", .ofNat 7)]) 8 := by
    decide +kernel
  have silenced : Fails ((friendPlan "shout").run .initial strict friends) 7
      (.unresolvedModifier "shout" (.string "Ada")) 7 := by
    decide +kernel
  have together : Gives (crowdPlan.run .initial lax friends) 7
      (.object [("friend", .array [.object [("name", .string "Ada")], .object []])]) 7 := by
    decide +kernel
  have refused : Fails (crowdPlan.run .initial strict friends) 7
      (.ambiguousCardinality "friend" 2) 7 := by
    decide +kernel
  exact ⟨laxer, ⟨known, (laxer_runs_agree laxer _ _ _).1 _ _ known⟩,
    ⟨_, shouted, silenced, (laxer_runs_agree laxer _ _ _).2 _ _ _ _ shouted silenced⟩,
    ⟨_, together, refused, (laxer_runs_agree laxer _ _ _).2 _ _ _ _ together refused⟩⟩

end Extraction

end Reshape
