/-!
# Results that may be errors

* When a composed result is a value and when it is an error;
* `Reports` sets a result beside all the faults that could have been reported, in order: it is a value
  when there are none and the first of them otherwise. There is one law for each way to compose
  results.
-/

namespace Reshape.Results

variable {ε α β : Type}

@[simp] theorem pure_eq_ok {a b : α} : (pure a : Except ε α) = .ok b ↔ a = b :=
  ⟨Except.ok.inj, congrArg Except.ok⟩

@[simp] theorem pure_eq_error {a : α} {e : ε} : ¬ (pure a : Except ε α) = .error e := nofun

theorem bind_eq_ok {result : Except ε α} {next : α → Except ε β} {b : β} :
    result >>= next = .ok b ↔ ∃ a, result = .ok a ∧ next a = .ok b := by
  cases result with
  | error e => simp [bind, Except.bind]
  | ok a => simp [bind, Except.bind]

theorem bind_eq_error {result : Except ε α} {next : α → Except ε β} {e : ε} :
    result >>= next = .error e ↔ result = .error e ∨ ∃ a, result = .ok a ∧ next a = .error e := by
  cases result with
  | error e => simp [bind, Except.bind]
  | ok a => simp [bind, Except.bind]

theorem map_eq_ok {f : α → β} {result : Except ε α} {b : β} :
    f <$> result = .ok b ↔ ∃ a, result = .ok a ∧ f a = b := by
  cases result with
  | error e => simp [Functor.map, Except.map]
  | ok a => simp [Functor.map, Except.map]

theorem map_eq_error {f : α → β} {result : Except ε α} {e : ε} :
    f <$> result = .error e ↔ result = .error e := by
  cases result with
  | error e => simp [Functor.map, Except.map]
  | ok a => simp [Functor.map, Except.map]

theorem mapM_cons_eq_ok {f : α → Except ε β} {a : α} {as : List α} {bs : List β} :
    (a :: as).mapM f = .ok bs ↔ ∃ b rest, bs = b :: rest ∧ f a = .ok b ∧ as.mapM f = .ok rest := by
  simp only [List.mapM_cons, bind_eq_ok, pure_eq_ok]
  constructor
  · rintro ⟨b, here, rest, later, rfl⟩
    exact ⟨b, rest, rfl, here, later⟩
  · rintro ⟨b, rest, rfl, here, later⟩
    exact ⟨b, here, rest, later, rfl⟩

theorem mapM_cons_eq_error {f : α → Except ε β} {a : α} {as : List α} {e : ε} :
    (a :: as).mapM f = .error e ↔ f a = .error e ∨ ∃ b, f a = .ok b ∧ as.mapM f = .error e := by
  simp only [List.mapM_cons, bind_eq_error, pure_eq_error, and_false, exists_false, or_false]

/-- An error of a list of results is the error of one of them. -/
theorem error_of_mapM {f : α → Except ε β} {as : List α} {e : ε} (h : as.mapM f = .error e) :
    ∃ a ∈ as, f a = .error e := by
  induction as with
  | nil => simp at h
  | cons a as ih =>
    obtain here | ⟨_, _, later⟩ := mapM_cons_eq_error.1 h
    · exact ⟨a, List.mem_cons_self, here⟩
    · obtain ⟨b, member, failed⟩ := ih later
      exact ⟨b, List.mem_cons_of_mem _ member, failed⟩

/-! ## The first of many faults -/

/-- The result is an error if there are faults, and then the first of them. -/
inductive Reports : Except ε α → List ε → Prop where
  | ok (a : α) : Reports (.ok a) []
  | error (e : ε) (others : List ε) : Reports (.error e) (e :: others)

namespace Reports

theorem bind {result : Except ε α} {next : α → Except ε β} {faults later : List ε}
    (first : Reports result faults) (rest : ∀ a, Reports (next a) later) :
    Reports (result >>= next) (faults ++ later) := by
  cases first with
  | ok a => exact rest a
  | error e others => exact .error e (others ++ later)

theorem map {f : α → β} {result : Except ε α} {faults : List ε} (h : Reports result faults) :
    Reports (f <$> result) faults := by
  cases h with
  | ok a => exact .ok (f a)
  | error e others => exact .error e others

theorem bindPure {f : α → β} {result : Except ε α} {faults : List ε} (h : Reports result faults) :
    Reports (result >>= fun a => pure (f a)) faults := by
  cases h with
  | ok a => exact .ok (f a)
  | error e others => exact .error e others

theorem mapM {f : α → Except ε β} {faults : α → List ε} (each : ∀ a, Reports (f a) (faults a)) :
    (as : List α) → Reports (as.mapM f) (as.flatMap faults)
  | [] => .ok []
  | a :: as => by
    rw [List.mapM_cons, List.flatMap_cons]
    exact (each a).bind fun _ => (mapM each as).bindPure

theorem forM {f : α → Except ε PUnit} {faults : α → List ε}
    (each : ∀ a, Reports (f a) (faults a)) : (as : List α) → Reports (as.forM f) (as.flatMap faults)
  | [] => .ok _
  | a :: as => (each a).bind fun _ => forM each as

theorem optionMapM {f : α → Except ε β} {faults : α → List ε}
    (each : ∀ a, Reports (f a) (faults a)) :
    (a : Option α) → Reports (a.mapM f) (a.toList.flatMap faults)
  | none => .ok none
  | some a => by simpa using (each a).map

theorem eq_error_iff {result : Except ε α} {faults : List ε} (h : Reports result faults) {e : ε} :
    result = .error e ↔ faults.head? = some e := by
  cases h <;> simp

theorem eq_ok_iff {result : Except ε α} {faults : List ε} (h : Reports result faults) :
    (∃ a, result = .ok a) ↔ faults = [] := by
  cases h <;> simp

end Reports

/-- The first fault of many places is the first fault of the first place that has any. -/
theorem head?_flatMap_eq_some {places : List α} {faults : α → List β} {fault : β} :
    (places.flatMap faults).head? = some fault ↔
      ∃ before place after, places = before ++ place :: after ∧
        (∀ earlier ∈ before, faults earlier = []) ∧ (faults place).head? = some fault := by
  simp only [List.head?_flatMap, List.findSome?_eq_some_iff, List.head?_eq_none_iff]
  constructor
  · rintro ⟨before, place, after, split, first, sound⟩
    exact ⟨before, place, after, split, sound, first⟩
  · rintro ⟨before, place, after, split, sound, first⟩
    exact ⟨before, place, after, split, first, sound⟩

end Reshape.Results
