import Reshape.Extraction

/-!
# Outcomes of runs

A run from a state of the producers of defaults either gives a value or fails, and leaves a state in
both cases:

* `Gives` and `Fails` say which, and `gives_or_fails` that there is no third way;
* one law for each way to build a run says when it gives a value and when it fails;
* `Threads` relates two lists entry by entry while the state moves on, and `gives_mapM` and
  `fails_mapM` describe a run over a list by it.
-/

namespace Reshape.Extraction

variable {σ α β : Type}

/-- What a run from the state `s` comes to, and the state it leaves. -/
def outcome (run : Extraction σ α) (s : σ) : Except Error α × σ := run.run s

/-- From the state `s` the run succeeds with `a` and leaves `s'`. -/
def Gives (run : Extraction σ α) (s : σ) (a : α) (s' : σ) : Prop := outcome run s = (.ok a, s')

/-- From the state `s` the run fails with `e` and leaves `s'`. -/
def Fails (run : Extraction σ α) (s : σ) (e : Error) (s' : σ) : Prop :=
  outcome run s = (.error e, s')

instance [DecidableEq α] [DecidableEq σ] (run : Extraction σ α) (s : σ) (a : α) (s' : σ) :
    Decidable (Gives run s a s') :=
  match h : outcome run s with
  | (.ok b, t) => decidable_of_iff (b = a ∧ t = s') (by simp [Gives, h])
  | (.error _, _) => isFalse (by simp [Gives, h])

instance [DecidableEq σ] (run : Extraction σ α) (s : σ) (e : Error) (s' : σ) :
    Decidable (Fails run s e s') :=
  match h : outcome run s with
  | (.error f, t) => decidable_of_iff (f = e ∧ t = s') (by simp [Fails, h])
  | (.ok _, _) => isFalse (by simp [Fails, h])

theorem gives_or_fails (run : Extraction σ α) (s : σ) :
    (∃ a s', Gives run s a s') ∨ ∃ e s', Fails run s e s' := by
  rcases h : outcome run s with ⟨e | a, s'⟩
  · exact .inr ⟨e, s', h⟩
  · exact .inl ⟨a, s', h⟩

theorem Gives.unique {run : Extraction σ α} {s s' t : σ} {a b : α} (first : Gives run s a s')
    (second : Gives run s b t) : a = b ∧ s' = t := by
  cases first.symm.trans second
  exact ⟨rfl, rfl⟩

/-! ## One law for each way to build a run -/

theorem outcome_bind (run : Extraction σ α) (next : α → Extraction σ β) (s : σ) :
    outcome (run >>= next) s =
      match outcome run s with
      | (.ok a, between) => outcome (next a) between
      | (.error e, between) => (.error e, between) := by
  change (match outcome run s with | (x, between) => ExceptT.bindCont next x between) = _
  rcases outcome run s with ⟨e | a, between⟩ <;> rfl

@[simp] theorem gives_pure {a b : α} {s s' : σ} : Gives (pure a) s b s' ↔ b = a ∧ s' = s := by
  change (Except.ok a, s) = (Except.ok b, s') ↔ _
  simp [eq_comm]

@[simp] theorem fails_pure {a : α} {e : Error} {s s' : σ} : ¬ Fails (pure a) s e s' := by
  intro h
  cases h

theorem gives_bind {run : Extraction σ α} {next : α → Extraction σ β} {b : β} {s s' : σ} :
    Gives (run >>= next) s b s' ↔
      ∃ a between, Gives run s a between ∧ Gives (next a) between b s' := by
  unfold Gives
  rw [outcome_bind]
  rcases outcome run s with ⟨e | a, between⟩
  · simp
  · simp [and_assoc]

theorem fails_bind {run : Extraction σ α} {next : α → Extraction σ β} {e : Error} {s s' : σ} :
    Fails (run >>= next) s e s' ↔
      Fails run s e s' ∨ ∃ a between, Gives run s a between ∧ Fails (next a) between e s' := by
  unfold Gives Fails
  rw [outcome_bind]
  rcases outcome run s with ⟨e | a, between⟩
  · simp
  · simp [and_assoc]

theorem gives_map {f : α → β} {run : Extraction σ α} {b : β} {s s' : σ} :
    Gives (f <$> run) s b s' ↔ ∃ a, b = f a ∧ Gives run s a s' := by
  rw [map_eq_pure_bind, gives_bind]
  simp only [gives_pure]
  constructor
  · rintro ⟨a, between, given, rfl, rfl⟩; exact ⟨a, rfl, given⟩
  · rintro ⟨a, rfl, given⟩; exact ⟨a, s', given, rfl, rfl⟩

theorem fails_map {f : α → β} {run : Extraction σ α} {e : Error} {s s' : σ} :
    Fails (f <$> run) s e s' ↔ Fails run s e s' := by
  rw [map_eq_pure_bind, fails_bind]
  simp

/-- A producer on its own always gives a value. -/
theorem gives_lift {step : StateM σ α} {a : α} {s s' : σ} :
    Gives (liftM step) s a s' ↔ step s = (a, s') := by
  change ((fun r : α × σ => ((Except.ok r.1 : Except Error α), r.2)) (step s) = (.ok a, s')) ↔ _
  rcases step s with ⟨b, between⟩
  constructor <;> intro h <;> cases h <;> rfl

theorem fails_lift {step : StateM σ α} {e : Error} {s s' : σ} :
    ¬ Fails (liftM step : Extraction σ α) s e s' := by
  intro h
  cases h

/-- A result that needs no producer leaves the state alone. -/
theorem gives_mk {result : Except Error α} {a : α} {s s' : σ} :
    Gives (ExceptT.mk (pure result)) s a s' ↔ result = .ok a ∧ s' = s := by
  change (result, s) = (Except.ok a, s') ↔ _
  simp [eq_comm]

theorem fails_mk {result : Except Error α} {e : Error} {s s' : σ} :
    Fails (ExceptT.mk (pure result)) s e s' ↔ result = .error e ∧ s' = s := by
  change (result, s) = (Except.error e, s') ↔ _
  simp [eq_comm]

/-! ## Runs over lists -/

/-- Entries of two lists related one by one, while the state moves on from `s` to `s'`. -/
inductive Threads (R : σ → α → β → σ → Prop) : σ → List α → List β → σ → Prop where
  | nil (s : σ) : Threads R s [] [] s
  | cons {s between s' : σ} {a : α} {b : β} {as : List α} {bs : List β} :
      R s a b between → Threads R between as bs s' → Threads R s (a :: as) (b :: bs) s'

variable {R : σ → α → β → σ → Prop}

theorem Threads.length_eq {s s' : σ} {as : List α} {bs : List β} (h : Threads R s as bs s') :
    bs.length = as.length := by
  induction h with
  | nil => rfl
  | cons _ _ ih => simp [ih]

@[simp] theorem threads_nil {s s' : σ} {bs : List β} :
    Threads R s [] bs s' ↔ bs = [] ∧ s' = s := by
  constructor
  · intro h; cases h; exact ⟨rfl, rfl⟩
  · rintro ⟨rfl, rfl⟩; exact .nil s'

theorem threads_cons {s s' : σ} {a : α} {as : List α} {bs : List β} :
    Threads R s (a :: as) bs s' ↔
      ∃ b rest between, bs = b :: rest ∧ R s a b between ∧ Threads R between as rest s' := by
  constructor
  · intro h
    cases h with
    | cons first rest => exact ⟨_, _, _, rfl, first, rest⟩
  · rintro ⟨b, rest, between, rfl, first, others⟩
    exact .cons first others

theorem threads_append {s s' : σ} {as others : List α} {bs : List β} :
    Threads R s (as ++ others) bs s' ↔
      ∃ first second between, bs = first ++ second ∧ Threads R s as first between ∧
        Threads R between others second s' := by
  induction as generalizing s bs with
  | nil =>
    constructor
    · intro h
      exact ⟨[], bs, s, rfl, .nil s, h⟩
    · rintro ⟨_, second, between, rfl, first, h⟩
      obtain ⟨rfl, rfl⟩ := threads_nil.1 first
      exact h
  | cons a as ih =>
    simp only [List.cons_append, threads_cons, ih]
    constructor
    · rintro ⟨b, rest, middle, rfl, here, first, second, between, rfl, done, left⟩
      exact ⟨b :: first, second, between, rfl, ⟨b, first, middle, rfl, here, done⟩, left⟩
    · rintro ⟨_, second, between, rfl, ⟨b, first, middle, rfl, here, done⟩, left⟩
      exact ⟨b, first ++ second, middle, rfl, here, first, second, between, rfl, done, left⟩

/-- Where each step comes to one thing only, the steps together do. -/
theorem Threads.unique {s t u : σ} {as : List α} {bs cs : List β} (first : Threads R s as bs t)
    (second : Threads R s as cs u)
    (each : ∀ {s a b t c u}, R s a b t → R s a c u → b = c ∧ t = u) : bs = cs ∧ t = u := by
  induction first generalizing cs with
  | nil =>
    obtain ⟨rfl, rfl⟩ := threads_nil.1 second
    exact ⟨rfl, rfl⟩
  | cons here _ ih =>
    obtain ⟨c, rest, between, rfl, there, others⟩ := threads_cons.1 second
    obtain ⟨rfl, rfl⟩ := each here there
    obtain ⟨rfl, rfl⟩ := ih others
    exact ⟨rfl, rfl⟩

theorem Threads.imp {S : σ → α → β → σ → Prop} (each : ∀ {s a b t}, R s a b t → S s a b t)
    {s s' : σ} {as : List α} {bs : List β} (h : Threads R s as bs s') : Threads S s as bs s' := by
  induction h with
  | nil s => exact .nil s
  | cons here _ ih => exact .cons (each here) ih

/-- Every entry of the first list has been related to one of the second on the way. -/
theorem Threads.exists_of_mem {s s' : σ} {as : List α} {bs : List β} (h : Threads R s as bs s')
    {a : α} (member : a ∈ as) : ∃ t b t', b ∈ bs ∧ R t a b t' := by
  induction h with
  | nil => cases member
  | cons here _ ih =>
    obtain rfl | later := List.mem_cons.1 member
    · exact ⟨_, _, _, List.mem_cons_self, here⟩
    · obtain ⟨t, b, t', present, related⟩ := ih later
      exact ⟨t, b, t', List.mem_cons_of_mem _ present, related⟩

/-- Entries that each keep the state are related together. -/
theorem threads_of_each {f : α → β} {s : σ} {as : List α} (each : ∀ a ∈ as, R s a (f a) s) :
    Threads R s as (as.map f) s := by
  induction as with
  | nil => exact .nil s
  | cons a as ih =>
    obtain ⟨first, others⟩ := List.forall_mem_cons.1 each
    exact .cons first (ih others)

/-- A function on the entries of the second list may be applied afterwards. -/
theorem threads_map {γ : Type} {g : β → γ} {s s' : σ} {as : List α} {cs : List γ} :
    Threads (fun s a c s' => ∃ b, c = g b ∧ R s a b s') s as cs s' ↔
      ∃ bs, cs = bs.map g ∧ Threads R s as bs s' := by
  constructor
  · intro h
    induction h with
    | nil s => exact ⟨[], rfl, .nil s⟩
    | cons first _ ih =>
      obtain ⟨b, rfl, related⟩ := first
      obtain ⟨bs, rfl, others⟩ := ih
      exact ⟨b :: bs, rfl, .cons related others⟩
  · rintro ⟨bs, rfl, h⟩
    induction h with
    | nil s => exact .nil s
    | cons first _ ih => exact .cons ⟨_, rfl, first⟩ ih

theorem gives_mapM {f : α → Extraction σ β} {as : List α} {bs : List β} {s s' : σ} :
    Gives (as.mapM f) s bs s' ↔ Threads (fun s a b s' => Gives (f a) s b s') s as bs s' := by
  induction as generalizing bs s with
  | nil => simp
  | cons a as ih =>
    simp only [List.mapM_cons, gives_bind, gives_pure, threads_cons]
    constructor
    · rintro ⟨b, between, first, rest, _, others, rfl, rfl⟩
      exact ⟨b, rest, between, rfl, first, ih.1 others⟩
    · rintro ⟨b, rest, between, rfl, first, others⟩
      exact ⟨b, between, first, rest, s', ih.2 others, rfl, rfl⟩

/-- A run over a list fails where it fails first. -/
theorem fails_mapM {f : α → Extraction σ β} {as : List α} {e : Error} {s s' : σ} :
    Fails (as.mapM f) s e s' ↔
      ∃ before a after bs between, as = before ++ a :: after ∧
        Threads (fun s a b s' => Gives (f a) s b s') s before bs between ∧
        Fails (f a) between e s' := by
  induction as generalizing s with
  | nil => simp
  | cons a as ih =>
    simp only [List.mapM_cons, fails_bind, fails_pure, and_false, exists_false, or_false, ih]
    constructor
    · rintro (first | ⟨b, between, first, before, c, after, bs, middle, rfl, others, last⟩)
      · exact ⟨[], a, as, [], s, rfl, .nil s, first⟩
      · exact ⟨a :: before, c, after, b :: bs, middle, rfl, .cons first others, last⟩
    · rintro ⟨before, c, after, bs, middle, split, others, last⟩
      obtain _ | ⟨d, before⟩ := before
      · simp only [threads_nil] at others
        obtain ⟨rfl, rfl⟩ := List.cons.inj split
        rw [← others.2]
        exact .inl last
      · obtain ⟨rfl, rfl⟩ := List.cons.inj split
        obtain ⟨b, rest, between, rfl, first, others⟩ := threads_cons.1 others
        exact .inr ⟨b, between, first, before, c, after, rest, middle, rfl, others, last⟩

end Reshape.Extraction
