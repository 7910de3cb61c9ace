/-!
# Keyed lists

Entries under string keys, kept in the order in which the keys first arrived:

* `insert` writes over a present key in place and puts a new key at the end;
* `get?_insert`: after a write the key holds the new value, every other key what it held;
* `keys_insert`: a write never moves a key, and adds at most its own, at the end;
* `distinct_insert`, `distinct_ofList`: lists built by writing hold each key once;
* `insertAll_eq`: writing a value under every key, in order, leaves just what was written.
-/

namespace Reshape

/-- Entries under string keys, in the order of first arrival. -/
abbrev Keyed (α : Type) := List (String × α)

namespace Keyed

variable {α : Type}

/-- The value under `key`, if the key is present. -/
def get? : Keyed α → String → Option α
  | [], _ => none
  | (k, v) :: rest, key => if k = key then some v else get? rest key

/-- Writes `value` under `key`: in place when the key is present, at the end otherwise. -/
def insert : Keyed α → String → α → Keyed α
  | [], key, value => [(key, value)]
  | (k, v) :: rest, key, value =>
    if k = key then (k, value) :: rest else (k, v) :: insert rest key value

/-- The table with entries written into it one after another. -/
def insertAll (table : Keyed α) (entries : List (String × α)) : Keyed α :=
  entries.foldl (fun table entry => table.insert entry.1 entry.2) table

/-- The entries written one after another: a repeated key keeps its first place and its last
value. -/
def ofList (entries : List (String × α)) : Keyed α :=
  entries.foldl (fun table entry => table.insert entry.1 entry.2) []

def keys (table : Keyed α) : List String := table.map Prod.fst

def contains (table : Keyed α) (key : String) : Bool := (table.get? key).isSome

/-- No key occurs twice. -/
def Distinct (table : Keyed α) : Prop := table.keys.Nodup

instance (table : Keyed α) : Decidable table.Distinct :=
  inferInstanceAs (Decidable table.keys.Nodup)

@[simp] theorem keys_nil : keys ([] : Keyed α) = [] := rfl

@[simp] theorem keys_cons (entry : String × α) (rest : Keyed α) :
    keys (entry :: rest) = entry.1 :: keys rest := rfl

theorem mem_of_get? {table : Keyed α} {key : String} {value : α}
    (h : table.get? key = some value) : (key, value) ∈ table := by
  induction table with
  | nil => cases h
  | cons entry rest ih =>
    obtain ⟨k, v⟩ := entry
    unfold get? at h
    split at h
    · rename_i same
      cases h
      exact same ▸ List.mem_cons_self
    · exact List.mem_cons_of_mem _ (ih h)

theorem get?_of_mem {table : Keyed α} (h : table.Distinct) {key : String} {value : α}
    (member : (key, value) ∈ table) : table.get? key = some value := by
  induction table with
  | nil => cases member
  | cons entry rest ih =>
    obtain ⟨k, v⟩ := entry
    obtain ⟨fresh, others⟩ := List.nodup_cons.1 h
    unfold get?
    obtain here | later := List.mem_cons.1 member
    · cases here
      simp
    · have present : key ∈ keys rest := List.mem_map_of_mem later
      have other : ¬ k = key := fun same => fresh (same ▸ present)
      rw [if_neg other, ih others later]

theorem get?_append (table rest : Keyed α) (key : String) :
    get? (table ++ rest) key = (table.get? key).or (get? rest key) := by
  induction table with
  | nil => rfl
  | cons entry table ih =>
    simp only [List.cons_append, get?, ih]
    split <;> rfl

theorem get?_insert (table : Keyed α) (key : String) (value : α) (other : String) :
    (table.insert key value).get? other = if key = other then some value else table.get? other := by
  induction table with
  | nil => simp [insert, get?]
  | cons entry rest ih =>
    obtain ⟨k, v⟩ := entry
    simp only [insert, get?]
    split
    · subst k; simp only [get?]; split <;> rfl
    · simp only [get?, ih]
      split <;> split <;> simp_all

theorem keys_insert (table : Keyed α) (key : String) (value : α) :
    (table.insert key value).keys =
      if key ∈ table.keys then table.keys else table.keys ++ [key] := by
  induction table with
  | nil => simp [insert]
  | cons entry rest ih =>
    obtain ⟨k, v⟩ := entry
    simp only [insert, keys_cons]
    by_cases h : k = key
    · simp [h]
    · have h' : ¬ key = k := fun e => h e.symm
      simp only [h, if_false, keys_cons, ih, List.mem_cons, h', false_or]
      split <;> simp

theorem distinct_insert {table : Keyed α} (h : table.Distinct) (key : String) (value : α) :
    (table.insert key value).Distinct := by
  unfold Distinct at *
  rw [keys_insert]
  split
  · exact h
  · rename_i absent
    simp only [List.nodup_append, h, true_and]
    refine ⟨by simp, ?_⟩
    intro a ha b hb
    simp only [List.mem_singleton] at hb
    subst hb
    exact fun e => absent (e ▸ ha)

theorem distinct_ofList (entries : List (String × α)) : (ofList entries).Distinct := by
  suffices ∀ table : Keyed α, table.Distinct →
      (entries.foldl (fun table entry => table.insert entry.1 entry.2) table).Distinct from
    this [] List.nodup_nil
  induction entries with
  | nil => exact fun _ h => h
  | cons entry rest ih => exact fun table h => ih _ (distinct_insert h _ _)

theorem mem_insert {table : Keyed α} {key : String} {value : α} {entry : String × α}
    (h : entry ∈ table.insert key value) : entry = (key, value) ∨ entry ∈ table := by
  induction table with
  | nil => exact .inl (by simpa [insert] using h)
  | cons first rest ih =>
    obtain ⟨k, v⟩ := first
    simp only [insert] at h
    split at h
    · rename_i same
      obtain rfl | later := List.mem_cons.1 h
      · exact .inl (by rw [same])
      · exact .inr (List.mem_cons_of_mem _ later)
    · obtain rfl | later := List.mem_cons.1 h
      · exact .inr List.mem_cons_self
      · exact (ih later).imp_right (List.mem_cons_of_mem _)

theorem mem_ofList {entries : List (String × α)} {entry : String × α}
    (h : entry ∈ ofList entries) : entry ∈ entries := by
  suffices ∀ table : Keyed α, entry ∈ table.insertAll entries → entry ∈ table ∨ entry ∈ entries from
    (this [] h).resolve_left List.not_mem_nil
  clear h
  induction entries with
  | nil => exact fun _ h => .inl h
  | cons first rest ih =>
    intro table h
    obtain earlier | later := ih _ h
    · obtain rfl | present := mem_insert earlier
      · exact .inr List.mem_cons_self
      · exact .inl present
    · exact .inr (List.mem_cons_of_mem _ later)

@[simp] theorem insertAll_nil (table : Keyed α) : table.insertAll [] = table := rfl

@[simp] theorem insertAll_cons (table : Keyed α) (entry : String × α)
    (rest : List (String × α)) :
    table.insertAll (entry :: rest) = (table.insert entry.1 entry.2).insertAll rest := rfl

theorem ofList_eq_insertAll (entries : List (String × α)) :
    ofList entries = insertAll [] entries := rfl

/-- A write under a key that an initial part lacks passes it by. -/
theorem insert_append {done : Keyed α} {key : String} (absent : key ∉ done.keys)
    (rest : Keyed α) (value : α) :
    insert (done ++ rest) key value = done ++ insert rest key value := by
  induction done with
  | nil => rfl
  | cons entry done ih =>
    obtain ⟨k, v⟩ := entry
    simp only [keys_cons, List.mem_cons, not_or] at absent
    have other : ¬ k = key := fun h => absent.1 h.symm
    simp only [List.cons_append, insert, other, if_false, ih absent.2]

theorem not_mem_keys_of_distinct {done rest : Keyed α} {entry : String × α}
    (h : Distinct (done ++ entry :: rest)) : entry.1 ∉ done.keys := by
  intro present
  simp only [Distinct, keys, List.map_append, List.map_cons, List.nodup_append] at h
  exact h.2.2 _ present _ List.mem_cons_self rfl

/-- Entries under keys of their own come to stand behind those that are there. -/
theorem insertAll_append {done entries : Keyed α} (h : Distinct (done ++ entries)) :
    insertAll done entries = done ++ entries := by
  induction entries generalizing done with
  | nil => simp
  | cons entry rest ih =>
    have absent := not_mem_keys_of_distinct h
    have next : done.insert entry.1 entry.2 = done ++ [entry] := by
      simpa [insert] using insert_append absent [] entry.2
    rw [insertAll_cons, next, ih (by simpa using h)]
    simp

theorem ofList_eq {entries : Keyed α} (h : entries.Distinct) : ofList entries = entries := by
  have whole : Distinct ([] ++ entries) := h
  rw [ofList_eq_insertAll, insertAll_append whole]
  rfl

/-- Every slot is overwritten in its place; `done` is what lies before the slots left. -/
theorem insertAll_slots {done slots entries : Keyed α} (same : slots.keys = entries.keys)
    (h : Distinct (done ++ entries)) : insertAll (done ++ slots) entries = done ++ entries := by
  induction entries generalizing done slots with
  | nil =>
    have : slots = [] := by simpa [keys] using same
    simp [this]
  | cons entry rest ih =>
    obtain _ | ⟨slot, slots⟩ := slots
    · simp at same
    · simp only [keys_cons, List.cons.injEq] at same
      have absent := not_mem_keys_of_distinct h
      have next : insert (done ++ slot :: slots) entry.1 entry.2 = (done ++ [entry]) ++ slots := by
        rw [insert_append absent]
        simp [insert, same.1]
      rw [insertAll_cons, next, ih same.2 (by simpa using h)]
      simp

/-- Writing a value under every key, in order, leaves just what was written. -/
theorem insertAll_eq {table entries : Keyed α} (same : table.keys = entries.keys)
    (h : entries.Distinct) : table.insertAll entries = entries := by
  have whole : Distinct ([] ++ entries) := h
  simpa using insertAll_slots same whole

end Keyed

end Reshape
