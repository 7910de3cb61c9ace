import Reshape.Keyed
import Reshape.Schema

/-!
# Routes of keys

What lies at which keys, level by level, and how scoped keys spell the way there:

* `Levels` says what stands under the keys of a level and which level lies below it, and
  `Levels.Leads` follows a route of keys to what stands at its end;
* `routeKey_eq`: the keys that scoping puts together are those from the first that is not empty on,
  joined by points;
* `joined_injective`: keys without points can be read off again;
* `Levels.Locates` says that a scoped key belongs to one place only, and `Leads.locates` that this
  is so where nothing lies below an empty key of the outermost level.
-/

namespace Reshape

/-- What stands under the keys of a level, and the level that lies below it, if there is one. -/
structure Levels (τ α : Type) where
  entries : τ → List (String × α)
  below : α → Option τ

namespace Levels

variable {τ α : Type} {levels : Levels τ α}

/-- The keys lead from a level to what stands at their end. -/
inductive Leads (levels : Levels τ α) : τ → List String → α → Prop where
  | here {level : τ} {key : String} {a : α} (member : (key, a) ∈ levels.entries level) :
      Leads levels level [key] a
  | inside {level inner : τ} {key : String} {a b : α} {route : List String}
      (member : (key, a) ∈ levels.entries level) (below : levels.below a = some inner)
      (further : Leads levels inner route b) : Leads levels level (key :: route) b

/-- No key on any route has a point in it. -/
def PointFree (levels : Levels τ α) (level : τ) : Prop :=
  ∀ route a, levels.Leads level route a → ∀ key ∈ route, '.' ∉ key.toList

/-- Nothing lies below an empty key of this level. -/
def Rooted (levels : Levels τ α) (level : τ) : Prop :=
  ∀ route a, levels.Leads level ("" :: route) a → route = []

theorem Leads.ne_nil {level : τ} {route : List String} {a : α}
    (leads : levels.Leads level route a) : route ≠ [] := by
  cases leads with
  | here => exact List.cons_ne_nil _ _
  | inside => exact List.cons_ne_nil _ _

/-- No key on any route has a point in it just if this is so of the keys of this level and, in turn,
of the levels below it. -/
theorem pointFree_iff {level : τ} :
    levels.PointFree level ↔ ∀ entry ∈ levels.entries level, '.' ∉ entry.1.toList ∧
      ∀ inner, levels.below entry.2 = some inner → levels.PointFree inner := by
  constructor
  · intro plain entry member
    refine ⟨plain _ _ (.here member) _ List.mem_cons_self, fun inner below route a leads key => ?_⟩
    exact fun present => plain _ _ (.inside member below leads) key (List.mem_cons_of_mem _ present)
  · intro each route a leads key present
    cases leads with
    | here member =>
      obtain rfl := List.mem_singleton.1 present
      exact (each _ member).1
    | inside member below further =>
      obtain ⟨own, inner⟩ := each _ member
      obtain rfl | later := List.mem_cons.1 present
      · exact own
      · exact inner _ below _ _ further key later

theorem rooted_of_keys {level : τ} (solid : ∀ entry ∈ levels.entries level, entry.1 ≠ "") :
    levels.Rooted level := by
  intro route a leads
  cases leads with
  | here => rfl
  | inside member => exact absurd rfl (solid _ member)

/-- Where no key occurs twice on any level, a route leads to one place. `P` holds of the levels in
question. -/
theorem Leads.unique {P : τ → Prop}
    (distinct : ∀ level, P level → Keyed.Distinct (levels.entries level))
    (inner : ∀ level, P level → ∀ entry ∈ levels.entries level, ∀ below,
      levels.below entry.2 = some below → P below)
    {level : τ} (start : P level) {route : List String} {a b : α}
    (first : levels.Leads level route a) (second : levels.Leads level route b) : a = b := by
  induction first with
  | here member =>
    cases second with
    | here other =>
      have found := Keyed.get?_of_mem (distinct _ start) member
      exact Option.some.inj (found.symm.trans (Keyed.get?_of_mem (distinct _ start) other))
    | inside _ _ further => exact absurd rfl further.ne_nil
  | inside member below further ih =>
    cases second with
    | here => exact absurd rfl further.ne_nil
    | inside other beside onward =>
      have found := Keyed.get?_of_mem (distinct _ start) member
      cases found.symm.trans (Keyed.get?_of_mem (distinct _ start) other)
      cases below.symm.trans beside
      exact ih (inner _ start _ member _ below) onward

end Levels

/-! ## Scoped keys -/

namespace Schema

/-- The keys of a route joined by points. -/
def joined (route : List String) : String := ".".intercalate route

/-- The key that scoping gives to what a route leads to. -/
def routeKey (route : List String) : String := route.foldl scopedKey ""

/-- A route from its first key on that is not empty. -/
def named (route : List String) : List String := route.dropWhile String.isEmpty

theorem named_cons_empty (route : List String) : named ("" :: route) = named route := rfl

theorem named_cons_of_ne {key : String} (solid : key ≠ "") (route : List String) :
    named (key :: route) = key :: route := by
  simp [named, solid]

theorem foldl_scopedKey_below {scope : String} (solid : scope ≠ "") (route : List String) :
    route.foldl scopedKey scope = joined (scope :: route) := by
  induction route generalizing scope with
  | nil => simp [joined]
  | cons key route ih =>
    have longer : scopedKey scope key = scope ++ "." ++ key := by simp [scopedKey, solid]
    have next : scope ++ "." ++ key ≠ "" := by simp [solid]
    rw [List.foldl_cons, longer, ih next]
    simp [joined, String.append_assoc]

/-- Scoping puts the keys of a route together from the first on that is not empty: an empty scope is
taken for the outermost one. -/
theorem routeKey_eq (route : List String) : routeKey route = joined (named route) := by
  induction route with
  | nil => rfl
  | cons key route ih =>
    have outermost : scopedKey "" key = key := rfl
    rw [routeKey, List.foldl_cons, outermost]
    by_cases empty : key = ""
    · rw [empty, named_cons_empty, ← ih, routeKey]
    · rw [foldl_scopedKey_below empty, named_cons_of_ne empty]

theorem splitOn_joined {route : List String} (plain : ∀ key ∈ route, '.' ∉ key.toList)
    (nonempty : route ≠ []) : (joined route).toList.splitOn '.' = route.map String.toList := by
  rw [joined, String.toList_intercalate]
  refine List.splitOn_intercalate '.' ?_ (by simpa using nonempty)
  intro chars member
  obtain ⟨key, present, rfl⟩ := List.mem_map.1 member
  exact plain key present

/-- Keys without points can be read off what they are joined to. -/
theorem joined_injective {route other : List String} (plain : ∀ key ∈ route, '.' ∉ key.toList)
    (beside : ∀ key ∈ other, '.' ∉ key.toList) (nonempty : route ≠ []) (some_key : other ≠ [])
    (same : joined route = joined other) : route = other := by
  have keys := splitOn_joined plain nonempty
  rw [same, splitOn_joined beside some_key] at keys
  exact ((List.map_inj_right fun _ _ => String.toList_inj.1).1 keys).symm

theorem mem_of_mem_named {route : List String} {key : String} (member : key ∈ named route) :
    key ∈ route :=
  (List.dropWhile_sublist _).subset member

theorem named_eq_nil_or (route : List String) :
    named route = [] ∨ ∃ key rest, named route = key :: rest ∧ key ≠ "" := by
  induction route with
  | nil => exact .inl rfl
  | cons key route ih =>
    by_cases empty : key = ""
    · rw [empty, named_cons_empty]
      exact ih
    · exact .inr ⟨key, route, named_cons_of_ne empty route, empty⟩

theorem joined_ne_empty {key : String} (solid : key ≠ "") (rest : List String) :
    joined (key :: rest) ≠ "" := by
  cases rest with
  | nil => simpa [joined] using solid
  | cons next rest => simp [joined, solid]

/-- Scoped keys tell routes apart from their first keys on that are not empty. -/
theorem routeKey_eq_iff {route other : List String} (plain : ∀ key ∈ route, '.' ∉ key.toList)
    (beside : ∀ key ∈ other, '.' ∉ key.toList) :
    routeKey route = routeKey other ↔ named route = named other := by
  rw [routeKey_eq, routeKey_eq]
  refine ⟨fun same => ?_, congrArg joined⟩
  obtain none | ⟨key, rest, named_route, solid⟩ := named_eq_nil_or route
  · obtain neither | ⟨key, rest, named_other, solid⟩ := named_eq_nil_or other
    · rw [none, neither]
    · rw [none, named_other] at same
      exact absurd same.symm (joined_ne_empty solid rest)
  · obtain none | ⟨_, _, named_other, _⟩ := named_eq_nil_or other
    · rw [none, named_route] at same
      exact absurd same (joined_ne_empty solid rest)
    · refine joined_injective (fun key member => plain key (mem_of_mem_named member))
        (fun key member => beside key (mem_of_mem_named member)) ?_ ?_ same
      · rw [named_route]
        exact List.cons_ne_nil _ _
      · rw [named_other]
        exact List.cons_ne_nil _ _

/-- A route that does not go on from an empty first key is spelled out in full. -/
theorem routeKey_of_rooted {route : List String} (rooted : ∀ rest, route = "" :: rest → rest = []) :
    routeKey route = joined route := by
  rw [routeKey_eq]
  cases route with
  | nil => rfl
  | cons key rest =>
    by_cases empty : key = ""
    · rw [empty, rooted rest (by rw [empty])]
      rfl
    · rw [named_cons_of_ne empty]

/-- Scoping joins all keys of a route just if it does not go on from an empty first key. -/
theorem routeKey_eq_joined_iff {route : List String} (plain : ∀ key ∈ route, '.' ∉ key.toList) :
    routeKey route = joined route ↔ ∀ rest, route = "" :: rest → rest = [] := by
  refine ⟨?_, routeKey_of_rooted⟩
  rintro same rest rfl
  rw [routeKey_eq, named_cons_empty] at same
  obtain none | ⟨key, others, named_rest, solid⟩ := named_eq_nil_or rest
  · have alone : [""] = "" :: rest := by
      rw [none] at same
      refine joined_injective (by simp) plain (List.cons_ne_nil _ _) (List.cons_ne_nil _ _) ?_
      simpa [joined] using same
    exact (List.cons.inj alone).2.symm
  · have shorter := joined_injective (fun key member =>
      plain key (List.mem_cons_of_mem _ (mem_of_mem_named member))) plain
      (by rw [named_rest]; exact List.cons_ne_nil _ _) (List.cons_ne_nil _ _) same
    rw [named_rest] at shorter
    exact absurd (List.cons.inj shorter).1 solid

end Schema

namespace Levels

open Schema (joined routeKey)

variable {τ α : Type} {levels : Levels τ α}

/-- The key is that of one place: it joins the keys that lead there, and scoping gives it to no
other place. -/
def Locates (levels : Levels τ α) (level : τ) (key : String) (route : List String) (a : α) : Prop :=
  levels.Leads level route a ∧ key = joined route ∧
    ∀ other b, levels.Leads level other b → routeKey other = key → other = route ∧ b = a

/-- Where nothing lies below an empty key, a scoped key joins all keys of its route. -/
theorem Leads.routeKey_eq {level : τ} (rooted : levels.Rooted level) {route : List String} {a : α}
    (leads : levels.Leads level route a) : routeKey route = joined route := by
  apply Schema.routeKey_of_rooted
  rintro rest rfl
  exact rooted rest a leads

/-- Where nothing lies below an empty key, different routes have different scoped keys. -/
theorem Leads.eq_of_routeKey {level : τ} (plain : levels.PointFree level)
    (rooted : levels.Rooted level) {route other : List String} {a b : α}
    (first : levels.Leads level route a) (second : levels.Leads level other b)
    (same : routeKey route = routeKey other) : route = other := by
  rw [first.routeKey_eq rooted, second.routeKey_eq rooted] at same
  exact Schema.joined_injective (plain route a first) (plain other b second) first.ne_nil
    second.ne_nil same

/-- Where, besides, a route leads to one place only, so does a scoped key. -/
theorem Leads.locates {level : τ} (plain : levels.PointFree level) (rooted : levels.Rooted level)
    (unique : ∀ {route : List String} {a b : α}, levels.Leads level route a →
      levels.Leads level route b → a = b)
    {route : List String} {a : α} (leads : levels.Leads level route a) :
    levels.Locates level (routeKey route) route a := by
  refine ⟨leads, leads.routeKey_eq rooted, fun other b beside same => ?_⟩
  obtain rfl := beside.eq_of_routeKey plain rooted leads same
  exact ⟨rfl, unique beside leads⟩

end Levels

end Reshape
