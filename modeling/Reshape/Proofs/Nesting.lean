import Reshape.Proofs.Independence
import Reshape.Proofs.Path.Places
import Reshape.Proofs.Path.Tokens

/-!
# Nesting along a path

A list of lists, made by a nested schema, beside the list that a longer path finds:

* `SimplePath.parse?_joined`: two simple paths written one after the other are read as their
  segments one after the other;
* `gives_plain_list` and `gives_nested_list`: what a list field without default, modifiers and maps
  gives, alone and around another;
* `nesting_follows_joined_path`: the inner lists, put together, are the list of the longer path.
-/

namespace Reshape

/-! ## Paths one after the other -/

/-- The text of a path with that of another, its dollar left out, behind it. -/
def Path.joined (p q : String) : String := p ++ String.ofList q.toList.tail

namespace SimplePath

/-- A text that is compiled to a simple path is read as one. -/
theorem parse?_of_compile {text : String} {path : Path} (compiled : Path.compile text = .ok path)
    (simple : path.kind = .simple) :
    ∃ segments, path = .simple text segments ∧ parse? text = some segments := by
  unfold Path.compile at compiled
  split at compiled
  · cases compiled
  · split at compiled
    · rename_i segments read
      cases compiled
      exact ⟨segments, rfl, read⟩
    · unfold Path.compileGeneral at compiled
      split at compiled <;> cases compiled
      cases simple

theorem parse?_joined {p q : String} {first second : SimplePath} (before : parse? p = some first)
    (after : parse? q = some second) : parse? (Path.joined p q) = some (first ++ second) := by
  obtain ⟨read, addressable⟩ := parse?_eq_some_iff.1 before
  obtain ⟨more, others⟩ := parse?_eq_some_iff.1 after
  obtain ⟨chars, same, nonempty, spelled⟩ := segments?_eq_some_iff.1 read
  obtain ⟨rest, also, _, later⟩ := segments?_eq_some_iff.1 more
  have whole : (Path.joined p q).toList = '$' :: (chars ++ rest) := by
    rw [Path.joined, String.toList_append, String.toList_ofList, same, also]
    rfl
  refine parse?_eq_some_iff.2 ⟨segments?_eq_some_iff.2 ⟨_, whole, ?_, spelled.append later⟩, ?_⟩
  · exact List.append_ne_nil_of_left_ne_nil nonempty second
  · exact List.forall_mem_append.2 ⟨addressable, others⟩

/-- No segment goes on from `null`. -/
theorem select_null {path : SimplePath} (nonempty : path ≠ []) : path.select .null = [] := by
  obtain ⟨segment, rest, rfl⟩ := List.exists_cons_of_ne_nil nonempty
  have nothing : segment.select .null = [] := by cases segment <;> rfl
  rw [select_cons, nothing, List.flatMap_nil]

end SimplePath

/-! ## Lists -/

variable {σ : Type}

/-- A field that is a list of what its path finds, with nothing in place of missing values and
nothing done to found ones. -/
def Field.list {π ν : Type} (path : π) (nested : Option ν) : Field σ π ν :=
  ⟨some path, none, [], [], true, nested⟩

/-- The schema of one list. -/
def Schema.list (key path : String) : Schema σ := [(key, .record (.list path none))]

/-- The schema of one list with another in each of its items. -/
def Schema.lists (key path name inner : String) : Schema σ :=
  [(key, .record (.list path (some (Schema.list name inner))))]

/-- How the schema of one list is written. -/
def Schema.writtenList (key path : String) : Json :=
  .object [(key, .object [("path", .string path), ("type", .string "array")])]

/-- How the schema of one list with another in each of its items is written. -/
def Schema.writtenLists (key path name inner : String) : Json :=
  .object [(key, .object [("path", .string path), ("type", .string "array"),
    ("schema", writtenList name inner)])]

theorem Schema.ofJson_list (key path : String) :
    Schema.ofJson (writtenList key path) = .ok (list key path : Schema σ) := rfl

theorem Schema.ofJson_lists (key path name inner : String) :
    Schema.ofJson (writtenLists key path name inner) = .ok (lists key path name inner : Schema σ) :=
  rfl

namespace Plan

variable {limit : Nat}

theorem compileRules_list {path : String} {found : Path} (compiled : Path.compile path = .ok found)
    (scope key : String) (depth : Nat) :
    compileRules limit scope depth (Schema.list key path : Schema σ) =
      .ok [⟨key, Schema.scopedKey scope key, .list found none⟩] := by
  simp [Schema.list, Field.list, compileRules, compileRule, compileNested, Field.check, compiled,
    bind, Except.bind, pure, Except.pure, Functor.map, Except.map]

theorem compile_lists {p q : String} {outer inner : Path} (first : Path.compile p = .ok outer)
    (second : Path.compile q = .ok inner) (deep : 1 ≤ limit) (key name : String) :
    compile limit (Schema.lists key p name q : Schema σ) =
      .ok [⟨key, key,
        .list outer (some [⟨name, Schema.scopedKey key name, .list inner none⟩])⟩] := by
  have top : Schema.scopedKey "" key = key := rfl
  have fits : ¬ 0 + 1 > limit := by omega
  simp [Schema.lists, compile, compileRules, compileRule, compileNested, Field.list, Field.check,
    first, compileRules_list second, top, fits, bind, Except.bind, pure, Except.pure, Functor.map,
    Except.map]

end Plan

namespace Extraction

variable {registry : Registry} {settings : Settings} {document : Json} {s : σ}

/-! ## What lists give -/

/-- A list keeps each value that it finds, and `null` is one. -/
theorem becomes_list {ν : Type} {path : Path} {nested : Option ν} (found : Json) :
    Becomes registry settings (.list path nested) s found found s := by
  refine ⟨found, ?_, rfl⟩
  by_cases h : found = .null
  · rw [if_pos h, h]
    rfl
  · rw [if_neg h]
    exact ⟨rfl, rfl⟩

/-- From no values a list is gathered as empty, with a nested plan or without. -/
theorem gives_gather_nil {scopedKey : String} {nested : Option (Plan σ)} {value : Json}
    (gathered : Gives (gather registry settings scopedKey true nested []) s value s) :
    value = .array [] := by
  cases nested with
  | none => exact (Except.ok.inj (gives_mk.1 gathered).1).symm
  | some plan =>
    simp only [gather, if_true, gives_bind, gives_mapM, gives_pure, threads_nil] at gathered
    obtain ⟨_, _, ⟨rfl, _⟩, rfl, _⟩ := gathered
    rfl

/-- The value of a list is gathered from what its path finds, also when that is nothing. -/
theorem gives_list {key scopedKey : String} {path : Path} {nested : Option (Plan σ)} {value : Json}
    (gathered :
      Gives (gather registry settings scopedKey true nested (path.select document)) s value s) :
    Gives (evaluate registry settings document ⟨key, scopedKey, .list path nested⟩) s value s := by
  have found : (Field.list path nested : Field σ Path (Plan σ)).found document =
      path.select document := rfl
  rw [evaluate_eq, found]
  split
  · rename_i nothing
    rw [nothing] at gathered
    obtain rfl := gives_gather_nil gathered
    exact gives_absent.2 ⟨.null, rfl, rfl⟩
  · have changed : Threads (Becomes registry settings (Field.list path nested)) s
        (path.select document) ((path.select document).map id) s :=
      threads_of_each fun value _ => becomes_list value
    rw [List.map_id] at changed
    refine gives_bind.2 ⟨path.select document, s, ?_, gathered⟩
    simpa only [gives_mapM, gives_present] using changed

/-- A list without nested schema gives what its path finds. -/
theorem gives_plain_list (key scopedKey : String) (path : Path) :
    Gives (evaluate registry settings document ⟨key, scopedKey, .list path none⟩) s
      (.array (path.select document)) s :=
  gives_list (gives_mk.2 ⟨rfl, rfl⟩)

theorem gives_run_list (name scopedKey : String) (path : Path) :
    Gives (Plan.run registry settings [⟨name, scopedKey, .list path none⟩] document) s
      (.object [(name, .array (path.select document))]) s :=
  gives_run_single.2 ⟨_, rfl, gives_plain_list name scopedKey path⟩

/-- A list with a nested list gives an object for each value that its path finds. -/
theorem gives_nested_list (key scopedKey : String) (outer : Path) (name innerKey : String)
    (inner : Path) :
    Gives (evaluate registry settings document
        ⟨key, scopedKey, .list outer (some [⟨name, innerKey, .list inner none⟩])⟩) s
      (.array ((outer.select document).map fun found =>
        .object [(name, .array (inner.select found))])) s := by
  refine gives_list ?_
  simp only [gather, if_true, gives_bind, gives_mapM, gives_pure]
  refine ⟨(outer.select document).map fun found => [(name, .array (inner.select found))], s, ?_, ?_⟩
  · refine threads_of_each fun found _ => ?_
    have ran : Gives (Plan.run registry settings [⟨name, innerKey, .list inner none⟩] found) s
        (.object [(name, .array (inner.select found))]) s :=
      gives_run_list name innerKey inner
    obtain ⟨members, same, filled⟩ := gives_map.1 ran
    cases same
    exact filled
  · rw [List.map_map]
    exact ⟨rfl, rfl⟩

/-- **Nesting along a path follows the longer path.** With two simple paths `p` and `q`, a list over
`p` with a list over `q` in each item gives one object for each value that `p` finds, and the lists
in these objects, put together, are the list that `p` with `q` behind it gives. A `null` that `p`
finds has its object, with an empty list. -/
theorem nesting_follows_joined_path {p q : String} {outer inner : Path}
    (first : Path.compile p = .ok outer) (second : Path.compile q = .ok inner)
    (simple : outer.kind = .simple ∧ inner.kind = .simple) (extractor : Extractor σ)
    (deep : 1 ≤ extractor.settings.maxDepth) (key name : String) (document : Json) (s : σ) :
    ∃ (nested flat : Schema σ) (lists : List (List Json)),
      Schema.ofJson (Schema.writtenLists key p name q) = .ok nested ∧
      Schema.ofJson (Schema.writtenList key (Path.joined p q)) = .ok flat ∧
      lists = (outer.select document).map (fun found => inner.select found) ∧
      Gives (extractor.extract nested document) s
        (.object [(key, .array (lists.map fun list => .object [(name, .array list)]))]) s ∧
      Gives (extractor.extract flat document) s (.object [(key, .array lists.flatten)]) s ∧
      inner.select .null = [] := by
  obtain ⟨before, rfl, read⟩ := SimplePath.parse?_of_compile first simple.1
  obtain ⟨after, rfl, more⟩ := SimplePath.parse?_of_compile second simple.2
  have whole : SimplePath.parse? (Path.joined p q) = some (before ++ after) :=
    SimplePath.parse?_joined read more
  have compiled :
      Path.compile (Path.joined p q) = .ok (.simple (Path.joined p q) (before ++ after)) :=
    Path.compile_simple (SimplePath.solid_of_parse? whole) whole
  have nonempty : after ≠ [] := (SimplePath.unpadded_of_parse? more).1
  refine ⟨Schema.lists key p name q, Schema.list key (Path.joined p q), _, Schema.ofJson_lists ..,
    Schema.ofJson_list .., rfl, ?_, ?_, SimplePath.select_null nonempty⟩
  · refine gives_extract.2 ⟨_, Plan.compile_lists first second deep key name, ?_⟩
    rw [List.map_map]
    exact gives_run_single.2 ⟨_, rfl, gives_nested_list ..⟩
  · refine gives_extract.2 ⟨_, Plan.compileRules_list compiled "" key 0, ?_⟩
    have ran : Gives (Plan.run extractor.registry extractor.settings
        [⟨key, key, .list (.simple (Path.joined p q) (before ++ after)) none⟩] document) s
        (.object [(key, .array ((before ++ after).select document))]) s :=
      gives_run_list ..
    rw [SimplePath.select_append, List.flatMap_def] at ran
    exact ran

/-- Teams with two people, with none, without a list of people, and `null`. -/
def teams : Json :=
  .object [("teams", .array
    [.object [("people", .array [.object [("name", .string "Ada")], .object [("name", .null)]])],
      .object [("people", .array [])], .object [], .null])]

theorem names_nested :
    let outer : Path := .simple "$.teams[*]" [.key "teams", .every]
    let inner : Path := .simple "$.people[*].name" [.key "people", .every, .key "name"]
    let extractor : Extractor Unit := .initial .standard
    Path.compile "$.teams[*]" = .ok outer ∧ Path.compile "$.people[*].name" = .ok inner ∧
      (outer.kind = .simple ∧ inner.kind = .simple) ∧ 1 ≤ extractor.settings.maxDepth ∧
      Path.joined "$.teams[*]" "$.people[*].name" = "$.teams[*].people[*].name" ∧
      ∃ nested flat : Schema Unit,
        Schema.ofJson (Schema.writtenLists "teams" "$.teams[*]" "names" "$.people[*].name") =
          .ok nested ∧
        Schema.ofJson (Schema.writtenList "teams" "$.teams[*].people[*].name") = .ok flat ∧
        Gives (extractor.extract nested teams) ()
          (.object [("teams", .array [.object [("names", .array [.string "Ada", .null])],
            .object [("names", .array [])], .object [("names", .array [])],
            .object [("names", .array [])]])]) () ∧
        Gives (extractor.extract flat teams) ()
          (.object [("teams", .array [.string "Ada", .null])]) () := by
  intro outer inner extractor
  have first : Path.compile "$.teams[*]" = .ok outer :=
    Path.compile_written (by simp) (by decide) rfl
  have second : Path.compile "$.people[*].name" = .ok inner :=
    Path.compile_written (by simp) (by decide) rfl
  have simple : outer.kind = .simple ∧ inner.kind = .simple := ⟨rfl, rfl⟩
  have deep : 1 ≤ extractor.settings.maxDepth := by decide
  have text : Path.joined "$.teams[*]" "$.people[*].name" = "$.teams[*].people[*].name" := by
    decide +kernel
  have names : (outer.select teams).map (fun found => inner.select found) =
      [[.string "Ada", .null], [], [], []] := by
    decide +kernel
  obtain ⟨nested, flat, lists, written, also, rfl, ran, straight, _⟩ :=
    nesting_follows_joined_path first second simple extractor deep "teams" "names" teams ()
  rw [names] at ran straight
  exact ⟨first, second, simple, deep, text, nested, flat, written, text ▸ also, ran, straight⟩

end Extraction

end Reshape
