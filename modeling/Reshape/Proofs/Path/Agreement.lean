import Reshape.Proofs.Path.Translation

/-!
# Simple paths against queries

A simple path and the query that is spelled the same, on the same documents:

* `follow_eq_filter`: a simple path finds what the query finds, without the nodes whose location
  takes a member at a `[*]`;
* `follow_eq`: where no `[*]` meets an object the two find the same;
* `select_eq_iff` and `select_eq_all_iff`: exactly when they do on one document, and on all;
* `finds_kept_nodes` and `agrees_iff` say so of texts.
-/

namespace Reshape

namespace SimplePath

/-! ## Steps -/

/-- The steps into a value that a segment stands for in a query, with what they lead to. -/
def Segment.reach : Segment → Json → List (Step × Json)
  | .key name, value => (value.member? name).toList.map (Prod.mk (.key name))
  | .index position, value => (value.item? position).toList.map (Prod.mk (.index position))
  | .every, .array items => items.zipIdx.map fun (item, position) => (.index position, item)
  | .every, .object members => members.map fun (name, value) => (.key name, value)
  | .every, _ => []

/-- Whether a step takes a member where a segment asks for every item. -/
def Segment.takesMember : Segment → Step → Bool
  | .every, .key _ => true
  | _, _ => false

/-- Away from objects a `[*]` takes what it takes in a query, and so does every other segment. -/
theorem Segment.select_eq_reach {segment : Segment} {value : Json}
    (h : segment = .every → value.kind ≠ .object) :
    segment.select value = (segment.reach value).map Prod.snd := by
  cases segment with
  | key name => rw [reach, List.map_map]; exact (List.map_id _).symm
  | index position => rw [reach, List.map_map]; exact (List.map_id _).symm
  | every =>
    cases value with
    | array items => rw [reach, List.map_map]; exact (List.zipIdx_map_fst 0 items).symm
    | object members => exact absurd rfl (h rfl)
    | _ => rfl

theorem Segment.takesMember_reach {segment : Segment} {value : Json}
    (h : segment = .every → value.kind ≠ .object) {taken : Step × Json}
    (member : taken ∈ segment.reach value) : segment.takesMember taken.1 = false := by
  cases segment with
  | key name => rfl
  | index position => rfl
  | every =>
    cases value with
    | array items =>
      obtain ⟨_, _, rfl⟩ := List.mem_map.1 member
      rfl
    | object members => exact absurd rfl (h rfl)
    | _ => cases member

/-- What a segment finds is what it stands for in a query, without the members that it takes
there. -/
theorem Segment.select_eq_filter_reach (segment : Segment) (value : Json) :
    segment.select value =
      ((segment.reach value).filter fun taken => !segment.takesMember taken.1).map Prod.snd := by
  -- Only a `[*]` at an object takes members, and then it takes nothing else.
  by_cases h : segment = .every → value.kind ≠ .object
  · rw [select_eq_reach h, List.filter_eq_self.2]
    intro taken member
    rw [takesMember_reach h member]
    rfl
  · obtain ⟨rfl, object⟩ := Classical.not_imp.1 h
    cases value with
    | object members =>
      refine (List.map_eq_nil_iff.2 (List.filter_eq_nil_iff.2 fun taken member => ?_)).symm
      obtain ⟨_, _, rfl⟩ := List.mem_map.1 member
      simp [takesMember]
    | _ => exact absurd Json.Kind.noConfusion object

end SimplePath

theorem Node.items_eq_map (location : Location) (start : Nat) (values : List Json) :
    items location start values =
      (values.zipIdx start).map fun (value, position) =>
        below location (.index position) value := by
  induction values generalizing start with
  | nil => rfl
  | cons value values ih => rw [items, ih, List.zipIdx_cons, List.map_cons]

namespace Query

theorem select_ofSimple (document : Json) (segment : SimplePath.Segment) (node : Node) :
    (Segment.ofSimple segment).select document node =
      (segment.reach node.value).map fun (step, value) => .below node.location step value := by
  obtain ⟨location, value⟩ := node
  cases segment with
  | key name =>
    simp only [Segment.ofSimple, Segment.select, selectChildren, Selector.select, childNamed,
      SimplePath.Segment.reach, List.append_nil]
    cases value.member? name <;> rfl
  | index position =>
    have place : ¬ (position : Int) < 0 := by omega
    simp only [Segment.ofSimple, Segment.select, selectChildren, Selector.select, childAt, fromEnd,
      SimplePath.Segment.reach, if_neg place, Int.toNat_natCast, List.append_nil]
    cases value with
    | array items =>
      simp only [itemNodes, Node.children, Node.items_eq_map, Json.item?, List.getElem?_map,
        List.getElem?_zipIdx]
      cases items[position]? <;> simp
    | _ => rfl
  | every =>
    simp only [Segment.ofSimple, Segment.select, selectChildren, Selector.select, List.append_nil]
    cases value with
    | array items =>
      simp [Node.children, Node.items_eq_map, SimplePath.Segment.reach, Function.comp_def]
    | object members => simp [Node.children, SimplePath.Segment.reach, Function.comp_def]
    | _ => rfl

/-! ## Whole paths -/

/-- Where no `[*]` meets an object, a simple path and its query find the same. -/
theorem follow_eq (document : Json) {path : SimplePath} {nodes : List Node}
    (h : ∀ before after, path = before ++ .every :: after →
      ∀ value ∈ SimplePath.follow before (nodes.map Node.value), value.kind ≠ .object) :
    SimplePath.follow path (nodes.map Node.value) =
      (follow document (path.map Segment.ofSimple) nodes).map Node.value := by
  induction path generalizing nodes with
  | nil => rfl
  | cons segment path ih =>
    have here (node : Node) (member : node ∈ nodes) :
        segment.select node.value =
          ((Segment.ofSimple segment).select document node).map Node.value := by
      rw [select_ofSimple, List.map_map, SimplePath.Segment.select_eq_reach]
      · rfl
      · rintro rfl
        exact h [] path rfl _ (List.mem_map_of_mem member)
    have next : (nodes.map Node.value).flatMap segment.select =
        (nodes.flatMap ((Segment.ofSimple segment).select document)).map Node.value := by
      rw [List.flatMap_map, List.map_flatMap]
      exact congrArg List.flatten (List.map_congr_left here)
    rw [SimplePath.follow_cons, next, List.map_cons, follow]
    refine ih fun before after same => ?_
    rw [← next, ← SimplePath.follow_cons]
    exact h (segment :: before) after (congrArg (segment :: ·) same)

end Query

namespace SimplePath

/-- Whether a location takes a member at a `[*]` of the path. -/
def takesMember (path : SimplePath) (location : Location) : Bool :=
  (path.zip location).any fun (segment, step) => segment.takesMember step

/-- Whether a node was reached without taking a member at a `[*]` of the path. -/
def keeps (path : SimplePath) (node : Node) : Bool := !path.takesMember node.location

theorem keeps_below {path : SimplePath} {node : Node}
    (same : node.location.length = path.length) (segment : Segment) (step : Step) (value : Json) :
    keeps (path ++ [segment]) (.below node.location step value) =
      (path.keeps node && !segment.takesMember step) := by
  simp [keeps, takesMember, Node.below, List.zip_append same.symm]

end SimplePath

namespace Query

/-- Of the nodes that a segment leads to from a node, the kept ones hold what the simple segment
finds, and there are none when the node is not kept itself. -/
theorem select_eq_filter (document : Json) {path : SimplePath} {node : Node}
    (same : node.location.length = path.length) (segment : SimplePath.Segment) :
    (((Segment.ofSimple segment).select document node).filter
        (SimplePath.keeps (path ++ [segment]))).map Node.value =
      if path.keeps node then segment.select node.value else [] := by
  rw [select_ofSimple, List.filter_map, List.map_map, SimplePath.Segment.select_eq_filter_reach]
  have kept (taken : Step × Json) :
      SimplePath.keeps (path ++ [segment]) (.below node.location taken.1 taken.2) =
        (path.keeps node && !segment.takesMember taken.1) :=
    SimplePath.keeps_below same segment taken.1 taken.2
  simp only [Function.comp_def, kept]
  cases path.keeps node with
  | true => simp [Node.below]
  | false => simp

theorem flatMap_select_eq_filter (document : Json) {path : SimplePath} {nodes : List Node}
    (same : ∀ node ∈ nodes, node.location.length = path.length) (segment : SimplePath.Segment) :
    ((nodes.filter path.keeps).map Node.value).flatMap segment.select =
      ((nodes.flatMap ((Segment.ofSimple segment).select document)).filter
        (path ++ [segment]).keeps).map Node.value := by
  induction nodes with
  | nil => rfl
  | cons node nodes ih =>
    obtain ⟨first, others⟩ := List.forall_mem_cons.1 same
    rw [List.flatMap_cons, List.filter_append, List.map_append, select_eq_filter document first,
      ← ih others]
    cases kept : path.keeps node <;> simp [kept]

/-- A simple path finds what its query finds at the nodes it keeps. -/
theorem follow_eq_filter (document : Json) {done path : SimplePath} {nodes : List Node}
    (same : ∀ node ∈ nodes, node.location.length = done.length) :
    SimplePath.follow path ((nodes.filter done.keeps).map Node.value) =
      ((follow document (path.map Segment.ofSimple) nodes).filter
        (done ++ path).keeps).map Node.value := by
  -- Segments move from `path` to `done` as they are followed, so that `done` stays as long as the
  -- locations of the nodes.
  induction path generalizing done nodes with
  | nil => rw [List.append_nil]; rfl
  | cons segment path ih =>
    rw [SimplePath.follow_cons, flatMap_select_eq_filter document same, List.map_cons, follow, ih,
      List.append_assoc]
    · rfl
    · intro inner member
      obtain ⟨node, there, member⟩ := List.mem_flatMap.1 member
      rw [select_ofSimple] at member
      obtain ⟨_, _, rfl⟩ := List.mem_map.1 member
      simp [Node.below, same node there]

end Query

namespace SimplePath

/-! ## A document that tells the two apart -/

/-- A document in which the query of a path finds something, with an object at every `[*]`. -/
def probe : SimplePath → Json
  | [] => .null
  | .key name :: rest => .object [(name, probe rest)]
  | .index position :: rest => .array (List.replicate position .null ++ [probe rest])
  | .every :: rest => .object [("", probe rest)]

theorem reach_probe (segment : Segment) (path : SimplePath) :
    ∃ step, segment.reach (probe (segment :: path)) = [(step, probe path)] := by
  cases segment with
  | key name => exact ⟨.key name, by simp [Segment.reach, probe, Json.member?, Keyed.get?]⟩
  | index position =>
    refine ⟨.index position, ?_⟩
    simp [Segment.reach, probe, Json.item?]
  | every => exact ⟨.key "", rfl⟩

theorem follow_ofSimple_probe (document : Json) (path : SimplePath) (location : Location) :
    Query.follow document (path.map Query.Segment.ofSimple) [⟨location, probe path⟩] ≠ [] := by
  induction path generalizing location with
  | nil => exact List.cons_ne_nil _ _
  | cons segment path ih =>
    obtain ⟨step, reached⟩ := reach_probe segment path
    rw [List.map_cons, Query.follow, List.flatMap_singleton, Query.select_ofSimple, reached]
    exact ih _

theorem follow_probe {path : SimplePath} (h : .every ∈ path) : follow path [probe path] = [] := by
  induction path with
  | nil => cases h
  | cons segment path ih =>
    rw [follow_cons, List.flatMap_singleton]
    by_cases every : segment = .every
    · rw [every]
      exact follow_none path
    · obtain ⟨step, reached⟩ := reach_probe segment path
      rw [Segment.select_eq_reach fun same => absurd same every, reached]
      exact ih ((List.mem_cons.1 h).resolve_left (Ne.symm every))

/-! ## Texts -/

theorem parse?_of_small {text : String} {path : SimplePath} (simple : segments? text = some path)
    (small : SmallIndices path) : parse? text = some path := by
  have addressable : path.all Segment.addressable = true := by
    rw [List.all_eq_true]
    intro segment member
    cases segment with
    | index position =>
      have fits : Query.maxInteger < indexLimit := by decide
      exact decide_eq_true (Nat.lt_of_le_of_lt (small position member) fits)
    | _ => rfl
  rw [parse?, simple]
  exact Option.filter_some_pos addressable

theorem segments?_of_parse? {text : String} {path : SimplePath} (parsed : parse? text = some path) :
    segments? text = some path :=
  (Option.filter_eq_some_iff.1 parsed).1

theorem select_eq_filter (path : SimplePath) (document : Json) :
    path.select document =
      (((Query.ofSimple path).nodes document).filter path.keeps).map Node.value := by
  have start (node : Node) (member : node ∈ [Node.root document]) :
      node.location.length = ([] : SimplePath).length := by
    rw [List.mem_singleton.1 member]
    rfl
  exact Query.follow_eq_filter document start

theorem select_eq {path : SimplePath} {document : Json}
    (h : ∀ before after, path = before ++ .every :: after →
      ∀ value ∈ SimplePath.select before document, value.kind ≠ .object) :
    path.select document = (Query.ofSimple path).select document :=
  @Query.follow_eq document path [.root document] h

/-- Deleting the nodes that take a member at a `[*]` changes nothing just when there are none. -/
theorem select_eq_iff (path : SimplePath) (document : Json) :
    path.select document = (Query.ofSimple path).select document ↔
      ∀ node ∈ (Query.ofSimple path).nodes document, path.takesMember node.location = false := by
  have kept : (∀ node ∈ (Query.ofSimple path).nodes document, path.keeps node = true) ↔
      ∀ node ∈ (Query.ofSimple path).nodes document, path.takesMember node.location = false := by
    simp [keeps]
  rw [← kept, ← List.length_filter_eq_length_iff, select_eq_filter, Query.select]
  constructor
  · intro same
    simpa using congrArg List.length same
  · intro same
    rw [List.length_filter_eq_length_iff] at same
    rw [List.filter_eq_self.2 same]

/-- A path agrees with its query on every document just when it has no `[*]`. -/
theorem select_eq_all_iff (path : SimplePath) :
    (∀ document, path.select document = (Query.ofSimple path).select document) ↔
      .every ∉ path := by
  constructor
  · intro same member
    have found := same path.probe
    rw [select, follow_probe member, Query.select, eq_comm, List.map_eq_nil_iff] at found
    exact follow_ofSimple_probe path.probe path [] found
  · intro absent document
    refine select_eq fun before after same => absurd ?_ absent
    simp [same]

/-- For a simple path whose indices have no needless zeros and are not too large, the text is also
a query, and the path finds exactly what the query finds at the nodes whose locations take no member
at a `[*]`, in the same order: the same values on every document in which no `[*]` meets an
object. -/
theorem finds_kept_nodes {text : String} {path : SimplePath} (simple : segments? text = some path)
    (zeros : NoNeedlessZero text.toList) (small : SmallIndices path) :
    parse? text = some path ∧
      ∃ query, Query.parse? text = some query ∧
        ∀ document,
          path.select document =
            ((query.nodes document).filter fun node => !path.takesMember node.location).map
              Node.value ∧
          ((∀ before after, path = before ++ .every :: after →
              ∀ value ∈ SimplePath.select before document, value.kind ≠ .object) →
            path.select document = query.select document) := by
  refine ⟨parse?_of_small simple small, Query.ofSimple path, ?_, fun document => ⟨?_, select_eq⟩⟩
  · exact (Query.parse?_eq_some_iff simple).2 ⟨⟨zeros, small⟩, rfl⟩
  · exact select_eq_filter path document

/-- `$.a[*][10]` reads the same both ways wherever there is an array at `a`. -/
theorem finds_kept_nodes_nested :
    ∃ query, Query.parse? "$.a[*][10]" = some query ∧
      ∀ document items, document.member? "a" = some (.array items) →
        SimplePath.select [.key "a", .every, .index 10] document = query.select document := by
  have simple : segments? "$.a[*][10]" = some [.key "a", .every, .index 10] := by decide +kernel
  have chars : "$.a[*][10]".toList = ['$', '.', 'a', '[', '*', ']', '[', '1', '0', ']'] := by
    decide +kernel
  have zeros : NoNeedlessZero "$.a[*][10]".toList := by
    simp [chars, NoNeedlessZero.cons_iff, NoNeedlessZero.nil]
  have small : SmallIndices [.key "a", .every, .index 10] := by
    simp [SmallIndices, Query.maxInteger]
  obtain ⟨_, query, reads, agree⟩ := finds_kept_nodes simple zeros small
  refine ⟨query, reads, fun document items found => (agree document).2 ?_⟩
  intro before after same value member
  have place : before = [.key "a"] := by
    obtain _ | ⟨_, _ | ⟨_, _ | ⟨_, before⟩⟩⟩ := before <;> simp_all
  have here : select [.key "a"] document = [.array items] := by
    rw [select, follow_cons, List.flatMap_singleton, Segment.select, found]
    rfl
  rw [place, here, List.mem_singleton] at member
  rw [member]
  intro same
  cases same

/-- Exactly when a text read as a simple path agrees with the same text read as a query: on one
document when the query takes no member at a `[*]` there, and on every document when the text is a
query at all and the path has no `[*]`. -/
theorem agrees_iff {text : String} {path : SimplePath} (parsed : parse? text = some path) :
    ((∃ query, Query.parse? text = some query) ↔
        NoNeedlessZero text.toList ∧ SmallIndices path) ∧
      (∀ query, Query.parse? text = some query → ∀ document,
        path.select document = query.select document ↔
          ∀ node ∈ query.nodes document, path.takesMember node.location = false) ∧
      ((∃ query, Query.parse? text = some query ∧
          ∀ document, path.select document = query.select document) ↔
        NoNeedlessZero text.toList ∧ SmallIndices path ∧ .every ∉ path) := by
  have read (query : Query) : Query.parse? text = some query ↔
      (NoNeedlessZero text.toList ∧ SmallIndices path) ∧ query = Query.ofSimple path :=
    Query.parse?_eq_some_iff (segments?_of_parse? parsed)
  refine ⟨?_, ?_, ?_⟩
  · simp [read]
  · intro query reads document
    obtain ⟨_, rfl⟩ := (read query).1 reads
    exact select_eq_iff path document
  · simp only [read, ← select_eq_all_iff]
    constructor
    · rintro ⟨_, ⟨⟨zeros, small⟩, rfl⟩, same⟩
      exact ⟨zeros, small, same⟩
    · rintro ⟨zeros, small, same⟩
      exact ⟨_, ⟨⟨zeros, small⟩, rfl⟩, same⟩

/-- `$.a[0]` reads the same both ways on every document. -/
theorem agrees_on_fixed_places :
    ∃ query, Query.parse? "$.a[0]" = some query ∧
      ∀ document, SimplePath.select [.key "a", .index 0] document = query.select document := by
  have parsed : parse? "$.a[0]" = some [.key "a", .index 0] := by decide +kernel
  have chars : "$.a[0]".toList = ['$', '.', 'a', '[', '0', ']'] := by decide
  have zeros : NoNeedlessZero "$.a[0]".toList := by
    have stop : Text.isDecimalDigit ']' = false := rfl
    simp [chars, NoNeedlessZero.cons_iff, NoNeedlessZero.nil, stop]
  have small : SmallIndices [.key "a", .index 0] := by simp [SmallIndices]
  exact (agrees_iff parsed).2.2.2 ⟨zeros, small, by decide⟩

/-- The two do not agree on every text and document: `$[*]` finds the members of an object only as
a query. -/
theorem disagree_on_members :
    ¬ ∀ text path, parse? text = some path →
      ∃ query, Query.parse? text = some query ∧
        ∀ document, path.select document = query.select document := by
  intro agree
  have parsed : parse? "$[*]" = some [.every] := by decide +kernel
  obtain ⟨query, reads, same⟩ := agree "$[*]" [.every] parsed
  obtain ⟨_, rfl⟩ := (Query.parse?_eq_some_iff (segments?_of_parse? parsed)).1 reads
  have found := same (.object [("a", .ofNat 1)])
  cases found

end SimplePath

end Reshape
