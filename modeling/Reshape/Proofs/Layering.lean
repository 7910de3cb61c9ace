import Reshape.Proofs.Reading
import Reshape.Settings.Environment

/-!
# What layers say about a setting

Layers of configuration merge into one, in which each setting is what the layers that mention it
make of it, whatever they say about other settings:

* `Layer.mentions` lists what a layer writes to a setting, and `settled` is what is left once a list
  of such writes has been gone through;
* `Setting.place_address`: one entry of a layer changes a setting just by what it mentions;
* `Layer.part?_merged`: so layers do together, as long as none of them puts anything but a table
  where the settings are;
* `Layer.settled_of_last`: what is written last is laid over the rest, where anything but a table
  decides alone (`Setting.overlay_of_not_table`) and a table is merged (`Setting.overlay_table`).
-/

namespace Reshape

open Text (lower)
open Text.Reader (bind_eq_some run?_eq_some)

namespace Setting

def isTable : Setting → Bool
  | table _ => true
  | _ => false

/-! ## Writes -/

/-- Something that is laid over a place within a setting. -/
abbrev Write := Location × Setting

/-- What stands in a setting, if anything, once something has been written to it. -/
def written (below : Option Setting) (write : Write) : Option Setting :=
  some (place write.2 write.1 (below.getD unset))

/-- What stands in a setting once these writes have been made, in order. -/
def settled (writes : List Write) : Option Setting := writes.foldl written none

theorem overlay_of_not_table {value : Setting} (whole : value.isTable = false) (below : Setting) :
    overlay below value = value := by
  cases value with
  | table members => cases whole
  | _ => rfl

theorem settled_concat (writes : List Write) (write : Write) :
    settled (writes ++ [write]) = written (settled writes) write := by
  rw [settled, List.foldl_append]
  rfl

/-! ## The place of the settings -/

/-- What stands in a configuration where the settings are. -/
def extraction (configuration : Setting) : Setting :=
  (configuration.entries.get? "extraction").getD unset

/-- What stands in a configuration under the name of a setting. -/
def part? (configuration : Setting) (name : String) : Option Setting :=
  configuration.extraction.entries.get? name

/-- Whether a configuration is a table, and holds nothing but a table where the settings are. -/
structure Sectioned (configuration : Setting) : Prop where
  table : configuration.isTable = true
  section_table : ∀ inner ∈ configuration.entries.get? "extraction", inner.isTable = true

/-! ## Tables -/

@[simp] theorem entries_overlay_table (below : Setting) (members : List (String × Setting)) :
    (overlay below (table members)).entries = overlayMembers below.entries members := by
  cases members with
  | nil => cases below <;> rfl
  | cons member rest => rfl

/-- What the members of a table write to a setting. -/
def memberWrites (name : String) (members : List (String × Setting)) : List Write :=
  (members.filter fun member => lower member.1 = name).map fun member => ([], member.2)

/-- A table is merged key by key. -/
theorem get?_overlayMembers (name : String) (members : List (String × Setting))
    (below : Keyed Setting) :
    (overlayMembers below members).get? name =
      (memberWrites name members).foldl written (below.get? name) := by
  induction members generalizing below with
  | nil => rfl
  | cons member rest ih =>
    obtain ⟨key, upper⟩ := member
    rw [overlayMembers, ih, Keyed.get?_insert]
    by_cases same : lower key = name
    · subst same
      simp [memberWrites, written, place]
    · simp [memberWrites, same]

/-- A table is merged into what stands below it key by key, and an empty one changes nothing where
anything stands. -/
theorem overlay_table (below : Setting) (members : List (String × Setting)) :
    (∀ key, (overlay below (table members)).entries.get? key =
      (memberWrites key members).foldl written (below.entries.get? key)) ∧
    (members = [] → below ≠ unset → overlay below (table members) = below) := by
  constructor
  · intro key
    rw [entries_overlay_table, get?_overlayMembers]
  · rintro rfl standing
    cases below with
    | unset => exact absurd rfl standing
    | _ => rfl

theorem isTable_overlay {below : Setting} (open_place : below = unset ∨ below.isTable = true)
    (members : List (String × Setting)) : (overlay below (table members)).isTable = true := by
  cases members with
  | cons member rest => rfl
  | nil =>
    obtain rfl | tabled := open_place
    · rfl
    · cases below with
      | table members => rfl
      | _ => cases tabled

/-! ## Addresses -/

/-- Every address starts with a name. -/
theorem address_eq_cons (key : String) : ∃ outer rest, address key = .key outer :: rest := by
  unfold address
  cases read : Text.Reader.run? addressReader key with
  | none => exact ⟨key, [], rfl⟩
  | some location =>
    obtain ⟨first, between, named, later⟩ := bind_eq_some.1 (run?_eq_some.1 read)
    obtain ⟨rest, _, _, whole⟩ := bind_eq_some.1 later
    obtain ⟨name, _, _, first_key⟩ := bind_eq_some.1 named
    cases first_key
    cases whole
    exact ⟨_, rest, rfl⟩

end Setting

open Setting

namespace Layer

/-- What an entry writes to the setting with this name. -/
def mentionsOf (name : String) (entry : String × Setting) : List Write :=
  match address entry.1 with
  | [.key outer] =>
    if lower outer = "extraction" then memberWrites name entry.2.entries else []
  | .key outer :: .key inner :: rest =>
    if lower outer = "extraction" ∧ lower inner = name then [(rest, entry.2)] else []
  | _ => []

theorem mentionsOf_elsewhere {key outer : String} {rest : Location}
    (read : address key = .key outer :: rest) (elsewhere : lower outer ≠ "extraction")
    (name : String) (value : Setting) : mentionsOf name (key, value) = [] := by
  unfold mentionsOf
  rw [read]
  match rest with
  | [] => exact if_neg elsewhere
  | .key inner :: rest => exact if_neg fun both => elsewhere both.1
  | .index position :: rest => rfl

/-- What a layer writes to the setting with this name, in order. -/
def mentions (name : String) (layer : Layer) : List Write := layer.flatMap (mentionsOf name)

/-- Whether an entry leaves a table where the settings are. -/
def keepsSection (entry : String × Setting) : Bool :=
  match address entry.1 with
  | [.key outer] => lower outer != "extraction" || entry.2.isTable
  | .key outer :: .index _ :: _ => lower outer != "extraction"
  | _ => true

/-- Whether what a layer puts where the settings are is a table, if it puts anything there. -/
def Tabled (layer : Layer) : Prop := layer.all keepsSection = true

instance (layer : Layer) : Decidable layer.Tabled :=
  inferInstanceAs (Decidable (layer.all keepsSection = true))

end Layer

namespace Setting

theorem Sectioned.extraction_tabled {below : Setting} (sectioned : below.Sectioned) :
    below.extraction = unset ∨ below.extraction.isTable = true := by
  unfold extraction
  cases found : below.entries.get? "extraction" with
  | none => exact .inl rfl
  | some inner => exact .inr (sectioned.section_table inner found)

section Placing

variable (below value : Setting) {outer : String} (rest : Location)

/-- What is written elsewhere leaves the settings alone. -/
theorem get?_place_elsewhere (elsewhere : lower outer ≠ "extraction") :
    (place value (.key outer :: rest) below).entries.get? "extraction" =
      below.entries.get? "extraction" := by
  rw [place, entries, Keyed.get?_insert, if_neg elsewhere]

theorem get?_place_extraction (here : lower outer = "extraction") :
    (place value (.key outer :: rest) below).entries.get? "extraction" =
      some (place value rest below.extraction) := by
  rw [place, entries, Keyed.get?_insert, if_pos here, here, extraction]

end Placing

/-- What an entry puts where the settings are is merged into the table there. -/
theorem place_section {below value : Setting} {key outer : String} {rest : Location}
    (sectioned : below.Sectioned) (read : address key = .key outer :: rest)
    (here : lower outer = "extraction") (keeps : Layer.keepsSection (key, value) = true) :
    (place value rest below.extraction).isTable = true ∧
      ∀ name, (place value rest below.extraction).entries.get? name =
        (Layer.mentionsOf name (key, value)).foldl written (below.part? name) := by
  unfold Layer.keepsSection at keeps
  rw [read] at keeps
  unfold Layer.mentionsOf
  rw [read]
  match rest with
  | [] =>
    simp only [here, bne_self_eq_false, Bool.false_or] at keeps
    cases value with
    | table members =>
      simp only [place, here, if_true, entries_overlay_table, get?_overlayMembers]
      exact ⟨isTable_overlay sectioned.extraction_tabled members, fun name => rfl⟩
    | _ => cases keeps
  | .key inner :: rest =>
    simp only [here, true_and]
    refine ⟨rfl, fun name => ?_⟩
    rw [place, entries, Keyed.get?_insert]
    by_cases same : lower inner = name
    · subst same
      simp [written, part?]
    · simp [same, part?]
  | .index position :: rest =>
    simp [here] at keeps

/-- One entry changes a setting just by what it mentions. -/
theorem place_address {below value : Setting} {key : String} (sectioned : below.Sectioned)
    (keeps : Layer.keepsSection (key, value) = true) :
    (place value (address key) below).Sectioned ∧
      ∀ name, (place value (address key) below).part? name =
        (Layer.mentionsOf name (key, value)).foldl written (below.part? name) := by
  obtain ⟨outer, rest, read⟩ := address_eq_cons key
  by_cases here : lower outer = "extraction"
  · obtain ⟨tabled, parts⟩ := place_section sectioned read here keeps
    have found := get?_place_extraction below value rest here
    rw [read]
    refine ⟨⟨rfl, fun inner at_place => ?_⟩, fun name => ?_⟩
    · cases found.symm.trans at_place
      exact tabled
    · rw [part?, extraction, found, Option.getD_some, parts]
  · have same := get?_place_elsewhere below value rest here
    rw [read]
    refine ⟨⟨rfl, fun inner at_place => sectioned.section_table inner ?_⟩, fun name => ?_⟩
    · rwa [← same]
    · rw [Layer.mentionsOf_elsewhere read here, List.foldl_nil, part?, part?, extraction,
        extraction, same]

end Setting

namespace Layer

variable {below : Setting}

/-- A layer changes a setting just by what it mentions. -/
theorem part?_onto (sectioned : below.Sectioned) {layer : Layer} (tabled : layer.Tabled) :
    (onto below layer).Sectioned ∧ ∀ name, (onto below layer).part? name =
      (layer.mentions name).foldl written (below.part? name) := by
  induction layer generalizing below with
  | nil => exact ⟨sectioned, fun name => rfl⟩
  | cons entry layer ih =>
    rw [Tabled, List.all_cons, Bool.and_eq_true] at tabled
    obtain ⟨next, first⟩ := place_address sectioned tabled.1
    obtain ⟨last, rest⟩ := ih next tabled.2
    refine ⟨last, fun name => (rest name).trans ?_⟩
    rw [first, mentions, mentions, List.flatMap_cons, List.foldl_append]

/-- Layers that are laid over one another are one long layer. -/
theorem merged_eq_onto (layers : List Layer) : merged layers = onto (.table []) layers.flatten :=
  List.foldl_flatten.symm

theorem mentions_flatten (name : String) (layers : List Layer) :
    mentions name layers.flatten = layers.flatMap (mentions name) := by
  rw [mentions, List.flatten_eq_flatMap, List.flatMap_assoc]
  rfl

/-- Layers make of each setting what they mention of it, one after another. -/
theorem part?_merged {layers : List Layer} (tabled : ∀ layer ∈ layers, layer.Tabled) :
    (merged layers).Sectioned ∧ ∀ name, (merged layers).part? name =
      settled (layers.flatMap (mentions name)) := by
  have start : (table []).Sectioned := ⟨rfl, nofun⟩
  have whole : Tabled layers.flatten := by
    rw [Tabled, List.all_flatten, List.all_eq_true]
    exact tabled
  rw [merged_eq_onto]
  obtain ⟨sectioned, parts⟩ := part?_onto start whole
  exact ⟨sectioned, fun name => by rw [parts, mentions_flatten]; rfl⟩

/-- What the last layer that mentions a setting writes to it last is written over all the rest. -/
theorem settled_of_last {name : String} {before after : List Layer} {layer : Layer}
    {earlier : List Write} {write : Write} (latest : layer.mentions name = earlier ++ [write])
    (silent : ∀ later ∈ after, later.mentions name = []) :
    settled ((before ++ layer :: after).flatMap (mentions name)) =
      written (settled (before.flatMap (mentions name) ++ earlier)) write := by
  have nothing : after.flatMap (mentions name) = [] := List.flatMap_eq_nil_iff.2 silent
  rw [List.flatMap_append, List.flatMap_cons, nothing, List.append_nil, latest,
    ← List.append_assoc, settled_concat]

end Layer

end Reshape
