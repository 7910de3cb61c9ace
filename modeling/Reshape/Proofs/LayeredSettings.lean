import Reshape.Proofs.Layering
import Reshape.Proofs.Loading

/-!
# Settings from layers

Each setting is loaded from what the layers say about it, apart from the other settings:

* `ofSetting?_merged_iff`: what layers say together means settings just if it does so part by part;
* `allLayers` are the layers that count, with that of a file that is asked for if there is one, and
  `load_available`, `load_unavailable` say what a load makes of them and when it cannot have them;
* `settings_layered`: on every host that keeps its files.
-/

namespace Reshape.Settings

open Setting (asBool? asCardinality? asNat? settled)

/-! ## Parts -/

/-- What layers make of a setting: `absent` if none mentions it, and the meaning of what they leave
there otherwise. -/
def decided? {α : Type} (absent : α) (meaning : Setting → Option α) (name : String)
    (layers : List Layer) : Option α :=
  orElse absent meaning (settled (layers.flatMap (Layer.mentions name)))

/-- Whether values found under the names of the settings mean these settings, part by part. -/
def Means (found : String → Option Setting) (settings : Settings) : Prop :=
  orElse standard.strictModifiers asBool? (found "strict_modifiers") =
      some settings.strictModifiers ∧
    orElse standard.cardinality asCardinality? (found "cardinality") = some settings.cardinality ∧
    orElse standard.maxDepth asNat? (found "max_depth") = some settings.maxDepth

theorem ofExtraction?_eq_some_iff {members : Keyed Setting} {settings : Settings} :
    ofExtraction? (.table members) = some settings ↔ Means members.get? settings := by
  obtain ⟨strict, cardinality, maxDepth⟩ := settings
  simp only [ofExtraction?, partOf?, Option.bind_eq_bind, Option.bind_some, Option.pure_def,
    Option.bind_eq_some_iff, Option.some.injEq, Settings.mk.injEq]
  constructor
  · rintro ⟨_, first, _, second, _, third, rfl, rfl, rfl⟩
    exact ⟨first, second, third⟩
  · rintro ⟨first, second, third⟩
    exact ⟨_, first, _, second, _, third, rfl, rfl, rfl⟩

/-- Without a table for the settings all are standard. Otherwise they are looked up there one by
one. -/
theorem ofSetting?_eq_some_iff {configuration : Setting} (sectioned : configuration.Sectioned)
    {settings : Settings} :
    ofSetting? configuration = some settings ↔ Means configuration.part? settings := by
  obtain ⟨tabled, inside⟩ := sectioned
  cases configuration with
  | table members =>
    have whole : ofSetting? (.table members) =
        orElse standard ofExtraction? (Keyed.get? members "extraction") := rfl
    have part (name : String) : (Setting.table members).part? name =
        ((Keyed.get? members "extraction").getD .unset).entries.get? name := rfl
    rw [whole, funext part]
    cases found : Keyed.get? members "extraction" with
    | none => exact @ofExtraction?_eq_some_iff [] settings
    | some inner =>
      have table := inside inner found
      cases inner with
      | table inner => exact ofExtraction?_eq_some_iff
      | _ => cases table
  | _ => cases tabled

/-- What layers say together means settings just if they decide each setting so. -/
theorem ofSetting?_merged_iff {layers : List Layer} (tabled : ∀ layer ∈ layers, layer.Tabled)
    {settings : Settings} :
    ofSetting? (Layer.merged layers) = some settings ↔
      decided? standard.strictModifiers asBool? "strict_modifiers" layers =
          some settings.strictModifiers ∧
        decided? standard.cardinality asCardinality? "cardinality" layers =
          some settings.cardinality ∧
        decided? standard.maxDepth asNat? "max_depth" layers = some settings.maxDepth := by
  obtain ⟨sectioned, parts⟩ := Layer.part?_merged tabled
  rw [ofSetting?_eq_some_iff sectioned, funext parts]
  rfl

section Deciding

variable {α : Type} {absent : α} {meaning : Setting → Option α} {name : String}
  {layers : List Layer}

theorem decided?_of_unmentioned (silent : ∀ layer ∈ layers, layer.mentions name = []) :
    decided? absent meaning name layers = some absent := by
  rw [decided?, List.flatMap_eq_nil_iff.2 silent]
  rfl

section Last

variable {before after : List Layer} {layer : Layer} {earlier : List Setting.Write}

theorem decided?_of_value {value : Setting} (split : layers = before ++ layer :: after)
    (latest : layer.mentions name = earlier ++ [([], value)]) (whole : value.isTable = false)
    (silent : ∀ later ∈ after, later.mentions name = []) :
    decided? absent meaning name layers = meaning value := by
  rw [decided?, split, Layer.settled_of_last latest silent, Setting.written, Setting.place,
    Setting.overlay_of_not_table whole]
  rfl

theorem decided?_of_table {members : List (String × Setting)}
    (split : layers = before ++ layer :: after)
    (latest : layer.mentions name = earlier ++ [([], .table members)])
    (silent : ∀ later ∈ after, later.mentions name = []) :
    decided? absent meaning name layers =
      meaning (.overlay ((settled (before.flatMap (Layer.mentions name) ++ earlier)).getD .unset)
        (.table members)) := by
  rw [decided?, split, Layer.settled_of_last latest silent]
  rfl

end Last

end Deciding

/-! ## The layers that count -/

/-- All that is read. -/
def allSources (setup : Setup) (files : Files) (asked : Option String) : List Source :=
  defaultSources setup files ++ (asked.bind (sourceUnder? setup.formats files)).toList

/-- The layers that count, of which the variables form the last. -/
def allLayers (setup : Setup) (files : Files) (asked : Option String) : List Layer :=
  defaultLayers setup files ++
    (asked.map fun name =>
      layerOf setup.formats (sourceUnder? setup.formats files name)).toList ++
      [Layer.ofEnvironment setup.environment]

/-- Whether the file that is asked for can be read, if one is. -/
def Available (formats : Formats) (files : Files) (asked : Option String) : Prop :=
  ∀ name ∈ asked, (sourceUnder? formats files name).isSome

section Still

variable {setup : Setup} {files : Files} {asked : Option String}

theorem load_available (available : Available setup.formats files asked)
    (wellFormed : ∀ source ∈ allSources setup files asked,
      (source.layer? setup.formats).isSome) :
    load (.still setup files) asked =
      match ofSetting? (Layer.merged (allLayers setup files asked)) with
      | some settings => pure settings
      | none => throw .senseless := by
  have usual : ∀ source ∈ defaultSources setup files, (source.layer? setup.formats).isSome :=
    fun source member => wellFormed source (List.mem_append_left _ member)
  have layers : fileLayers (.still setup files) asked =
      pure (defaultLayers setup files ++
        (asked.map fun name =>
          layerOf setup.formats (sourceUnder? setup.formats files name)).toList) := by
    cases asked with
    | none =>
      rw [fileLayers_eq, usualLayers_still usual, userLayer_default usual, Option.map_none,
        Option.toList_none, List.append_nil]
      rfl
    | some name =>
      obtain ⟨source, found⟩ := Option.isSome_iff_exists.1 (available name rfl)
      have own := fileLayer_found found
        (wellFormed source (List.mem_append_right _ (by simp [found])))
      rw [fileLayers_still usual own, Option.map_some, found, Option.toList_some]
  rw [load, layers, pure_bind]
  rfl

theorem load_unavailable (unavailable : ¬ Available setup.formats files asked)
    (wellFormed : ∀ source ∈ allSources setup files asked,
      (source.layer? setup.formats).isSome) :
    ∃ fault, load (.still setup files) asked = throw fault := by
  have usual : ∀ source ∈ defaultSources setup files, (source.layer? setup.formats).isSome :=
    fun source member => wellFormed source (List.mem_append_left _ member)
  cases asked with
  | none => exact absurd nofun unavailable
  | some name =>
    have lost : sourceUnder? setup.formats files name = none := by
      simpa [Available] using unavailable
    obtain ⟨fault, failed, -⟩ := fileLayer_lost lost
    refine ⟨fault, ?_⟩
    rw [load, fileLayers_eq, usualLayers_still usual, userLayer_default usual]
    dsimp only
    rw [failed]
    rfl

/-- What a load gives when nothing happens, part by part. -/
theorem load_eq_pure_iff
    (wellFormed : ∀ source ∈ allSources setup files asked,
      (source.layer? setup.formats).isSome)
    (tabled : ∀ layer ∈ allLayers setup files asked, layer.Tabled) {settings : Settings} :
    load (.still setup files) asked = pure settings ↔
      Available setup.formats files asked ∧
        decided? standard.strictModifiers asBool? "strict_modifiers"
          (allLayers setup files asked) = some settings.strictModifiers ∧
        decided? standard.cardinality asCardinality? "cardinality"
          (allLayers setup files asked) = some settings.cardinality ∧
        decided? standard.maxDepth asNat? "max_depth"
          (allLayers setup files asked) = some settings.maxDepth := by
  rw [← ofSetting?_merged_iff tabled]
  by_cases available : Available setup.formats files asked
  · rw [load_available available wellFormed]
    cases ofSetting? (Layer.merged (allLayers setup files asked)) with
    | none =>
      constructor
      · intro loaded
        cases loaded
      · rintro ⟨_, ⟨⟩⟩
    | some found =>
      constructor
      · intro loaded
        cases loaded
        exact ⟨available, rfl⟩
      · rintro ⟨_, ⟨⟩⟩
        rfl
  · obtain ⟨fault, failed⟩ := load_unavailable available wellFormed
    rw [failed]
    constructor
    · intro loaded
      cases loaded
    · exact fun ⟨there, _⟩ => absurd there available

/-- A load fails just where it gives no settings: without the file that is asked for, or with a
setting that is not understood. -/
theorem exists_fault_iff
    (wellFormed : ∀ source ∈ allSources setup files asked, (source.layer? setup.formats).isSome)
    (tabled : ∀ layer ∈ allLayers setup files asked, layer.Tabled) :
    (∃ fault, load (.still setup files) asked = throw fault) ↔
      ¬ Available setup.formats files asked ∨
        decided? standard.strictModifiers asBool? "strict_modifiers"
          (allLayers setup files asked) = none ∨
        decided? standard.cardinality asCardinality? "cardinality"
          (allLayers setup files asked) = none ∨
        decided? standard.maxDepth asNat? "max_depth" (allLayers setup files asked) = none := by
  have loads (settings : Settings) : load (.still setup files) asked = pure settings ↔ _ :=
    load_eq_pure_iff wellFormed tabled
  cases loaded : load (.still setup files) asked with
  | ok settings =>
    obtain ⟨available, first, second, third⟩ := (loads settings).1 loaded
    constructor
    · rintro ⟨_, ⟨⟩⟩
    · rintro (unavailable | none | none | none)
      · exact absurd available unavailable
      · cases first.symm.trans none
      · cases second.symm.trans none
      · cases third.symm.trans none
  | error fault =>
    refine iff_of_true ⟨fault, rfl⟩ ?_
    by_contra understood
    simp only [not_or, not_not, ← ne_eq, Option.ne_none_iff_exists'] at understood
    obtain ⟨available, ⟨_, first⟩, ⟨_, second⟩, ⟨_, third⟩⟩ := understood
    cases loaded.symm.trans ((loads ⟨_, _, _⟩).2 ⟨available, first, second, third⟩)

end Still

/-- **Settings come from layers, one by one.** A load fails just if the file that is asked for
cannot be had or a setting cannot be understood, and otherwise gives each setting as the layers
decide it. A setting that no layer mentions is standard. The last layer that mentions it decides
alone if it ends with anything but a table for the setting as a whole. A table is merged key by key
into what is left there before, and an empty one changes nothing where there is anything. All files
must be well-formed in their formats, and no layer may put anything but a table where the settings
are. -/
theorem settings_layered {σ : Type} {host : Host (StateM σ)} {files : σ → Files}
    (keeps : host.Keeps files) (asked : Option String) (s : σ)
    (wellFormed : ∀ source ∈ allSources host.toSetup (files s) asked,
      (source.layer? host.formats).isSome)
    (tabled : ∀ layer ∈ allLayers host.toSetup (files s) asked, layer.Tabled) :
    let layers := allLayers host.toSetup (files s) asked
    let strict := decided? standard.strictModifiers asBool? "strict_modifiers" layers
    let cardinality := decided? standard.cardinality asCardinality? "cardinality" layers
    let maxDepth := decided? standard.maxDepth asNat? "max_depth" layers
    (∀ settings, (load host asked).run.run s = (.ok settings, s) ↔
      Available host.formats (files s) asked ∧ strict = some settings.strictModifiers ∧
        cardinality = some settings.cardinality ∧ maxDepth = some settings.maxDepth) ∧
    ((∃ fault, (load host asked).run.run s = (.error fault, s)) ↔
      ¬ Available host.formats (files s) asked ∨ strict = none ∨ cardinality = none ∨ maxDepth = none) ∧
    ∀ (α : Type) (absent : α) meaning name,
      ((∀ layer ∈ layers, layer.mentions name = []) →
        decided? absent meaning name layers = some absent) ∧
      ∀ before layer after earlier value, layers = before ++ layer :: after →
        layer.mentions name = earlier ++ [([], value)] →
        (∀ later ∈ after, later.mentions name = []) →
        (value.isTable = false → decided? absent meaning name layers = meaning value) ∧
        ∀ members, value = .table members → ∃ merged,
          let below := (settled (before.flatMap (Layer.mentions name) ++ earlier)).getD .unset
          decided? absent meaning name layers = meaning merged ∧
          (∀ key, merged.entries.get? key =
            (Setting.memberWrites key members).foldl Setting.written (below.entries.get? key)) ∧
          (members = [] → below ≠ .unset → merged = below) := by
  intro layers strict cardinality maxDepth
  have looks : (load host asked).run.run s =
      ((load (.still host.toSetup (files s)) asked).run, s) := load_looks keeps asked s
  rw [looks]
  refine ⟨fun settings => ?_, ?_, fun α absent meaning name => ⟨decided?_of_unmentioned, ?_⟩⟩
  · rw [← load_eq_pure_iff wellFormed tabled, Prod.mk.injEq, and_iff_left rfl]
    rfl
  · rw [← exists_fault_iff wellFormed tabled]
    refine exists_congr fun fault => ?_
    rw [Prod.mk.injEq, and_iff_left rfl]
    rfl
  · intro before layer after earlier value split latest silent
    refine ⟨fun whole => decided?_of_value split latest whole silent, fun members table => ?_⟩
    subst table
    obtain ⟨keys, empty⟩ := Setting.overlay_table
      ((settled (before.flatMap (Layer.mentions name) ++ earlier)).getD .unset) members
    exact ⟨_, decided?_of_table split latest silent, keys, empty⟩

/-- A desk on which a depth that means nothing is put right in another file, with JSON in the file
that is asked for. -/
def patchedDesk : Desk where
  files := [("extractor.toml", "extraction.max_depth = \"many\""), (".extractor.toml", ""),
    ("config/extractor.toml", "Extraction.Max_Depth = 3"),
    ("asked.json", "\x7b\"extraction\": \x7b\"cardinality\": \"error\"\x7d\x7d")]
  input := ""

def patchedEnvironment : Environment := [("JSON_EXTRACTOR__EXTRACTION__STRICT_MODIFIERS", "off")]

/-- What is settled at the desk. -/
def patchedSetup : Setup := (Desk.host patchedEnvironment).toSetup

/-- The layers on the desk, where `asked` stands for the file with one more ending. -/
def patchedLayers : List Layer := allLayers patchedSetup patchedDesk.held (some "asked")

theorem patchedLayers_decide :
    (∀ source ∈ allSources patchedSetup patchedDesk.held (some "asked"),
        (source.layer? .builtin).isSome) ∧
      (∀ layer ∈ patchedLayers, layer.Tabled) ∧
      decided? standard.strictModifiers asBool? "strict_modifiers" patchedLayers = some false ∧
      decided? standard.cardinality asCardinality? "cardinality" patchedLayers = some .error ∧
      decided? standard.maxDepth asNat? "max_depth" patchedLayers = some 3 := by
  decide +kernel

theorem patched_settings_load :
    (load (Desk.host patchedEnvironment) (some "asked")).run.run patchedDesk =
      (.ok ⟨false, .error, 3⟩, patchedDesk) := by
  have available : Available .builtin patchedDesk.held (some "asked") := by
    rintro _ ⟨⟩
    decide +kernel
  obtain ⟨wellFormed, tabled, decided⟩ := patchedLayers_decide
  have loads := (settings_layered (Desk.host_keeps patchedEnvironment) (some "asked") patchedDesk
    wellFormed tabled).1
  exact (loads _).2 ⟨available, decided⟩

/-- A desk on which the file that is asked for has an empty table in place of a depth. -/
def hollowDesk : Desk where
  files := [("extractor.toml", "extraction.max_depth = 5"), (".extractor.toml", ""),
    ("config/extractor.toml", ""), ("asked.toml", "[extraction.max_depth]")]
  input := ""

/-- What is settled at the desk. -/
def hollowSetup : Setup := (Desk.host []).toSetup

/-- The layers on the desk. -/
def hollowLayers : List Layer := allLayers hollowSetup hollowDesk.held (some "asked.toml")

/-- The layer of the file that is asked for. -/
def hollowLayer : Layer := layerOf .builtin (sourceUnder? .builtin hollowDesk.held "asked.toml")

/-- The file that is asked for is the last to mention the depth, and gives it a value that cannot be
understood. Still the settings are loaded, with the depth of the layer below. -/
theorem hollow_depth_harmless :
    (∃ before, hollowLayers = before ++ [hollowLayer, []]) ∧
      (∀ source ∈ allSources hollowSetup hollowDesk.held (some "asked.toml"),
        (source.layer? .builtin).isSome) ∧
      (∀ layer ∈ hollowLayers, layer.Tabled) ∧
      decided? standard.maxDepth asNat? "max_depth" [hollowLayer] = none ∧
      ((load (Desk.host []) (some "asked.toml")).run.run hollowDesk).1 =
        .ok { standard with maxDepth := 5 } := by
  refine ⟨⟨_, List.append_assoc _ [_] [_]⟩, ?_⟩
  decide +kernel

end Reshape.Settings
