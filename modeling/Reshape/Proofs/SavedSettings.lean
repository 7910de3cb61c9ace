import Reshape.Proofs.Loading
import Reshape.Proofs.WrittenSettings

/-!
# Settings that are saved

Settings that have been written to a file are loaded from it unchanged, whatever stands in the files
that count without being asked for:

* `onto_layer`: laid over any configuration, the file sets each of the three parts under
  `extraction` and leaves everything else as it is;
* `ofSetting?_onto_layer`: so the configuration means what has been written;
* `saved_settings_load_back`: on every host that keeps its files.
-/

namespace Reshape.Settings

open Setting (asCardinality? asNat?)

/-- The layer of a file that settings are written to. -/
def layer (settings : Settings) : Layer :=
  Layer.ofToml [("extraction", .table settings.tomlMembers)]

/-- What stands under `extraction` once the file has been laid over it. -/
def overlaid (settings : Settings) (below : Keyed Setting) : Keyed Setting :=
  ((below.insert "strict_modifiers" (.bool settings.strictModifiers)).insert "cardinality"
    (.text settings.cardinality.name)).insert "max_depth" (.integer settings.maxDepth)

theorem onto_layer (below : Setting) (settings : Settings) :
    ∃ here : Setting, Layer.onto below settings.layer =
      .table (below.entries.insert "extraction" (.table (settings.overlaid here.entries))) := by
  have address : Setting.address "extraction" = [.key "extraction"] := by cbv
  have extraction : Text.lower "extraction" = "extraction" := by cbv
  have strict : Text.lower "strict_modifiers" = "strict_modifiers" := by cbv
  have cardinality : Text.lower "cardinality" = "cardinality" := by cbv
  have depth : Text.lower "max_depth" = "max_depth" := by cbv
  refine ⟨(below.entries.get? "extraction").getD .unset, ?_⟩
  simp only [Layer.onto, layer, Layer.ofToml, tomlMembers, Setting.ofTomlMembers, Setting.ofToml,
    List.foldl_cons, List.foldl_nil, address, Setting.place, extraction, Setting.overlay,
    Setting.overlayMembers, strict, cardinality, depth, overlaid]

theorem asCardinality?_name (cardinality : Cardinality) :
    asCardinality? (.text cardinality.name) = some cardinality := by
  cases cardinality with
  | sequence => cbv
  | error => cbv

theorem asNat?_natural (n : Nat) : asNat? (.integer n) = some n := by
  have nonnegative : 0 ≤ (n : Int) := by omega
  rw [asNat?, if_pos nonnegative, Int.toNat_natCast]

/-- Each part is found among what stood there before, and means what has been written. -/
theorem ofExtraction?_overlaid (settings : Settings) (below : Keyed Setting) :
    ofExtraction? (.table (settings.overlaid below)) = some settings := by
  have strict : (settings.overlaid below).get? "strict_modifiers" =
      some (.bool settings.strictModifiers) := by
    simp [overlaid, Keyed.get?_insert]
  have cardinality : (settings.overlaid below).get? "cardinality" =
      some (.text settings.cardinality.name) := by
    simp [overlaid, Keyed.get?_insert]
  have depth : (settings.overlaid below).get? "max_depth" = some (.integer settings.maxDepth) := by
    simp [overlaid, Keyed.get?_insert]
  simp [ofExtraction?, partOf?, strict, cardinality, depth, orElse, Setting.asBool?,
    asCardinality?_name, asNat?_natural]

theorem ofSetting?_onto_layer (below : Setting) (settings : Settings) :
    ofSetting? (Layer.onto below settings.layer) = some settings := by
  obtain ⟨here, overlaid⟩ := onto_layer below settings
  rw [overlaid]
  simp [ofSetting?, partOf?, Keyed.get?_insert, orElse, ofExtraction?_overlaid]

theorem ofEnvironment_unset {environment : Environment}
    (unset : ∀ entry ∈ environment, Layer.variableKey? entry.1 = none) :
    Layer.ofEnvironment environment = [] := by
  refine List.filterMap_eq_nil_iff.2 fun entry member => ?_
  dsimp only
  rw [unset entry member, Option.map_none]

/-- The layer that settings were saved as is the one that is read. -/
theorem fileLayer_saved {setup : Setup} {files : Files} {settings : Settings} {text path : String}
    (written : settings.toToml? = some text) (toml : extension? path = some "toml")
    (there : files.presence path = .file) (content : files.text path = .ok text) :
    fileLayer (.still setup files) path = .ok settings.layer := by
  have format : FileFormat.ofName? path = some .toml := by
    rw [FileFormat.ofName?, toml]
    rfl
  have first : fileUnder? setup.formats files path = some ⟨path, some .toml⟩ := by
    rw [fileUnder?_of_file there, format]
  have found : sourceUnder? setup.formats files path = some ⟨.toml, text⟩ :=
    sourceUnder?_eq_some_iff.2 ⟨path, first, content⟩
  have parsed : Source.layer? setup.formats ⟨.toml, text⟩ = some settings.layer := by
    rw [Source.layer?, Formats.read?, parse?_of_toToml? written]
    rfl
  rw [fileLayer_found found (Option.isSome_of_eq_some parsed), layerOf, Option.bind_some, parsed]
  rfl

/-- **Saved settings load back.** Settings cannot be written where their depth does not fit into a
signed word, and only there. Otherwise, once a host that keeps its files has written the text to a
file with the ending `toml`, a load that asks for this file gives the settings in all three parts
and leaves the host as it is. No variable may set a key, and the files that count without being
asked for must be well-formed, whatever they say and whatever their formats. -/
theorem saved_settings_load_back {σ : Type} {host : Host (StateM σ)} {files : σ → Files}
    (keeps : host.Keeps files)
    (unset : ∀ entry ∈ host.environment, Layer.variableKey? entry.1 = none)
    (settings : Settings) :
    (settings.toToml? = none ↔ 2 ^ 63 - 1 < settings.maxDepth) ∧
      ∀ text ∈ settings.toToml?, ∀ path, extension? path = some "toml" → ∀ s s',
        (host.write path text).run s = (.ok (), s') →
        (∀ source ∈ defaultSources host.toSetup (files s'),
          (source.layer? host.formats).isSome) →
        (load host (some path)).run.run s' = (.ok settings, s') := by
  constructor
  · rw [toToml?_eq_none_iff]
    omega
  intro text written path toml s s' saved wellFormed
  obtain ⟨there, content⟩ := keeps.written saved
  have own : fileLayer (.still host.toSetup (files s')) path = .ok settings.layer :=
    fileLayer_saved written toml there content
  have layers := fileLayers_still wellFormed own
  have meant : ofSetting? (Layer.merged (defaultLayers host.toSetup (files s') ++
      [settings.layer] ++ [Layer.ofEnvironment host.environment])) = some settings := by
    rw [ofEnvironment_unset unset]
    simp only [Layer.merged, List.foldl_append]
    exact ofSetting?_onto_layer _ settings
  have looks := load_looks keeps (some path) s'
  rw [load_still layers meant] at looks
  exact looks

/-- Settings unlike the standard ones in every part. -/
def cautious : Settings := ⟨false, .error, 7⟩

def cautiousText : String :=
  "[extraction]\nstrict_modifiers = false\ncardinality = \"error\"\nmax_depth = 7\n"

/-- A desk with other settings in two of the places that count without being asked for. -/
def settledDesk : Desk where
  files := [("extractor.toml", "[extraction]\nmax_depth = 3\ncardinality = \"sequence\"\n"),
    (".extractor.toml", ""), ("config/extractor.toml", ""),
    ("home/.config/extractor/extractor.toml", "[Extraction]\nStrict_Modifiers = \"yes\"\n")]
  input := ""

/-- The same desk with one more file. -/
def savedDesk : Desk :=
  { settledDesk with files := settledDesk.files ++ [("saved.toml", cautiousText)] }

theorem write_settledDesk : settledDesk.write "saved.toml" cautiousText = .ok savedDesk := by
  have parts : (Desk.parts? "saved.toml") = .ok ["saved.toml"] := by decide +kernel
  have free : settledDesk.isDirectory ["saved.toml"] = false := by decide +kernel
  unfold Desk.write
  rw [parts]
  simp [Desk.walk, free, bind, Except.bind]
  rfl

theorem cautious_settings_load_back :
    cautious.toToml? = some cautiousText ∧
      ((Desk.host [("HOME", "home")]).write "saved.toml" cautiousText).run settledDesk =
        (.ok (), savedDesk) ∧
      (load (Desk.host [("HOME", "home")]) (some "saved.toml")).run.run savedDesk =
        (.ok cautious, savedDesk) := by
  have written : cautious.toToml? = some cautiousText := by decide +kernel
  have unset : ∀ entry ∈ (Desk.host [("HOME", "home")]).environment,
      Layer.variableKey? entry.1 = none := by
    decide +kernel
  have toml : extension? "saved.toml" = some "toml" := by decide +kernel
  have saved : ((Desk.host [("HOME", "home")]).write "saved.toml" cautiousText).run settledDesk =
      (.ok (), savedDesk) := by
    rw [Desk.run_write, write_settledDesk]
  have wellFormed : ∀ source ∈ defaultSources (Desk.host [("HOME", "home")]).toSetup savedDesk.held,
      (source.layer? .builtin).isSome := by
    decide +kernel
  refine ⟨written, saved, ?_⟩
  exact (saved_settings_load_back (Desk.host_keeps _) unset cautious).2 _ written _ toml _ _ saved
    wellFormed

end Reshape.Settings
