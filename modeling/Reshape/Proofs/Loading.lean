import Reshape.Proofs.Files
import Reshape.Settings.Loading

/-!
# What a load reads

A load of settings depends on nothing but the setup and the files of its host, as they are then:

* `Looks` sets an action that only looks at a state beside what it finds, with one law for each way
  to compose actions;
* `Settings.load_looks`: a load finds what it finds on `Host.still`, a machine on which nothing
  happens;
* `Settings.fileUnder?` is the file that a name stands for: `fileUnder?_of_file` and
  `isSome_fileUnder?_iff` say that it is the file of this name if there is one, and that the order of
  the endings does not matter for whether there is any;
* `Settings.sourceUnder?` is what is read under a name, and `fileLayer_found`, `fileLayer_lost` say
  what a load makes of it and that a name without it is no harm where no file is asked for;
* `Settings.fileLayers_still`: on such a machine, if every file that counts without being asked for
  is well-formed, the layers of these files are followed by that of the file that is asked for.
-/

namespace Reshape

/-- A machine on which nothing happens: its files stay as they are. -/
def Host.still (setup : Setup) (files : Files) : Host Id where
  toSetup := setup
  presence path := pure (files.presence path)
  read path := pure (files.text path)
  write _ _ := pure (.error (.other "the files stay as they are"))
  input := pure (.ok "")
  print _ := pure ()
  complain _ := pure ()

/-! ## Actions that only look -/

/-- Whether an action only looks at the state `s`, and what it finds is what `still` gives. -/
def Looks {σ α : Type} (s : σ) (action : StateM σ α) (still : Id α) : Prop :=
  action.run s = (still, s)

namespace Looks

variable {σ ε α β : Type} {s : σ}

protected theorem pure (a : α) : Looks s (pure a) (pure a) := rfl

protected theorem bind {action : StateM σ α} {still : Id α} {next : α → StateM σ β}
    {stillNext : α → Id β} (first : Looks s action still)
    (after : ∀ a, Looks s (next a) (stillNext a)) :
    Looks s (action >>= next) (still >>= stillNext) := by
  rw [Looks, StateT.run_bind, first]
  exact after _

protected theorem map {action : StateM σ α} {still : Id α} (f : α → β)
    (looks : Looks s action still) : Looks s (f <$> action) (pure (f still.run)) := by
  rw [Looks, StateT.run_map, looks]
  rfl

theorem bindExcept {action : ExceptT ε (StateM σ) α} {still : ExceptT ε Id α}
    {next : α → ExceptT ε (StateM σ) β} {stillNext : α → ExceptT ε Id β}
    (first : Looks s action.run still.run)
    (after : ∀ a, Looks s (next a).run (stillNext a).run) :
    Looks s (action >>= next).run (still >>= stillNext).run := by
  rw [ExceptT.run_bind, ExceptT.run_bind]
  apply first.bind
  intro result
  cases result with
  | ok a => exact after a
  | error e => exact .pure _

protected theorem mapM {action : β → ExceptT ε (StateM σ) α} {still : β → ExceptT ε Id α}
    (each : ∀ b, Looks s (action b).run (still b).run) (bs : List β) :
    Looks s (bs.mapM action).run (bs.mapM still).run := by
  induction bs with
  | nil => exact .pure _
  | cons b bs ih =>
    rw [List.mapM_cons, List.mapM_cons]
    exact (each b).bindExcept fun _ => ih.bindExcept fun _ => .pure _

end Looks

namespace Settings

section Keeping

variable {σ : Type} {host : Host (StateM σ)} {files : σ → Files}

theorem firstFile_looks (keeps : host.Keeps files) (candidates : List Candidate) (s : σ) :
    Looks s (firstFile host candidates)
      (firstFile (.still host.toSetup (files s)) candidates) := by
  induction candidates with
  | nil => exact .pure _
  | cons candidate rest ih =>
    apply Looks.bind (keeps.looked candidate.file s)
    intro there
    split
    · exact .pure _
    · exact ih

theorem fileLayer_looks (keeps : host.Keeps files) (name : String) (s : σ) :
    Looks s (fileLayer host name) (fileLayer (.still host.toSetup (files s)) name) := by
  apply Looks.bind (firstFile_looks keeps _ s)
  intro found
  match found with
  | none => exact .pure _
  | some ⟨_, none⟩ => exact .pure _
  | some ⟨file, some _⟩ =>
    apply Looks.bind (keeps.read file s)
    intro content
    cases content with
    | ok text => exact .pure _
    | error fault => exact .pure _

theorem userLayer_looks (keeps : host.Keeps files) (s : σ) :
    Looks s (userLayer host) (userLayer (.still host.toSetup (files s))) := by
  have same : (Host.still host.toSetup (files s)).toSetup = host.toSetup := rfl
  rw [userLayer, userLayer, same]
  cases userFile? host.toSetup with
  | none => exact .pure _
  | some name =>
    apply Looks.bind (keeps.looked name s)
    intro there
    split
    · exact .pure _
    · exact Looks.bind (fileLayer_looks keeps name s) fun _ => .pure _

theorem fileLayers_looks (keeps : host.Keeps files) (asked : Option String) (s : σ) :
    Looks s (fileLayers host asked).run
      (fileLayers (.still host.toSetup (files s)) asked).run := by
  have optional (name : String) := (fileLayer_looks keeps name s).map optionalLayer
  refine (Looks.mapM optional usualFiles).bindExcept fun usual => ?_
  refine Looks.bindExcept (userLayer_looks keeps s) fun user => ?_
  cases asked with
  | none => exact .pure _
  | some name => exact Looks.bindExcept (fileLayer_looks keeps name s) fun _ => .pure _

/-- A load only looks at the files. -/
theorem load_looks (keeps : host.Keeps files) (asked : Option String) (s : σ) :
    Looks s (load host asked).run (load (.still host.toSetup (files s)) asked).run := by
  refine (fileLayers_looks keeps asked s).bindExcept fun layers => ?_
  simp only [Host.still]
  split
  · exact .pure _
  · exact .pure _

end Keeping

/-! ## On a machine on which nothing happens -/

/-- What a configuration file says, and in which format. -/
structure Source where
  format : FileFormat
  text : String

/-- The layer that a file makes, if it is well-formed. -/
def Source.layer? (formats : Formats) (source : Source) : Option Layer :=
  formats.read? source.format source.text

/-- The first of the files that a name may stand for. -/
def fileUnder? (formats : Formats) (files : Files) (name : String) : Option Candidate :=
  (formats.candidates name).find? fun candidate => files.presence candidate.file = .file

/-- What is read under a name: the file that it stands for has to be of a known format and to be
readable. -/
def sourceUnder? (formats : Formats) (files : Files) (name : String) : Option Source := do
  let candidate ← fileUnder? formats files name
  let format ← candidate.format?
  let text ← (files.text candidate.file).toOption
  return ⟨format, text⟩

/-- What is read for the user, if anything is there. -/
def userSource? (setup : Setup) (files : Files) : Option Source := do
  let name ← userFile? setup
  if files.presence name = .nothing then none else sourceUnder? setup.formats files name

/-- What counts without being asked for. -/
def defaultSources (setup : Setup) (files : Files) : List Source :=
  usualFiles.filterMap (sourceUnder? setup.formats files) ++ (userSource? setup files).toList

/-- The layer of what is read, which is empty if nothing is. -/
def layerOf (formats : Formats) (source? : Option Source) : Layer :=
  (source?.bind (Source.layer? formats)).getD []

/-- The layers that count without being asked for. -/
def defaultLayers (setup : Setup) (files : Files) : List Layer :=
  (usualFiles.map fun name => layerOf setup.formats (sourceUnder? setup.formats files name)) ++
    [layerOf setup.formats (userSource? setup files)]

variable {setup : Setup} {files : Files}

theorem firstFile_still (candidates : List Candidate) :
    firstFile (.still setup files) candidates =
      pure (candidates.find? fun candidate => files.presence candidate.file = .file) := by
  induction candidates with
  | nil => rfl
  | cons candidate rest ih =>
    have looked : (Host.still setup files).presence candidate.file =
        pure (files.presence candidate.file) := rfl
    rw [firstFile, looked, pure_bind, List.find?_cons]
    by_cases there : files.presence candidate.file = .file
    · rw [if_pos there, decide_eq_true there]
    · rw [if_neg there, decide_eq_false there, ih]

theorem fileLayer_still (name : String) :
    fileLayer (.still setup files) name =
      match fileUnder? setup.formats files name with
      | none => .error (.missing name)
      | some ⟨file, none⟩ => .error (.unknownFormat file)
      | some ⟨file, some format⟩ =>
        match files.text file with
        | .ok text => layerOfText setup.formats format file text
        | .error fault => .error (.unreadable fault) := by
  have same : (Host.still setup files).formats = setup.formats := rfl
  rw [fileLayer, same, firstFile_still, pure_bind, fileUnder?]
  match (setup.formats.candidates name).find? _ with
  | none => rfl
  | some ⟨_, none⟩ => rfl
  | some ⟨file, some _⟩ =>
    dsimp only [Host.still]
    cases files.text file with
    | ok text => rfl
    | error fault => rfl

/-! ### The file that a name stands for -/

section Candidates

variable {formats : Formats} {name : String}

theorem mem_candidates_iff {candidate : Candidate} :
    candidate ∈ formats.candidates name ↔ candidate = ⟨name, FileFormat.ofName? name⟩ ∨
      ∃ stem ∈ stem? name, ∃ format : FileFormat, ∃ ending ∈ format.endings,
        candidate = ⟨stem ++ "." ++ ending, some format⟩ := by
  have every (format : FileFormat) : format ∈ formats.order := by
    rw [formats.complete.mem_iff]
    obtain _ | _ | _ | _ | _ | _ := format <;> decide
  simp only [Formats.candidates, List.mem_cons, List.mem_flatMap, List.mem_map, Option.mem_toList,
    every, true_and]
  refine or_congr_right (exists_congr fun stem => and_congr_right fun _ => ?_)
  exact exists_congr fun format => exists_congr fun ending => and_congr_right fun _ => eq_comm

/-- No other file is tried where the name is that of a file. -/
theorem fileUnder?_of_file (there : files.presence name = .file) :
    fileUnder? formats files name = some ⟨name, FileFormat.ofName? name⟩ := by
  rw [fileUnder?, Formats.candidates, List.find?_cons_of_pos]
  exact decide_eq_true there

/-- A name stands for a file just if it is the name of one or becomes that by one more ending. -/
theorem isSome_fileUnder?_iff : (fileUnder? formats files name).isSome ↔
    files.presence name = .file ∨ ∃ stem ∈ stem? name, ∃ format : FileFormat,
      ∃ ending ∈ format.endings, files.presence (stem ++ "." ++ ending) = .file := by
  simp only [fileUnder?, List.find?_isSome, decide_eq_true_eq]
  constructor
  · rintro ⟨candidate, member, there⟩
    obtain rfl | ⟨stem, named, format, ending, known, rfl⟩ := mem_candidates_iff.1 member
    · exact .inl there
    · exact .inr ⟨stem, named, format, ending, known, there⟩
  · rintro (there | ⟨stem, named, format, ending, known, there⟩)
    · exact ⟨_, mem_candidates_iff.2 (.inl rfl), there⟩
    · exact ⟨_, mem_candidates_iff.2 (.inr ⟨stem, named, format, ending, known, rfl⟩), there⟩

end Candidates

theorem sourceUnder?_eq_some_iff {formats : Formats} {name : String} {source : Source} :
    sourceUnder? formats files name = some source ↔
      ∃ file, fileUnder? formats files name = some ⟨file, some source.format⟩ ∧
        files.text file = .ok source.text := by
  obtain ⟨format, text⟩ := source
  have readable (file text : String) :
      (files.text file).toOption = some text ↔ files.text file = .ok text := by
    cases files.text file <;> simp [Except.toOption]
  simp only [sourceUnder?, Option.bind_eq_bind, Option.bind_eq_some_iff, Option.pure_def,
    Option.some.injEq, Source.mk.injEq, readable]
  constructor
  · rintro ⟨⟨file, _⟩, first, _, rfl, _, content, rfl, rfl⟩
    exact ⟨file, first, content⟩
  · rintro ⟨file, first, content⟩
    exact ⟨_, first, _, rfl, _, content, rfl, rfl⟩

theorem layerOfText_wellFormed {formats : Formats} {source : Source}
    (wellFormed : (source.layer? formats).isSome) (file : String) :
    layerOfText formats source.format file source.text =
      .ok (layerOf formats (some source)) := by
  obtain ⟨layer, parsed⟩ := Option.isSome_iff_exists.1 wellFormed
  rw [layerOf, Option.bind_some, parsed]
  unfold Source.layer? at parsed
  rw [layerOfText, parsed]
  rfl

/-- A well-formed file makes its layer. -/
theorem fileLayer_found {name : String} {source : Source}
    (found : sourceUnder? setup.formats files name = some source)
    (wellFormed : (source.layer? setup.formats).isSome) :
    fileLayer (.still setup files) name = .ok (layerOf setup.formats (some source)) := by
  obtain ⟨file, first, content⟩ := sourceUnder?_eq_some_iff.1 found
  rw [fileLayer_still, first]
  dsimp only
  rw [content]
  exact layerOfText_wellFormed wellFormed file

/-- A name under which nothing can be read is an error, which does not count where no file is asked
for. -/
theorem fileLayer_lost {name : String} (lost : sourceUnder? setup.formats files name = none) :
    ∃ fault, fileLayer (.still setup files) name = .error fault ∧
      optionalLayer (.error fault) = .ok [] := by
  rw [fileLayer_still]
  match first : fileUnder? setup.formats files name with
  | none => exact ⟨_, rfl, rfl⟩
  | some ⟨_, none⟩ => exact ⟨_, rfl, rfl⟩
  | some ⟨file, some format⟩ =>
    dsimp only
    cases content : files.text file with
    | ok text =>
      have found : sourceUnder? setup.formats files name = some ⟨format, text⟩ :=
        sourceUnder?_eq_some_iff.2 ⟨file, first, content⟩
      cases lost.symm.trans found
    | error fault => exact ⟨_, rfl, rfl⟩

/-- A file that need not be there adds its layer. -/
theorem optionalLayer_wellFormed {name : String}
    (wellFormed : ∀ source ∈ sourceUnder? setup.formats files name,
      (source.layer? setup.formats).isSome) :
    optionalLayer (fileLayer (.still setup files) name) =
      .ok (layerOf setup.formats (sourceUnder? setup.formats files name)) := by
  cases found : sourceUnder? setup.formats files name with
  | none =>
    obtain ⟨fault, failed, ignored⟩ := fileLayer_lost found
    rw [failed, ignored]
    rfl
  | some source =>
    rw [fileLayer_found found (wellFormed source found)]
    rfl

theorem userLayer_wellFormed
    (wellFormed : ∀ source ∈ userSource? setup files, (source.layer? setup.formats).isSome) :
    userLayer (.still setup files) = .ok (layerOf setup.formats (userSource? setup files)) := by
  have same : (Host.still setup files).toSetup = setup := rfl
  rw [userLayer, same]
  unfold userSource? at *
  cases user : userFile? setup with
  | none => rfl
  | some name =>
    have looked : (Host.still setup files).presence name = pure (files.presence name) := rfl
    rw [user, Option.bind_eq_bind, Option.bind_some] at wellFormed
    dsimp only
    rw [looked, pure_bind]
    rw [Option.bind_eq_bind, Option.bind_some]
    by_cases there : files.presence name = .nothing
    · rw [if_pos there, if_pos there]
      rfl
    · rw [if_neg there] at wellFormed
      rw [if_neg there, if_neg there]
      exact optionalLayer_wellFormed wellFormed

theorem mapM_ok {ε α β : Type} {action : β → ExceptT ε Id α} {value : β → α} {bs : List β}
    (each : ∀ b ∈ bs, action b = pure (value b)) : bs.mapM action = pure (bs.map value) := by
  induction bs with
  | nil => rfl
  | cons b bs ih =>
    have first := each b List.mem_cons_self
    have rest := ih fun b member => each b (List.mem_cons_of_mem _ member)
    rw [List.mapM_cons, first, rest]
    rfl

/-- The layers of the files that count wherever they are. -/
def usualLayers {m : Type → Type} [Monad m] (host : Host m) : ExceptT LoadFault m (List Layer) :=
  usualFiles.mapM fun name => ExceptT.mk (optionalLayer <$> fileLayer host name)

theorem fileLayers_eq {m : Type → Type} [Monad m] (host : Host m) (asked : Option String) :
    fileLayers host asked = (do
      let usual ← usualLayers host
      let user ← ExceptT.mk (userLayer host)
      match asked with
      | none => return usual ++ [user]
      | some name =>
        let layer ← ExceptT.mk (fileLayer host name)
        return usual ++ [user, layer]) :=
  rfl

theorem usualLayers_still
    (wellFormed : ∀ source ∈ defaultSources setup files, (source.layer? setup.formats).isSome) :
    usualLayers (.still setup files) =
      pure (usualFiles.map fun name =>
        layerOf setup.formats (sourceUnder? setup.formats files name)) := by
  apply mapM_ok
  intro name usual
  refine optionalLayer_wellFormed fun source found => ?_
  exact wellFormed source (List.mem_append_left _ (List.mem_filterMap.2 ⟨name, usual, found⟩))

theorem userLayer_default
    (wellFormed : ∀ source ∈ defaultSources setup files, (source.layer? setup.formats).isSome) :
    userLayer (.still setup files) = .ok (layerOf setup.formats (userSource? setup files)) :=
  userLayer_wellFormed fun source found =>
    wellFormed source (List.mem_append_right _ (Option.mem_toList.2 found))

theorem fileLayers_still {path : String} {layer : Layer}
    (wellFormed : ∀ source ∈ defaultSources setup files, (source.layer? setup.formats).isSome)
    (own : fileLayer (.still setup files) path = .ok layer) :
    fileLayers (.still setup files) (some path) = pure (defaultLayers setup files ++ [layer]) := by
  rw [fileLayers_eq, usualLayers_still wellFormed, userLayer_default wellFormed]
  dsimp only
  rw [own, defaultLayers, List.append_assoc]
  rfl

/-- With layers that can be had, only what they say together counts. -/
theorem load_still {asked : Option String} {layers : List Layer} {settings : Settings}
    (had : fileLayers (.still setup files) asked = pure layers)
    (meant : ofSetting? (Layer.merged (layers ++ [Layer.ofEnvironment setup.environment])) =
      some settings) :
    load (.still setup files) asked = pure settings := by
  have same : (Host.still setup files).environment = setup.environment := rfl
  rw [load, had, pure_bind, same, meant]

end Settings

end Reshape
