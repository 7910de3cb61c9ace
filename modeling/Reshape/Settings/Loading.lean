import Reshape.Host
import Reshape.Text.Quoted

/-!
# Loading settings

Settings come from layers, later ones counting for more: three places below the current directory,
the user's configuration directory, a file that is asked for, and the environment.

* only a file that is asked for must be there and be readable, but every file that is read must be
  well-formed;
* a name that is no file may stand for a file with one more ending, whatever its format;
* only what all layers say together has to make sense.
-/

namespace Reshape

/-- Why settings cannot be loaded. -/
inductive LoadFault where
  | missing (name : String)
  | unknownFormat (file : String)
  | unreadable (fault : FileFault)
  | malformed (file : String)
  | senseless
deriving DecidableEq

def LoadFault.message : LoadFault → String
  | missing name => s!"configuration file {Text.quotedPath name} not found"
  | unknownFormat file =>
    s!"configuration file {Text.quotedPath file} is not of a registered file format"
  | unreadable fault => fault.message
  | malformed file => s!"configuration file {Text.quotedPath file} is malformed"
  | senseless => "a setting has a value that it cannot have"

namespace Settings

variable {m : Type → Type} [Monad m]

def layerOfText (formats : Formats) (format : FileFormat) (file text : String) :
    Except LoadFault Layer :=
  match formats.read? format text with
  | some layer => .ok layer
  | none => .error (.malformed file)

/-- The first candidate that is a file. -/
def firstFile (host : Host m) : List Candidate → m (Option Candidate)
  | [] => return none
  | candidate :: rest => do
    if (← host.presence candidate.file) = .file then return some candidate
    else firstFile host rest

/-- The layer of the file that `name` stands for. -/
def fileLayer (host : Host m) (name : String) : m (Except LoadFault Layer) := do
  match ← firstFile host (host.formats.candidates name) with
  | none => return .error (.missing name)
  | some ⟨file, none⟩ => return .error (.unknownFormat file)
  | some ⟨file, some format⟩ =>
    match ← host.read file with
    | .ok text => return layerOfText host.formats format file text
    | .error fault => return .error (.unreadable fault)

/-- No layer where a file is missing or unusable. -/
def optionalLayer : Except LoadFault Layer → Except LoadFault Layer
  | .error (.malformed name) => .error (.malformed name)
  | .error _ => .ok []
  | .ok layer => .ok layer

/-- The files that count wherever they are. -/
def usualFiles : List String := ["extractor.toml", ".extractor.toml", "config/extractor.toml"]

def lookup? (environment : Environment) (name : String) : Option String :=
  (environment.find? fun entry => entry.1 == name).map Prod.snd

/-- The user's home directory: what the variables say counts for more than what is on record. -/
def homeDirectory? (setup : Setup) : Option String :=
  ((lookup? setup.environment "HOME").filter fun path => !path.isEmpty).or
    (setup.home?.filter fun path => !path.isEmpty)

/-- The user's configuration file. Without a home directory there is none. -/
def userFile? (setup : Setup) : Option String :=
  (homeDirectory? setup).map fun home =>
    ((lookup? setup.environment "XDG_CONFIG_HOME").filter isRooted).getD (home ++ "/.config") ++
      "/extractor/extractor.toml"

/-- The layer of the user's configuration file, which only counts if something is there. -/
def userLayer (host : Host m) : m (Except LoadFault Layer) := do
  match userFile? host.toSetup with
  | none => return .ok []
  | some name =>
    if (← host.presence name) = .nothing then return .ok []
    else return optionalLayer (← fileLayer host name)

def fileLayers (host : Host m) (asked : Option String) : ExceptT LoadFault m (List Layer) := do
  let usual ← usualFiles.mapM fun name => do
    ExceptT.mk (optionalLayer <$> fileLayer host name)
  let user ← ExceptT.mk (userLayer host)
  match asked with
  | none => return usual ++ [user]
  | some name =>
    let layer ← ExceptT.mk (fileLayer host name)
    return usual ++ [user, layer]

/-- The settings that hold on a host, with the layer of a file that is asked for. -/
def load (host : Host m) (asked : Option String) : ExceptT LoadFault m Settings := do
  let layers ← fileLayers host asked
  match ofSetting? (Layer.merged (layers ++ [Layer.ofEnvironment host.environment])) with
  | some settings => return settings
  | none => throw .senseless

end Settings

end Reshape
