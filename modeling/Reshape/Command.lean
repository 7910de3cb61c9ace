import Reshape.Command.Arguments
import Reshape.Extractor
import Reshape.Plan.Listing
import Reshape.Settings.Form
import Reshape.Settings.Loading

/-!
# Commands

What the commands do on a host:

* `run` prints the result for each input in turn and stops at the first that fails, what is printed
  so far staying printed;
* `check` compiles a schema and prints `Plan.listing`;
* `config` prints the settings as a configuration file, or writes them to one.

The exit code is 0, 1 after a failure, or 2 for a wrong command line.
-/

namespace Reshape

namespace Command

def usage : String :=
  "Usage: reshape [--config FILE] COMMAND\n\n" ++
    "  run --schema FILE [--lenient] [--pretty] [INPUT]...\n" ++
    "  check --schema FILE\n" ++
    "  config [--save FILE]\n"

variable {m : Type → Type} [Monad m]

/-- Work on a host that may fail with a message. -/
abbrev Work (m : Type → Type) := ExceptT String m

/-- A failure with what was being done in front of it. -/
def inContext (doing : String) {ε α : Type} (message : ε → String) (outcome : Except ε α) :
    Except String α :=
  outcome.mapError fun e => doing ++ ": " ++ message e

/-- The text of the file at `path`, or a failure that says what the file is. -/
def readFile (host : Host m) (what path : String) : Work m String :=
  ExceptT.mk (inContext ("failed to read " ++ what ++ Text.quotedPath path) FileFault.message <$>
    host.read path)

/-- The schema in a file: TOML if the file is called so, JSON otherwise. -/
def loadSchema (host : Host m) (path : String) : Work m (Schema Unit) := do
  let text ← readFile host "schema " path
  let schema : Except Error (Schema Unit) :=
    if extension? path = some "toml" then Schema.ofToml text else Schema.ofText text
  ExceptT.mk (pure (inContext ("invalid schema " ++ Text.quotedPath path) Error.message schema))

/-- An extractor for the schema in a file. -/
def loadExtractor (host : Host m) (settings : Settings) (path : String) :
    Work m (Extractor Unit) := do
  let schema ← loadSchema host path
  ExceptT.mk (pure ((Extractor.ofSchema settings schema).mapError Error.message))

def outcome (extractor : Extractor Unit) (text : String) : Except Error Json :=
  ((extractor.runText text).run ()).1

def rendered (pretty : Bool) (result : Json) : String :=
  (if pretty then result.pretty else result.compact) ++ "\n"

def runInput (host : Host m) (extractor : Extractor Unit) (pretty : Bool) : Work m Unit := do
  let text ← ExceptT.mk (inContext "failed to read stdin" FileFault.message <$> host.input)
  let result ← ExceptT.mk (pure ((outcome extractor text).mapError Error.message))
  host.print (rendered pretty result)

/-- Prints the result for the document in a file. -/
def runFile (host : Host m) (extractor : Extractor Unit) (pretty : Bool) (path : String) :
    Work m Unit := do
  let text ← readFile host "" path
  let result ← ExceptT.mk (pure (inContext ("extraction failed for " ++ Text.quotedPath path)
    Error.message (outcome extractor text)))
  host.print (rendered pretty result)

def settingsText (settings : Settings) : Except String String :=
  match settings.toToml? with
  | some text => .ok text
  | none => .error "the greatest depth does not fit into a TOML integer"

def perform (host : Host m) (settings : Settings) : Command → Work m Unit
  | run schema lenient pretty inputs => do
    let settings := if lenient then { settings with strictModifiers := false } else settings
    let extractor ← loadExtractor host settings schema
    if inputs.isEmpty then runInput host extractor pretty
    else inputs.forM (runFile host extractor pretty)
  | check schema => do
    let extractor ← loadExtractor host settings schema
    let plan := extractor.plan?.getD []
    host.print ("✅ Schema compiled: " ++ (Json.ofNat plan.length).compact ++ " field(s)\n")
    host.print (Plan.listing 1 plan)
  | config none => do
    host.print (← ExceptT.mk (pure (settingsText settings)))
  | config (some path) => do
    let doing := "failed to write " ++ Text.quotedPath path
    let text ← ExceptT.mk (pure (inContext doing id (settingsText settings)))
    ExceptT.mk (inContext doing FileFault.message <$> host.write path text)
    host.print ("✅ Configuration written to " ++ Text.quotedPath path ++ "\n")
  | help => host.print usage

/-- Loads the settings and does what a command line asks for. -/
def invoke (host : Host m) (invocation : Invocation) : Work m Unit :=
  match invocation.command with
  | help => host.print usage
  | command => do
    let settings ← ExceptT.mk (inContext "failed to load configuration" LoadFault.message <$>
      (Settings.load host invocation.config).run)
    command.perform host settings

/-- Does what the arguments ask for and returns the exit code. -/
def execute (host : Host m) (arguments : List String) : m Nat := do
  match Invocation.ofArguments? arguments with
  | none =>
    host.complain usage
    return 2
  | some invocation =>
    match ← (invoke host invocation).run with
    | .ok () => return 0
    | .error message =>
      host.complain ("Error: " ++ message ++ "\n")
      return 1

end Command

end Reshape
