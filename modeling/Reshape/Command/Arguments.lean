/-!
# Command lines

What a command line asks for:

* `run --schema FILE [--lenient] [--pretty] [INPUT]…`, `check --schema FILE` and
  `config [--save FILE]`, each with `--config FILE` before or after the name of the command;
* `-s` and `-c` are short for `--schema` and `--config`; a value follows as the next argument, after
  `=`, or right behind the short form;
* no option is given twice, except `--config` once before and once after the name, where the second
  counts; after `--` nothing is an option.
-/

namespace Reshape

inductive Command where
  /-- Extract from the inputs, or from the standard input when there are none. -/
  | run (schema : String) (lenient pretty : Bool) (inputs : List String)
  /-- Compile a schema and list its fields. -/
  | check (schema : String)
  /-- Show the settings, or write them to a file. -/
  | config (save : Option String)
  /-- Explain the command line. -/
  | help
deriving DecidableEq

/-- What a command line asks for. -/
structure Invocation where
  config : Option String
  command : Command
deriving DecidableEq

namespace Invocation

/-- An option: its long name, its short one, and whether a value belongs to it. -/
structure Switch where
  long : String
  short : Option Char
  valued : Bool

/-- What the arguments of one part of a command line give. -/
structure Given where
  values : List (String × String)
  positionals : List String

/-- Why reading a command line ends early. -/
inductive Stop where
  | help
  | wrong

/-- The switch that asks for a configuration file. -/
def configSwitch : Switch := ⟨"config", some 'c', true⟩

def helpSwitch : Switch := ⟨"help", some 'h', false⟩

def Given.value? (given : Given) (name : String) : Option String :=
  (given.values.find? fun entry => entry.1 == name).map Prod.snd

def Given.has (given : Given) (name : String) : Bool := (given.value? name).isSome

/-- Notes a switch in front of what follows it. -/
def Given.note (name value : String) (given : Given) : Except Stop Given :=
  if given.has name then .error .wrong
  else .ok { given with values := (name, value) :: given.values }

/-- Notes a positional argument in front of what follows it. No file has an empty name. -/
def Given.notePositional (argument : String) (given : Given) : Except Stop Given :=
  if argument.isEmpty then .error .wrong
  else .ok { given with positionals := argument :: given.positionals }

/-- How an argument reads. -/
inductive Shape where
  /-- The end of options: `--`. -/
  | separator
  /-- An option such as `--name` or `--name=value`. -/
  | long (name : String) (value : Option String)
  /-- An option such as `-n`, `-nvalue` or `-n=value`. -/
  | short (name : Char) (value : Option String)
  | plain

/-- How an argument reads. A hyphen alone is plain. -/
def shape (argument : String) : Shape :=
  match argument.toList with
  | ['-', '-'] => .separator
  | '-' :: '-' :: name =>
    let value :=
      match name.dropWhile (· != '=') with
      | _ :: value => some (String.ofList value)
      | [] => none
    .long (String.ofList (name.takeWhile (· != '='))) value
  | '-' :: name :: rest =>
    let value :=
      match rest with
      | [] => none
      | '=' :: value => some (String.ofList value)
      | value => some (String.ofList value)
    .short name value
  | _ => .plain

/-- The switch that an argument names, with the value inside the argument. -/
def named? (switches : List Switch) : Shape → Option (Switch × Option String)
  | .long name value => (switches.find? (·.long == name)).map (·, value)
  | .short name value => (switches.find? (·.short == some name)).map (·, value)
  | .separator | .plain => none

def isPlain (argument : String) : Bool :=
  match shape argument with
  | .plain => true
  | _ => false

/-- What arguments give, each switch at most once. With `single`, a plain argument ends the reading
and the arguments after it are left as they are. -/
def scan (switches : List Switch) (single : Bool) : List String → Except Stop Given
  | [] => .ok ⟨[], []⟩
  | argument :: rest =>
    match shape argument with
    | .separator => if single then .error .wrong else rest.foldrM Given.notePositional ⟨[], []⟩
    | .plain =>
      if single then .ok ⟨[], argument :: rest⟩
      else do (← scan switches single rest).notePositional argument
    | form =>
      match named? (helpSwitch :: switches) form, rest with
      | none, _ => .error .wrong
      | some (⟨"help", _, _⟩, _), _ => .error .help
      | some (⟨name, _, false⟩, none), rest => do (← scan switches single rest).note name ""
      | some (⟨_, _, false⟩, some _), _ => .error .wrong
      | some (⟨name, _, true⟩, some value), rest =>
        if value.isEmpty then .error .wrong else do (← scan switches single rest).note name value
      | some (⟨_, _, true⟩, none), [] => .error .wrong
      | some (⟨name, _, true⟩, none), value :: rest =>
        if isPlain value && !value.isEmpty then do (← scan switches single rest).note name value
        else .error .wrong

def commandNames : List String := ["run", "check", "config", "help"]

/-- What the command called `name` is asked to do. -/
def commandOf (name : String) (arguments : List String) :
    Except Stop (Option String × Command) := do
  let schemaSwitch : Switch := ⟨"schema", some 's', true⟩
  match name with
  | "run" =>
    let given ← scan [configSwitch, schemaSwitch, ⟨"lenient", none, false⟩, ⟨"pretty", none, false⟩]
      false arguments
    match given.value? "schema" with
    | some schema =>
      return (given.value? "config",
        .run schema (given.has "lenient") (given.has "pretty") given.positionals)
    | none => throw .wrong
  | "check" =>
    let given ← scan [configSwitch, schemaSwitch] false arguments
    match given.value? "schema", given.positionals with
    | some schema, [] => return (given.value? "config", .check schema)
    | _, _ => throw .wrong
  | "config" =>
    let given ← scan [configSwitch, ⟨"save", none, true⟩] false arguments
    match given.positionals with
    | [] => return (given.value? "config", .config (given.value? "save"))
    | _ :: _ => throw .wrong
  | "help" =>
    match arguments with
    | [] => throw .help
    | [topic] => throw (if topic ∈ commandNames then .help else .wrong)
    | _ => throw .wrong
  | _ => throw .wrong

/-- What a command line asks for, or why it asks for nothing. -/
def read (arguments : List String) : Except Stop Invocation := do
  let given ← scan [configSwitch] true arguments
  match given.positionals with
  | [] => throw .wrong
  | name :: rest =>
    let (config, command) ← commandOf name rest
    return ⟨config.or (given.value? "config"), command⟩

/-- What a command line asks for; `none` if it is wrong. -/
def ofArguments? (arguments : List String) : Option Invocation :=
  match read arguments with
  | .ok invocation => some invocation
  | .error .help => some ⟨none, .help⟩
  | .error .wrong => none

end Invocation

end Reshape
