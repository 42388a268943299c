import JsxPages.Command.Arguments
/-!
# What the program is asked to do

The program has the commands `init`, `convert` and `build`. The settings file and the wish for more
output are named in front of the command, everything else behind it.
-/

namespace JsxPages.Command

structure ConvertArguments where
  input : String
  output : Option String := none
  assets : Option String := none
  /-- Whether a whole module is written. -/
  component : Bool := false
  name : Option String := none
  deriving DecidableEq, Repr

structure BuildArguments where
  output : Option String := none
  minify : Bool := false
  skipCheck : Bool := false
  deriving DecidableEq, Repr

/-- A request to the program. -/
inductive Invocation where
  | version
  | help
  | init (settings : String) (overwrite : Bool)
  | convert (settings : String) (arguments : ConvertArguments)
  | build (settings : String) (arguments : BuildArguments)
  deriving DecidableEq, Repr

/-- The request for help, which every command accepts. -/
def helpParameter : Parameter :=
  ⟨"help", some 'h', .request⟩

/-- What stands in front of the command. -/
def commonParameters : List Parameter :=
  [⟨"config", some 'c', .path⟩, ⟨"verbose", some 'v', .flag⟩, ⟨"version", some 'V', .request⟩,
    helpParameter]

def initParameters : List Parameter :=
  [⟨"yes", some 'y', .flag⟩, helpParameter]

def convertParameters : List Parameter :=
  [⟨"output", some 'o', .path⟩, ⟨"assets", some 'a', .path⟩, ⟨"component", none, .flag⟩,
    ⟨"name", none, .text⟩, helpParameter]

def buildParameters : List Parameter :=
  [⟨"output", some 'o', .path⟩, ⟨"minify", none, .flag⟩, ⟨"no-validate", none, .flag⟩,
    helpParameter]

/-- The request that is made of the arguments of a command. -/
def requestOf (parameters : List Parameter) (arguments : List String)
    (make : Given → Option Invocation) : Option Invocation :=
  match readArguments parameters false {} none arguments with
  | .given given => make given
  | .request _ => some .help
  | .stopped _ _ _ | .misused => none

/-- The `init` that arguments ask for. -/
def makeInit (settings : String) (given : Given) : Option Invocation :=
  if given.plain.isEmpty then some (.init settings (given.has "yes")) else none

/-- The `convert` that arguments ask for. -/
def makeConvert (settings : String) (given : Given) : Option Invocation :=
  match given.plain with
  | [input] =>
    if input.isEmpty then
      none
    else
      some (.convert settings
        { input
          output := given.value? "output"
          assets := given.value? "assets"
          component := given.has "component"
          name := given.value? "name" })
  | _ => none

/-- The `build` that arguments ask for. -/
def makeBuild (settings : String) (given : Given) : Option Invocation :=
  if given.plain.isEmpty then
    some (.build settings
      { output := given.value? "output"
        minify := given.has "minify"
        skipCheck := given.has "no-validate" })
  else
    none

def commandNames : List String :=
  ["init", "convert", "build", "help"]

/-- The request for help on the program or on one of its commands. -/
def helpOn (arguments : List String) : Option Invocation :=
  if arguments.isEmpty ∨ arguments ∈ commandNames.map ([·]) then some .help else none

/-- The request that a command with its arguments makes. -/
def ofCommand (settings command : String) (arguments : List String) : Option Invocation :=
  match command with
  | "init" => requestOf initParameters arguments (makeInit settings)
  | "convert" => requestOf convertParameters arguments (makeConvert settings)
  | "build" => requestOf buildParameters arguments (makeBuild settings)
  | "help" => helpOn arguments
  | _ => none

/-- The request that the arguments of the program make, if they are understood. -/
def Invocation.ofArguments? (arguments : List String) : Option Invocation :=
  match readArguments commonParameters true {} none arguments with
  | .given _ | .misused => none
  | .request name => some (if name = "version" then .version else .help)
  | .stopped given command rest =>
    ofCommand ((given.value? "config").getD "sitejsx.toml") command rest

end JsxPages.Command
