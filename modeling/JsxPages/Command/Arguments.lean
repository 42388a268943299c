import JsxPages.Text.Basic
/-!
# Arguments of a command line

What a command accepts is a list of `Parameter`s: flags, and options with a value. An option is
given by its long name, with the value behind it or behind an equals sign, or by its letter; letters
of flags may stand together, and a value may follow its letter at once. No option and no flag is
given twice, and a value that follows as an argument of its own does not begin with a hyphen.
Everything behind `--` is a plain argument.
-/

namespace JsxPages.Command

/-- What an option takes. -/
inductive Kind where
  /-- Nothing. -/
  | flag
  /-- Nothing; the request that it makes is answered at once. -/
  | request
  /-- Any text. -/
  | text
  /-- A text that is not empty. -/
  | path
  deriving DecidableEq, Repr

/-- A flag or an option. -/
structure Parameter where
  name : String
  letter : Option Char
  kind : Kind
  deriving DecidableEq, Repr

/-- Arguments that were understood. -/
structure Given where
  /-- Flags and options with their values, by their names. -/
  values : List (String × String) := []
  /-- Plain arguments, in order. -/
  plain : List String := []
  deriving DecidableEq, Repr

namespace Given

def has (given : Given) (name : String) : Bool :=
  (given.values.lookup name).isSome

def value? (given : Given) (name : String) : Option String :=
  given.values.lookup name

/-- Adds a flag or an option that is not given yet. -/
def add? (given : Given) (parameter : Parameter) (value : String) : Option Given :=
  if given.has parameter.name ∨ parameter.kind = .path ∧ value.isEmpty then none
  else some { given with values := given.values ++ [(parameter.name, value)] }

def addPlain (given : Given) (argument : String) : Given :=
  { given with plain := given.plain ++ [argument] }

end Given

/-- What arguments come to. -/
inductive Outcome where
  /-- All were understood. -/
  | given (given : Given)
  /-- A request that is answered at once. -/
  | request (name : String)
  /-- A plain argument, where such end the reading, and the arguments behind it. -/
  | stopped (given : Given) (argument : String) (rest : List String)
  /-- Not understood. -/
  | misused

/-- What one argument comes to. -/
inductive Reading where
  /-- Complete. -/
  | given (given : Given)
  /-- An option whose value is the next argument. -/
  | wanting (given : Given) (parameter : Parameter)
  | request (name : String)
  | misused

/-- Whether an argument cannot be the value of the option in front of it. -/
def isOption (argument : String) : Bool :=
  argument.toList.head? == some '-' && argument != "-"

/-- Reads an argument that begins with two hyphens. -/
def readLong (parameters : List Parameter) (given : Given) (argument : List Char) : Reading :=
  let (name, value) :=
    match Text.cutFirst '=' argument with
    | some (name, value) => (String.ofList name, some (String.ofList value))
    | none => (String.ofList argument, none)
  match parameters.find? (·.name == name), value with
  | none, _ => .misused
  | some parameter, none =>
    match parameter.kind with
    | .flag => ((given.add? parameter "").map .given).getD .misused
    | .request => .request name
    | .text | .path => if given.has name then .misused else .wanting given parameter
  | some parameter, some value =>
    match parameter.kind with
    | .flag | .request => .misused
    | .text | .path => ((given.add? parameter value).map .given).getD .misused

/-- A value as it stands behind its letter, with or without an equals sign. -/
def attachedValue : List Char → String
  | '=' :: value => String.ofList value
  | value => String.ofList value

def readLetters (parameters : List Parameter) (given : Given) : List Char → Reading
  | [] => .given given
  | letter :: rest =>
    match parameters.find? (·.letter == some letter) with
    | none => .misused
    | some parameter =>
      match parameter.kind with
      | .flag =>
        match given.add? parameter "" with
        | some given => readLetters parameters given rest
        | none => .misused
      | .request => .request parameter.name
      | .text | .path =>
        if given.has parameter.name then .misused
        else if rest.isEmpty then .wanting given parameter
        else ((given.add? parameter (attachedValue rest)).map .given).getD .misused

/-- Reads one argument that begins with a hyphen. -/
def readOption (parameters : List Parameter) (given : Given) (argument : String) : Reading :=
  match argument.toList with
  | '-' :: '-' :: rest => readLong parameters given rest
  | '-' :: rest => readLetters parameters given rest
  | _ => .misused

/-- Reads arguments. With `stops`, the first plain argument ends the reading, and there are none
behind `--`. `wanting` is an option that still needs its value. -/
def readArguments (parameters : List Parameter) (stops : Bool) (given : Given)
    (wanting : Option Parameter) : List String → Outcome
  | [] => if wanting.isSome then .misused else .given given
  | argument :: rest =>
    match wanting with
    | some parameter =>
      if isOption argument then
        .misused
      else
        match given.add? parameter argument with
        | some given => readArguments parameters stops given none rest
        | none => .misused
    | none =>
      if argument = "--" then
        if stops then .misused else .given { given with plain := given.plain ++ rest }
      else if isOption argument then
        match readOption parameters given argument with
        | .given given => readArguments parameters stops given none rest
        | .wanting given parameter => readArguments parameters stops given (some parameter) rest
        | .request name => .request name
        | .misused => .misused
      else if stops then
        .stopped given argument rest
      else
        readArguments parameters stops (given.addPlain argument) none rest

end JsxPages.Command
