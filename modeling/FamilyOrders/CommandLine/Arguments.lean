import FamilyOrders.Document.Basic

/-!
# Arguments

What a command line asks for.  Options come in any order, each at most once,
with the value attached by `=` or as the next argument; an argument that begins
with a hyphen is never a value, a lone hyphen apart.  The first fault or
request for help decides.
-/

namespace FamilyOrders.CommandLine

/-- What the command that makes a document is told. -/
structure GenerateOptions where
  casePath : String
  status : OrderStatus := .draft
  format : FileFormat := .pdf
  language : Language := .english
  configPath : Option String := none
  /-- Preview the document instead of having it rendered. -/
  proof : Bool := false

/-- What help is asked for. -/
inductive Topic
  | program
  | orders
  | generate
  | help
  deriving DecidableEq

inductive Command
  | version
  | help (topic : Topic)
  | orders
  | generate (options : GenerateOptions)

/-- Why a command line asks for nothing to be done. -/
inductive Stop
  | usage
  | help (topic : Topic)
  deriving DecidableEq

/-- The options read so far. -/
structure Given where
  casePath : Option String := none
  status : Option OrderStatus := none
  format : Option FileFormat := none
  language : Option Language := none
  configPath : Option String := none
  proof : Bool := false

/-- A value for an option that has none yet. -/
def once (given : Option α) (value : Option α) : Except Stop (Option α) :=
  match given, value with
  | none, some a => .ok (some a)
  | _, _ => .error .usage

def path? (text : String) : Option String :=
  if text.isEmpty then none else some text

/-- Reads the value of the named option. -/
def Given.take (given : Given) (name value : String) : Except Stop Given := do
  match name with
  | "--case" =>
    let casePath ← once given.casePath (path? value)
    return { given with casePath }
  | "--status" =>
    let status ← once given.status (OrderStatus.ofName? value)
    return { given with status }
  | "--format" =>
    let format ← once given.format (FileFormat.ofName? value)
    return { given with format }
  | "--language" =>
    let language ← once given.language (Language.ofName? value)
    return { given with language }
  | "--config" =>
    let configPath ← once given.configPath (path? value)
    return { given with configPath }
  | _ => throw .usage

/-- Whether an argument can be the value of the option before it. -/
def isValue (argument : String) : Bool :=
  argument = "-" || argument.toList.head? ≠ some '-'

/-- The name and the value of an argument that has both, joined by `=`. -/
def splitValue (argument : String) : Option (String × String) :=
  let name := argument.toList.takeWhile (· ≠ '=')
  if name.length = argument.length then none
  else some (String.ofList name,
    String.ofList (argument.toList.drop (name.length + 1)))

/-- Whether the argument is a flag for help, alone or before other letters. -/
def asksForHelp (argument : String) : Bool :=
  argument = "--help" || argument.toList.take 2 = ['-', 'h']

def Given.takeFlag (given : Given) (flag : String) : Except Stop Given :=
  if asksForHelp flag then .error (.help .generate)
  else if flag = "--proof" && !given.proof then .ok { given with proof := true }
  else .error .usage

def takesValue (name : String) : Bool :=
  ["--case", "--status", "--format", "--language", "--config"].contains name

/-- Reads the options of a document one by one. -/
def readOptions (given : Given) : List String → Except Stop Given
  | [] => .ok given
  | argument :: rest =>
    if takesValue argument then
      match rest with
      | value :: rest =>
        if isValue value then do readOptions (← given.take argument value) rest
        else .error .usage
      | [] => .error .usage
    else if argument = "--" then
      if rest.isEmpty then .ok given else .error .usage
    else
      match splitValue argument with
      | some (name, value) =>
        if asksForHelp argument then .error (.help .generate)
        else do readOptions (← given.take name value) rest
      | none => do readOptions (← given.takeFlag argument) rest

/-- The options of a document, of which the case is required. -/
def Given.options (given : Given) : Except Stop GenerateOptions :=
  match given.casePath with
  | some casePath =>
    .ok {
      casePath
      status := given.status.getD .draft
      format := given.format.getD .pdf
      language := given.language.getD .english
      configPath := given.configPath
      proof := given.proof }
  | none => .error .usage

/-- The command that lists the orders has no options. -/
def readNothing : List String → Except Stop Unit
  | [] => .ok ()
  | ["--"] => .ok ()
  | argument :: _ =>
    .error (if asksForHelp argument then .help .orders else .usage)

/-- The command that help is asked for by name. -/
def readHelp : List String → Except Stop Command
  | [] => .ok (.help .program)
  | ["orders"] => .ok (.help .orders)
  | ["generate"] => .ok (.help .generate)
  | ["help"] => .ok (.help .help)
  | _ => .error .usage

/-- Reads a whole command line, without the name of the program. -/
def readCommand : List String → Except Stop Command
  | "orders" :: rest => (readNothing rest).map fun _ => .orders
  | "generate" :: rest => do
    return .generate (← (← readOptions {} rest).options)
  | "help" :: rest => readHelp rest
  | first :: _ =>
    if first = "--version" || first.toList.take 2 = ['-', 'V'] then .ok .version
    else .error (if asksForHelp first then .help .program else .usage)
  | [] => .error .usage

end FamilyOrders.CommandLine
