import RpcClients.Logging
import RpcClients.FileTree
import RpcClients.Text.Similar

/-! # The command line

Options of the program stand before the command, options of a command anywhere after it. Faults are
found in this order: what cannot be read, then the options as they were given, then those that are
missing, then arguments that are left over. -/

namespace RpcClients.Command

inductive Setting where
  | verbose | input | protoPath | output | parameter | config | json | help
deriving DecidableEq, Repr

namespace Setting

def long : Setting → String
  | verbose => "--verbose"
  | input => "--input"
  | protoPath => "--proto-path"
  | output => "--output"
  | parameter => "--param"
  | config => "--config"
  | json => "--json"
  | help => "--help"

def short? : Setting → Option String
  | verbose => some "-v"
  | input => some "-i"
  | protoPath => some "-I"
  | output => some "-o"
  | parameter | config | json | help => none

def takesValue : Setting → Bool
  | verbose | json | help => false
  | _ => true

def isRequired : Setting → Bool
  | input | output => true
  | _ => false

/-- The value is a path that is looked at before the command runs. -/
def isPath : Setting → Bool
  | input | protoPath | config => true
  | _ => false

/-- All spellings of an option. -/
def spellings (setting : Setting) : String :=
  String.intercalate " / " ((setting.long :: setting.short?.toList).map fun name => "'" ++ name ++ "'")

end Setting

inductive Subcommand where
  | gen | info | plugin
deriving DecidableEq, Repr

namespace Subcommand

def all : List Subcommand := [gen, info, plugin]

def name : Subcommand → String
  | gen => "gen"
  | info => "info"
  | plugin => "plugin"

def ofName? (name : String) : Option Subcommand := all.find? (·.name = name)

def settings : Subcommand → List Setting
  | gen => [.input, .protoPath, .output, .parameter, .config, .help]
  | info => [.input, .protoPath, .parameter, .config, .json, .help]
  | plugin => [.help]

end Subcommand

/-- The options of the program itself, given to every command. -/
def programSettings : List Setting := [.verbose, .help]

/-! ## Faults of usage -/

inductive PathProblem where
  | noFile (path : String)
  | fileIsDirectory (path : String)
  | directoryIsFile (path : String)
deriving DecidableEq, Repr

def PathProblem.message : PathProblem → String
  | noFile path => "File " ++ Text.quoted path ++ " does not exist."
  | fileIsDirectory path => "File " ++ Text.quoted path ++ " is a directory."
  | directoryIsFile path => "Directory " ++ Text.quoted path ++ " is a file."

/-- Why the arguments do not lead to a run of a command. -/
inductive UsageProblem where
  | helpAsked
  | fault (cause : Fault)
  | noSuchOption (name : String) (similar : List String)
  | noValue (name : String)
  | unwantedValue (name : String)
  | missingOption (setting : Setting)
  | invalidValue (setting : Setting) (problem : PathProblem)
  | extraArguments (arguments : List String)
  | missingCommand
  | noSuchCommand (name : String) (similar : List String)
deriving DecidableEq, Repr

namespace UsageProblem

/-- The names that may have been meant. -/
def suggestion : List String → String
  | [] => ""
  | [name] => " Did you mean " ++ Text.quoted name ++ "?"
  | names => " (Did you mean one of: " ++ String.intercalate ", " (names.map Text.quoted) ++ "?)"

def message : UsageProblem → String
  | helpAsked => ""
  | .fault cause => cause.message
  | noSuchOption name similar => "No such option " ++ Text.quoted name ++ "." ++ suggestion similar
  | noValue name => "Option " ++ Text.quoted name ++ " requires an argument."
  | unwantedValue name => "Option " ++ Text.quoted name ++ " does not take a value."
  | missingOption setting => "Missing option " ++ setting.spellings ++ "."
  | invalidValue setting problem =>
    "Invalid value for " ++ setting.spellings ++ ": " ++ problem.message
  | extraArguments [argument] => "Got unexpected extra argument (" ++ argument ++ ")"
  | extraArguments arguments =>
    "Got unexpected extra arguments (" ++ String.intercalate " " arguments ++ ")"
  | missingCommand => "Missing command."
  | noSuchCommand name similar => "No such command " ++ Text.quoted name ++ "." ++ suggestion similar

/-- Whether the usage of the command is shown with the message. -/
def showsUsage : UsageProblem → Bool
  | noValue _ | unwantedValue _ => false
  | _ => true

end UsageProblem

/-- An error message, as it is shown. -/
def errorText (message : String) : String :=
  Text.Terminal.withoutSequences ("Error: " ++ message ++ "\n")

/-- A fault in the use of a command, or of the program if there is no command yet. -/
structure UsageError where
  command : Option Subcommand
  problem : UsageProblem
deriving DecidableEq, Repr

namespace UsageError

def usage : Option Subcommand → String
  | none =>
    "Usage: " ++ programName ++ " [OPTIONS] COMMAND [ARGS]...\n" ++
      "Try '" ++ programName ++ " --help' for help.\n\n"
  | some command =>
    let name := programName ++ " " ++ command.name
    "Usage: " ++ name ++ " [OPTIONS]\n" ++ "Try '" ++ name ++ " --help' for help.\n\n"

def text (error : UsageError) : String :=
  (if error.problem.showsUsage then usage error.command else "") ++
    errorText error.problem.message

end UsageError

/-! ## Reading arguments -/

/-- An option as it was given, with the empty text if it takes no value. -/
abbrev Given := Setting × String

/-- The value that follows an option. -/
def takeValue (name : String) : List String → Except UsageProblem (String × List String)
  | [] => .error (.noValue name)
  | value :: rest => .ok (value, rest)

/-- Reads the letters of an argument such as `-vo`. What stands after an option that takes a value is
its value, else the next argument is. -/
def readShort (settings : List Setting) (rest : List String) :
    List Char → Except UsageProblem (List Given × List String)
  | [] => .ok ([], rest)
  | letter :: letters => do
    let name := String.ofList ['-', letter]
    match settings.find? (·.short? = some name) with
    | none => throw (.noSuchOption name [])
    | some setting =>
      if setting.takesValue then
        if letters.isEmpty then
          let (value, rest) ← takeValue name rest
          return ([(setting, value)], rest)
        else return ([(setting, String.ofList letters)], rest)
      else
        let (given, rest) ← readShort settings rest letters
        return ((setting, "") :: given, rest)

/-- Reads an argument that starts with a dash, and its value. -/
def readOption (settings : List Setting) (argument : String) (rest : List String) :
    Except UsageProblem (List Given × List String) := do
  let (name, value) := Text.cut '=' argument.toList
  let name := String.ofList name
  match settings.find? (·.long = name) with
  | none =>
    if ['-', '-'].isPrefixOf argument.toList then
      throw (.noSuchOption name (Text.Similar.closest name (settings.map Setting.long)))
    else readShort settings rest (argument.toList.drop 1)
  | some setting =>
    if setting.takesValue then
      let (value, rest) ← takeValue name ((value.map String.ofList).toList ++ rest)
      return ([(setting, value)], rest)
    else if value.isSome then throw (.unwantedValue name)
    else return ([(setting, "")], rest)

def isOption (argument : String) : Bool := argument.toList.head? = some '-' && 1 < argument.length

/-- Reads options up to `--`. Other arguments are collected if `mixed`, else the first of them ends the
options. At most `fuel` arguments are read. -/
def readArguments (settings : List Setting) (mixed : Bool) :
    (fuel : Nat) → List String → Except UsageProblem (List Given × List String)
  | 0, arguments => .ok ([], arguments)
  | _ + 1, [] => .ok ([], [])
  | fuel + 1, argument :: rest => do
    if argument = "--" then return ([], rest)
    else if isOption argument then
      let (given, rest) ← readOption settings argument rest
      let (others, arguments) ← readArguments settings mixed fuel rest
      return (given ++ others, arguments)
    else if mixed then
      let (given, arguments) ← readArguments settings mixed fuel rest
      return (given, argument :: arguments)
    else return ([], argument :: rest)

/-- The options and the other arguments of a command line, of which each step reads at least one. -/
def readAll (settings : List Setting) (mixed : Bool) (arguments : List String) :
    Except UsageProblem (List Given × List String) :=
  readArguments settings mixed (arguments.length + 1) arguments

/-- Options that are read without fault and do not ask for help, with the other arguments. -/
def readOptions (settings : List Setting) (mixed : Bool) (arguments : List String) :
    Except UsageProblem (List Given × List String) := do
  let (given, rest) ← readAll settings mixed arguments
  if given.any (·.1 = .help) then throw .helpAsked
  return (given, rest)

/-! ## Checks -/

/-- Whether a path names what the option wants. -/
def checkPath (tree : FileTree) (setting : Setting) (value : String) : Except UsageProblem Unit :=
  match setting, tree.spotOfText value with
  | .input, .file _ _ | .config, .file _ _ => .ok ()
  | .input, .directory _ | .config, .directory _ =>
    .error (.invalidValue setting (.fileIsDirectory value))
  | .input, _ | .config, _ => .error (.invalidValue setting (.noFile value))
  | .protoPath, .file _ _ => .error (.invalidValue setting (.directoryIsFile value))
  | _, _ => .ok ()

def checkValue (tree : FileTree) (setting : Setting) (value : String) : Except UsageProblem Unit :=
  if setting.isPath && Path.hasNul [value] then .error (.fault .nulInPath)
  else checkPath tree setting value

def valuesOf (given : List Given) (setting : Setting) : List String :=
  (given.filter (·.1 = setting)).map (·.2)

/-- The values of an option that count: of an option that is not a list the last one. -/
def countedValues (given : List Given) (setting : Setting) : List String :=
  match setting with
  | .input | .protoPath | .parameter => valuesOf given setting
  | _ => (valuesOf given setting).getLast?.toList

def checkSetting (tree : FileTree) (given : List Given) (setting : Setting) :
    Except UsageProblem Unit := do
  let values := countedValues given setting
  if setting.isRequired && values.isEmpty then throw (.missingOption setting)
  values.forM (checkValue tree setting)

/-- Options in the order in which they are checked: as given, then as declared. -/
def checkOrder (given : List Given) (declared : List Setting) : List Setting :=
  let named := (given.map (·.1)).eraseDups
  named ++ declared.filter (· ∉ named)

/-- A command with its options. -/
structure Invocation where
  verbose : Bool
  command : Subcommand
  given : List Given
deriving DecidableEq, Repr

def Invocation.values (invocation : Invocation) (setting : Setting) : List String :=
  countedValues invocation.given setting

/-- Reads and checks the arguments of a command. -/
def readCommand (tree : FileTree) (command : Subcommand) (arguments : List String) :
    Except UsageProblem (List Given) := do
  let (given, extra) ← readOptions command.settings true arguments
  (checkOrder given command.settings).forM (checkSetting tree given)
  if !extra.isEmpty then throw (.extraArguments extra)
  return given

/-- Reads the arguments of the program. -/
def readProgram (arguments : List String) :
    Except UsageProblem (Bool × Subcommand × List String) := do
  let (given, rest) ← readOptions programSettings false arguments
  match rest with
  | [] => throw .missingCommand
  | name :: rest =>
    match Subcommand.ofName? name with
    | some command => return (given.any (·.1 = .verbose), command, rest)
    | none =>
      -- A name with a dash can stand after `--` only.
      let _ ← readOptions programSettings false (name :: rest)
      throw (.noSuchCommand name (Text.Similar.closest name (Subcommand.all.map Subcommand.name)))

def Invocation.ofArguments (tree : FileTree) (arguments : List String) :
    Except UsageError Invocation :=
  match readProgram arguments with
  | .error problem => .error ⟨none, problem⟩
  | .ok (verbose, command, rest) =>
    match readCommand tree command rest with
    | .error problem => .error ⟨some command, problem⟩
    | .ok given => .ok { verbose, command, given }

end RpcClients.Command
