import RpcClients.Client.Generate
import RpcClients.Command.Arguments
import RpcClients.Command.Report
import RpcClients.Schema.Load
import RpcClients.Wire.Request
import RpcClients.Workspace

/-! # Commands

A command is a function of the arguments, the working directory and the standard input. -/

namespace RpcClients.Command

/-- What a command leaves behind. -/
structure Outcome where
  exitCode : Nat := 0
  output : Wire.Bytes := []
  /-- Log lines and error messages. -/
  messages : String := ""
  tree : FileTree
deriving Repr

/-! ## Log lines of a run -/

/-- The units without services are passed over. -/
def groupLog (files : List File) : List LogLine :=
  match GenerationUnit.gather files with
  | .error _ => []
  | .ok units => (units.filter (!·.hasServices)).map fun unit =>
      ⟨.debug, "skipping " ++ unit.importPath ++ ": no services"⟩

/-- One line per unit, up to the first that fails. -/
def unitLog (options : Options) : List GenerationUnit → List LogLine
  | [] => []
  | unit :: rest =>
    match unitArtifacts options [] unit with
    | .error _ => []
    | .ok artifacts =>
      ⟨.debug, "generated " ++ toString artifacts.length ++ " files for " ++ unit.importPath⟩ ::
        unitLog options rest

def generateLog (options : Options) (files : List File) : List LogLine :=
  groupLog files ++
    match GenerationUnit.group files with
    | .error _ => []
    | .ok units => unitLog options units

/-! ## The commands -/

/-- The options of an invocation. -/
structure Settings where
  options : Options
  /-- Texts of the configuration file that no file can hold. -/
  halves : Options.HalfTexts
deriving Repr

/-- The JSON value in the configuration file, an empty object if there is none. -/
def configuration (tree : FileTree) (invocation : Invocation) : Except Failure Json :=
  match (invocation.values .config).getLast? with
  | none => .ok (.object [])
  | some path =>
    match tree.read (.ofText path) with
    | .error fault => .error (.fault fault)
    | .ok text => Options.readJson text

/-- The options of the configuration file, then of the parameters. -/
def settings (tree : FileTree) (invocation : Invocation) : Except Failure Settings := do
  let json ← configuration tree invocation
  let base ← Options.ofJson json
  return { options := ← base.withParameters (invocation.values .parameter)
           halves := Options.halfTexts json }

/-- Whether the files of units would hold a text that no file can hold. -/
def Settings.isUnwritable (settings : Settings) : Bool :=
  settings.options.printedTexts.any fun text => (settings.halves.lookup text).isSome

/-- Whether the paths of units would hold such a text. Some halves stand for bytes in a path. -/
def Settings.hasUnwritablePath (settings : Settings) : Bool :=
  settings.options.pluginName.any fun name =>
    (Options.codesOf settings.halves name).any fun code =>
      Text.isHalf code && !(0xDC80 ≤ code && code ≤ 0xDCFF)

def loadFiles (tree : FileTree) (invocation : Invocation) : Logged (List File) := do
  let sources ← tree.sources (invocation.values .input) (invocation.values .protoPath)
  let files ← Logged.ofExcept (Schema.load sources.files sources.toGenerate)
  Logged.debug ("loaded " ++ toString files.length ++ " files, " ++
    toString sources.toGenerate.length ++ " marked for generation")
  return files

/-- Writes an artifact below a directory. -/
def writeArtifact (settings : Settings) (dir : Path) (tree : FileTree) (artifact : Artifact) :
    Logged FileTree := do
  if settings.hasUnwritablePath then throw (.fault .loneSurrogate)
  let path := dir.join (Path.ofText artifact.name)
  match tree.write path artifact.content with
  | .error fault => throw (.fault fault)
  | .ok tree =>
    if settings.isUnwritable then throw (.fault .loneSurrogate)
    Logged.debug ("wrote " ++ path.text)
    return tree

/-- Generates clients below the output directory. -/
def gen (tree : FileTree) (invocation : Invocation) : Logged FileTree := do
  let settings ← Logged.ofExcept (settings tree invocation)
  let files ← loadFiles tree invocation
  Logged.lines (generateLog settings.options files)
  let artifacts ← Logged.ofExcept (generate settings.options files)
  let dir := Path.ofText ((invocation.values .output).getLast?.getD "")
  let tree ← artifacts.foldlM (writeArtifact settings dir) tree
  Logged.info ("Generated " ++ toString artifacts.length ++ " files in " ++ dir.text)
  return tree

/-- Reports on the generation units. -/
def info (tree : FileTree) (invocation : Invocation) : Logged String := do
  let settings ← Logged.ofExcept (settings tree invocation)
  let files ← loadFiles tree invocation
  Logged.lines (groupLog files)
  let units ← Logged.ofExcept (GenerationUnit.group files)
  if (invocation.values .json).isEmpty then return reportText units
  else Logged.ofExcept (reportJson settings.options settings.halves units)

/-- Answers a request of the schema compiler. -/
def plugin (input : Wire.Bytes) : Except Fault Wire.Bytes := do
  let request ← Wire.readRequest input
  return Wire.responseData (← request.response)

/-! ## Outcomes -/

/-- The outcome of a logged run. Reported errors come after the log lines. -/
def outcome {α : Type} (verbose : Bool) (tree : FileTree) (run : Logged α)
    (success : α → String → Outcome) : Except Fault Outcome :=
  let (result, lines) := run.run.run []
  let log := LogLine.shown verbose lines
  match result with
  | .ok value => .ok (success value log)
  | .error (.reported error) =>
    .ok { exitCode := 1, messages := log ++ errorText error.message, tree }
  | .error (.fault fault) => .error fault

def runInvocation (tree : FileTree) (input : Wire.Bytes) (invocation : Invocation) :
    Except Fault Outcome :=
  match invocation.command with
  | .gen => outcome invocation.verbose tree (gen tree invocation) fun tree messages =>
      { messages, tree }
  | .info => outcome invocation.verbose tree (info tree invocation) fun report messages =>
      { output := report.toUTF8.toList, messages, tree }
  | .plugin => do return { output := ← plugin input, tree }

/-- Runs the program. -/
def run (arguments : List String) (tree : FileTree) (input : Wire.Bytes) : Except Fault Outcome :=
  match Invocation.ofArguments tree arguments with
  | .error ⟨_, .fault fault⟩ => .error fault
  | .error ⟨command, .helpAsked⟩ =>
    .ok { output := (UsageError.usage command).toUTF8.toList, tree }
  | .error error => .ok { exitCode := 2, messages := error.text, tree }
  | .ok invocation => runInvocation tree input invocation

end RpcClients.Command
