import RpcClients.Client.Provider
import RpcClients.Layout

/-! # Generation

A unit gives a file with its provider and, for each of its schema files that has services, a file with
their wrappers. Either all files of a run are returned or none. -/

namespace RpcClients

namespace GenerationUnit

/-- Adds the wrapper types of services to the declarations of a package. -/
def declare (names : List String) : List Service → Except Failure (List String)
  | [] => .ok names
  | service :: rest =>
    let type := wrapperName service.goName
    if type ∈ names then .error (.resolution (.typeDeclared service.fullName type))
    else declare (names ++ [type]) rest

/-- What all files of a unit share. -/
structure Target where
  importPath : String
  packageName : String
  pluginName : String
  declarations : List String
deriving DecidableEq, Repr

def target (options : Options) (unit : GenerationUnit) : Except Failure Target := do
  let pluginName ← options.requirePluginName
  let importPath ← options.importPath unit pluginName
  let declarations ← declare [providerFunction, providerType] unit.services
  return { importPath, pluginName, declarations, packageName := unit.packageName ++ pluginName }

/-- The file that results from resolving names in a fresh import table and printing lines. -/
def Target.file (target : Target) (name : String) (kind : ArtifactKind) (source : Option String)
    (lines : Resolving (List String)) : Except Failure SourceFile :=
  let table : Imports := ⟨target.importPath, target.packageName, target.declarations, []⟩
  match lines.run.run table with
  | (.error failure, _) => .error failure
  | (.ok lines, imports) =>
    .ok { name, kind, source, imports, pluginName := target.pluginName
          lines := lines.flatMap (Text.split '\n') }

def provider (options : Options) (unit : GenerationUnit) : Resolving Provider := do
  let httpClient ← Resolving.member options.httpClientPath "Client"
  let newClientOptions ← Resolving.member options.twirpClientPath "NewClientOptions"
  let logger ← Resolving.member options.zapPath "Logger"
  let clientPath ← Resolving.ofExcept (options.importPath unit clientSuffix)
  let interface ← Resolving.qualified ⟨"Provider", clientPath⟩
  let context ← Resolving.member options.contextPath "Context"
  let apiPath ← Resolving.ofExcept (options.importPath unit apiSuffix)
  let methods ← unit.services.mapM (·.provided apiPath unit.importPath)
  return { httpClient, newClientOptions, logger, interface, context, methods }

def providerFile (options : Options) (unit : GenerationUnit) (target : Target) :
    Except Failure SourceFile := do
  let name ← options.unitFileName unit
  target.file name .unit none (do return (← unit.provider options).lines)

/-- The wrappers of the services of one schema file. -/
def wrappers (options : Options) (unit : GenerationUnit) (services : List Service)
    (unreadable : List String) : Resolving (List Wrapper) := do
  let context ← Resolving.member options.contextPath "Context"
  let logger ← Resolving.member options.zapPath "Logger"
  services.mapM (·.wrapped unit.importPath context logger unreadable)

def wrapperFile (options : Options) (unit : GenerationUnit) (target : Target)
    (unreadable : List String) (file : File) : Except Failure SourceFile := do
  requireReadable unreadable .unreadableText file.name
  let name ← options.sourceFileName unit file.name
  target.file name .file (some file.name) (do
    return (← unit.wrappers options file.services unreadable).flatMap Wrapper.lines)

/-- The files of a unit, the provider's first. -/
def sourceFiles (options : Options) (unit : GenerationUnit) (unreadable : List String) :
    Except Failure (List SourceFile) := do
  let target ← unit.target options
  let first ← unit.providerFile options target
  let others ← (unit.files.filter (!·.services.isEmpty)).mapM
    (unit.wrapperFile options target unreadable)
  return first :: others

def artifacts (options : Options) (unit : GenerationUnit) (unreadable : List String) :
    Except Failure (List Artifact) := do
  return (← unit.sourceFiles options unreadable).map SourceFile.artifact

end GenerationUnit

/-- The first name that occurs twice. -/
def firstRepeated? (seen : List String) : List String → Option String
  | [] => none
  | name :: rest => if name ∈ seen then some name else firstRepeated? (name :: seen) rest

/-- The artifacts of units, whose failures name the unit. -/
def unitArtifacts (options : Options) (unreadable : List String) (unit : GenerationUnit) :
    Except Failure (List Artifact) :=
  match unit.artifacts options unreadable with
  | .error failure => .error (failure.inUnit unit.importPath)
  | .ok artifacts => .ok artifacts

/-- All artifacts of a run. Names and comments of files that are no UTF-8 are given in the form in which
messages show them. -/
def generate (options : Options) (files : List File) (unreadable : List String := []) :
    Except Failure (List Artifact) := do
  let units ← GenerationUnit.group files
  let artifacts := (← units.mapM (unitArtifacts options unreadable)).flatten
  match firstRepeated? [] (artifacts.map (·.name)) with
  | some name => .error (.grouping (.repeatedFile name))
  | none => return artifacts

end RpcClients
