import RpcClients.GenerationUnit
import RpcClients.Options
import RpcClients.Text.SlashPath

/-! # Where generated packages and files live -/

namespace RpcClients

/-- The package that a unit's services are declared in as interfaces. -/
def apiSuffix : String := "api"

/-- The package that declares the provider interface. -/
def clientSuffix : String := "apiclient"

namespace Options

def requirePluginName (options : Options) : Except Failure String :=
  match options.pluginName with
  | none => .error (.fault .noPluginName)
  | some name => .ok name

/-- The unit's import path relative to the import path base. -/
def relativePath (options : Options) (unit : GenerationUnit) : Except Failure String :=
  match options.importPathBase with
  | none => .error (.option .noImportPathBase)
  | some base =>
    if unit.importPath = base then .ok ""
    else if (base.toList ++ ['/']).isPrefixOf unit.importPath.toList then
      .ok (String.ofList (unit.importPath.toList.drop (base.length + 1)))
    else .error (.resolution (.outsideBase unit.importPath base))

/-- The import path of the package that a unit has under a suffix. -/
def importPath (options : Options) (unit : GenerationUnit) (suffix : String) :
    Except Failure String := do
  let package := unit.packageName ++ suffix
  match options.namedPackages with
  | none => .error (.fault .notAnObject)
  | some named =>
    match named.lookup suffix with
    | none => return Text.joinPath unit.importPath package
    | some base => return Text.joinPath (Text.joinPath base (← options.relativePath unit)) package

/-- The package that is generated for a unit. -/
def packageName (options : Options) (unit : GenerationUnit) : Except Failure String := do
  return unit.packageName ++ (← options.requirePluginName)

/-- The directory of the files generated for a unit. -/
def outputDir (options : Options) (unit : GenerationUnit) : Except Failure String := do
  let package ← options.packageName unit
  if options.importPathBase.isNone then return Text.joinPath unit.importPath package
  else return Text.joinPath (← options.relativePath unit) package

/-- The file that a unit has one of. -/
def unitFileName (options : Options) (unit : GenerationUnit) : Except Failure String := do
  let package ← options.packageName unit
  return Text.joinPath (← options.outputDir unit) (package ++ ".go")

/-- The file generated for a schema file of a unit. -/
def sourceFileName (options : Options) (unit : GenerationUnit) (source : String) :
    Except Failure String := do
  let stem := String.ofList (Text.withoutSuffix ".proto".toList (Text.baseName source).toList)
  let dir ← options.outputDir unit
  return Text.joinPath dir (stem ++ "." ++ (← options.requirePluginName) ++ ".go")

/-- The texts of options that are printed into the files of every unit. -/
def printedTexts (options : Options) : List String :=
  let bases := [apiSuffix, clientSuffix].filterMap fun suffix =>
    (options.namedPackages.getD []).lookup suffix
  options.pluginName.toList ++ options.contextPath.toList ++ options.httpClientPath.toList ++
    options.twirpClientPath.toList ++ options.zapPath.toList ++ bases

end Options

end RpcClients
