import RpcClients.Model
import RpcClients.Text.Quoted

/-! # Failures

A `GenerationError` is reported to the user with a message. A `Fault` is an input outside of what is
reported on; it ends the run. -/

namespace RpcClients

/-- Why a field cannot become a parameter. -/
inductive FieldProblem where
  | insideOneof (oneof : String)
  | noTypeReference (kind : FieldKind)
deriving DecidableEq, Repr

inductive GroupingProblem where
  /-- A file names another Go package than the files before it did for this import path. -/
  | packageName (file package importPath known : String)
  | repeatedFile (name : String)
deriving DecidableEq, Repr

inductive ResolutionProblem where
  | declarationTaken (name : String)
  | emptyImportPath
  | selfImport (importPath : String)
  | unnamedSymbol (importPath : String)
  | typeDeclared (service type : String)
  | outsideBase (importPath base : String)
deriving DecidableEq, Repr

inductive DescriptorProblem where
  | syntaxError (file : String) (line column : Nat)
  /-- The name of the language version, as code points. -/
  | unsupportedSyntax (file : String) (name : List Nat)
  | requiredField (name : String)
  | mapKey (field key : String)
  | missingImport (name : String)
  | notInRequest (file : String)
  | declaredTwice (name first second : String)
  | noImportPath (file : String)
  | unknownType (context type : String)
  | notAMessage (name : String)
  | groupField (context : String)
  | untypedField (context : String)
deriving DecidableEq, Repr

inductive OptionProblem where
  | malformed (parameter : String)
  | malformedNamedPackage (value : String)
  | unknown (name : String)
  | noImportPathBase
deriving DecidableEq, Repr

inductive Cause where
  | shape (method : String) (shape : Shape)
  | field (message field : String) (problem : FieldProblem)
  | grouping (problem : GroupingProblem)
  | resolution (problem : ResolutionProblem)
  | descriptor (problem : DescriptorProblem)
  | option (problem : OptionProblem)
deriving DecidableEq, Repr

/-- A cause, with the import path of the unit in which it arose if it arose in one. -/
structure GenerationError where
  cause : Cause
  unit : Option String := none
deriving DecidableEq, Repr

inductive Fault where
  /-- A text or number in a schema that cannot be decoded. -/
  | badLiteral
  /-- A text with half of a surrogate pair. -/
  | loneSurrogate
  | numberOutOfRange
  /-- More than one `syntax` or `package` statement. -/
  | repeatedStatement
  /-- A map entry without key or value. -/
  | incompleteMapEntry
  | oneofIndexOutOfRange
  | noPluginName
  /-- Parameters are added to named packages that are null. -/
  | namedPackagesNull
  /-- A look-up in something that is no object. -/
  | notAnObject
  | notJson
  | integerTooLong
  | nestedTooDeep
  /-- A descriptor that holds more levels than can be read. -/
  | tooManyLevels
  | malformedRequest
  /-- A text that is no UTF-8 is cut or compared. -/
  | unreadableText
  /-- A name that is no UTF-8 is put into Go form. -/
  | unreadableName
  | fileNotFound
  | fileExists
  | isADirectory
  | notADirectory
  /-- A path, or a name in it, that is longer than a file system takes. -/
  | nameTooLong
  /-- A path with the character NUL. -/
  | nulInPath
  /-- A file whose bytes are no UTF-8 is read. -/
  | notUtf8
deriving DecidableEq, Repr

inductive Failure where
  | reported (error : GenerationError)
  | fault (fault : Fault)
deriving DecidableEq, Repr

/-! ## Messages -/

def FieldProblem.message : FieldProblem → String
  | insideOneof oneof => "oneof " ++ oneof ++ " fields are not supported"
  | noTypeReference kind => kind.name ++ " type has no type reference"

def GroupingProblem.message : GroupingProblem → String
  | packageName file package importPath known =>
    file ++ " declares Go package " ++ package ++ " but " ++ importPath ++
      " is already declared as package " ++ known
  | repeatedFile name => "more than one generated file is named " ++ name

def ResolutionProblem.message : ResolutionProblem → String
  | declarationTaken name => "declaration " ++ name ++ " collides with an import alias"
  | emptyImportPath => "cannot import a package with an empty import path"
  | selfImport importPath => importPath ++ " cannot import itself"
  | unnamedSymbol importPath => "cannot reference an unnamed symbol from " ++ importPath
  | typeDeclared service type =>
    "service " ++ service ++ " generates type " ++ type ++ ", which is already declared"
  | outsideBase importPath base =>
    importPath ++ " is not contained in go_import_path_base " ++ base

def DescriptorProblem.message : DescriptorProblem → String
  | syntaxError file line column =>
    file ++ ":" ++ toString line ++ ":" ++ toString column ++ ": syntax error"
  | unsupportedSyntax file name => file ++ ": unsupported syntax " ++ Text.quotedCodes name
  | requiredField name => "field " ++ name ++ ": required fields are not allowed in proto3"
  | mapKey field key => "field " ++ field ++ ": invalid map key type " ++ key
  | missingImport name => "import " ++ name ++ " not found"
  | notInRequest file => "file to generate " ++ file ++ " is not part of the request"
  | declaredTwice name first second => name ++ " is declared in both " ++ first ++ " and " ++ second
  | noImportPath file =>
    "unable to determine Go import path for " ++ file ++ ", set option go_package"
  | unknownType context type => context ++ ": unknown type " ++ type
  | notAMessage name => name ++ " is an enum, not a message"
  | groupField context => context ++ ": groups are not supported"
  | untypedField context => context ++ ": field has no type"

def OptionProblem.message : OptionProblem → String
  | malformed parameter => "invalid parameter " ++ Text.quoted parameter ++ ", expected key=value"
  | malformedNamedPackage value =>
    "invalid named_go_package " ++ Text.quoted value ++ ", expected NAME=IMPORT_PATH_BASE"
  | unknown name => "unknown parameter " ++ Text.quoted name
  | noImportPathBase => "named_go_package requires go_import_path_base to be set"

def Cause.message : Cause → String
  | .shape method actual =>
    "method " ++ method ++ " is " ++ actual.name ++ ", only unary methods are supported"
  | .field message name problem => "field " ++ message ++ "." ++ name ++ ": " ++ problem.message
  | grouping problem => problem.message
  | resolution problem => problem.message
  | descriptor problem => problem.message
  | option problem => problem.message

def Fault.message : Fault → String
  | badLiteral => "a literal cannot be decoded"
  | loneSurrogate => "a text holds half of a surrogate pair"
  | numberOutOfRange => "a number is out of range"
  | repeatedStatement => "more than one syntax or package statement"
  | incompleteMapEntry => "a map entry has no key or no value"
  | oneofIndexOutOfRange => "the index of a oneof is out of range"
  | noPluginName => "the plugin name is null"
  | namedPackagesNull => "the named packages are null"
  | notAnObject => "a JSON object is expected"
  | notJson => "the configuration is not JSON"
  | integerTooLong => "an integer has too many digits"
  | nestedTooDeep => "values are nested too deep"
  | tooManyLevels => "a descriptor holds too many levels"
  | malformedRequest => "the request cannot be read"
  | unreadableText => "a text is not UTF-8"
  | unreadableName => "a name is not UTF-8"
  | fileNotFound => "file not found"
  | fileExists => "file exists"
  | isADirectory => "is a directory"
  | notADirectory => "not a directory"
  | nameTooLong => "file name too long"
  | nulInPath => "a path holds the character NUL"
  | notUtf8 => "a file is no UTF-8 text"

/-- The message, after the unit's import path if there is one that is not empty. -/
def GenerationError.message (error : GenerationError) : String :=
  match error.unit with
  | none | some "" => error.cause.message
  | some unit => unit ++ ": " ++ error.cause.message

/-- The failure names the unit, unless it names one already. -/
def Failure.inUnit (unit : String) : Failure → Failure
  | .reported ⟨cause, none⟩ => .reported ⟨cause, some unit⟩
  | other => other

namespace Failure

def ofCause (cause : Cause) : Failure := .reported { cause }

def resolution (problem : ResolutionProblem) : Failure := ofCause (.resolution problem)

def descriptor (problem : DescriptorProblem) : Failure := ofCause (.descriptor problem)

def option (problem : OptionProblem) : Failure := ofCause (.option problem)

def grouping (problem : GroupingProblem) : Failure := ofCause (.grouping problem)

end Failure

/-- A text can be worked on unless it is one of those of a request that are no UTF-8. They are listed
in the form in which messages show them. -/
def requireReadable (unreadable : List String) (fault : Fault) (text : String) : Except Failure Unit :=
  if unreadable.contains text then .error (.fault fault) else .ok ()

end RpcClients
