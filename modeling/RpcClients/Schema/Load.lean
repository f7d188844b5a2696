import RpcClients.Schema.Symbol

/-! # The API model of descriptors

All files take part in resolving types; the ones to generate are loaded with their services. -/

namespace RpcClients.Schema

/-- What loading remembers: the Go package of each file name that was asked for. -/
abbrev Loading := StateT (List (String × GoPackage)) (Except Failure)

/-- Loading that also remembers the messages that were loaded, by their full names. -/
abbrev Remembering := StateT (List (String × Message)) Loading

namespace Loading

def fail {α : Type} (problem : DescriptorProblem) : Loading α := throw (.descriptor problem)

/-- Fails on a text that is no UTF-8. -/
def require (table : SymbolTable) (fault : Fault) (text : String) : Loading Unit :=
  match requireReadable table.unreadable fault text with
  | .ok () => return ()
  | .error failure => throw failure

/-- The Go package that an option gives. -/
def packageOf (table : SymbolTable) (option : String) : Loading GoPackage := do
  require table .unreadableText option
  return GoPackage.ofOption option

/-- The Go package of a file, from its option. -/
def goPackage (table : SymbolTable) (file : FileDescriptor) : Loading GoPackage := do
  match (← get).lookup file.name with
  | some package => return package
  | none =>
    match file.options.goPackage.getD "" with
    | "" => fail (.noImportPath file.name)
    | option =>
      let package ← packageOf table option
      modify ((file.name, package) :: ·)
      return package

def ident (table : SymbolTable) (symbol : Symbol) : Loading Ident := do
  return ⟨symbol.goName, (← goPackage table symbol.file).importPath⟩

def goName (table : SymbolTable) (name : String) : Loading String := do
  require table .unreadableName name
  return Naming.camelCase name

/-- The symbol that a type name means. The scope does not matter to a full name. -/
def resolve (table : SymbolTable) (scope typeName context : String) : Loading Symbol := do
  require table .unreadableText typeName
  if typeName.toList.head? ≠ some '.' then require table .unreadableText scope
  match resolve? table.symbols scope typeName with
  | some symbol => return symbol
  | none => fail (.unknownType context typeName)

/-! ## Fields -/

/-- The type of a field and, unless it is a scalar, its symbol. -/
def fieldType (table : SymbolTable) (owner : Symbol) (field : FieldDescriptor) :
    Loading (FieldType × Option Symbol) := do
  let context := owner.fullName ++ "." ++ field.name
  if field.type = some .group then fail (.groupField context)
  else if field.typeName = "" then
    match field.type with
    | some (.scalar scalar) => return ({ kind := .scalar scalar }, none)
    | _ => fail (.untypedField context)
  else
    let symbol ← resolve table owner.fullName field.typeName context
    return ({ kind := symbol.kind, ident := some (← ident table symbol) }, some symbol)

/-- The field of a map entry with the given name, the last one if there are more. -/
def entryField (entry : MessageDescriptor) (name : String) : Loading FieldDescriptor :=
  match entry.fields.reverse.find? (·.name = name) with
  | some field => return field
  | none => throw (.fault .incompleteMapEntry)

/-- The map entry that a repeated field is of. -/
def mapEntry? (field : FieldDescriptor) (symbol : Option Symbol) : Option (Symbol × MessageDescriptor) :=
  match symbol with
  | some symbol =>
    match symbol.message with
    | some message => if field.label = .repeated && message.mapEntry then some (symbol, message) else none
    | none => none
  | none => none

/-- The types of key and value, if the field is a map. -/
def mapTypes (table : SymbolTable) (field : FieldDescriptor) (symbol : Option Symbol) :
    Loading (Option (FieldType × FieldType)) := do
  match mapEntry? field symbol with
  | none => return none
  | some (symbol, entry) =>
    let (key, _) ← fieldType table symbol (← entryField entry "key")
    let (value, _) ← fieldType table symbol (← entryField entry "value")
    return some (key, value)

/-- The oneof with an index. A negative index counts from the end. -/
def oneofAt? (oneofs : List String) (index : Int) : Option String :=
  let index := if index < 0 then index + oneofs.length else index
  if index < 0 then none else oneofs[index.toNat]?

/-- The oneof around a field. A field that is optional by its label has none of its own. -/
def oneof (message : MessageDescriptor) (field : FieldDescriptor) : Loading (Option String) :=
  match field.oneofIndex with
  | none => return none
  | some index =>
    if field.proto3Optional then return none
    else
      match oneofAt? message.oneofs index with
      | some name => return some name
      | none => throw (.fault .oneofIndexOutOfRange)

/-- Whether single fields of a file are optional without saying so. -/
def optionalByDefault (file : FileDescriptor) : Bool := file.version = "" || file.version = "proto2"

def field (table : SymbolTable) (owner : Symbol) (message : MessageDescriptor)
    (field : FieldDescriptor) : Loading Field := do
  let (type, symbol) ← fieldType table owner field
  let map ← mapTypes table field symbol
  let oneof ← oneof message field
  let repeated := field.label = .repeated && map.isNone
  let single := !repeated && map.isNone
  return {
    type, repeated, oneof
    name := field.name
    goName := ← goName table field.name
    optional := oneof.isNone && (field.proto3Optional || (optionalByDefault owner.file && single))
    mapKey := map.map (·.1)
    mapValue := map.map (·.2) }

/-! ## Messages, services and files -/

def message (table : SymbolTable) (symbol : Symbol) : Loading Message := do
  match symbol.message with
  | none => fail (.notAMessage symbol.fullName)
  | some message =>
    let fields ← message.fields.mapM (field table symbol message)
    return { fullName := symbol.fullName, ident := ← ident table symbol, fields }

/-- The message of a symbol, which is loaded only once. -/
def remembered (table : SymbolTable) (symbol : Symbol) : Remembering Message := do
  match (← get).lookup symbol.fullName with
  | some known => return known
  | none =>
    let loaded ← message table symbol
    modify ((symbol.fullName, loaded) :: ·)
    return loaded

/-- The comments at a path, the last ones if there are more. -/
def commentsAt? (file : FileDescriptor) (path : List Int) : Option String :=
  (file.locations.reverse.find? fun location =>
    location.path = path && location.leadingComments ≠ "").map (·.leadingComments)

section

-- messages are loaded by `messageOf`, with or without a memory of them
variable {m : Type → Type} [Monad m] [MonadLiftT Loading m] (table : SymbolTable) (messageOf : Symbol → m Message)

def method (file : FileDescriptor) (service : String) (serviceIndex : Nat) (method : MethodDescriptor × Nat) :
    m Method := do
  let (method, index) := method
  let context := service ++ "." ++ method.name
  let goName ← goName table method.name
  let input ← messageOf (← resolve table file.package method.inputType context)
  let output ← messageOf (← resolve table file.package method.outputType context)
  return {
    input, output, goName
    name := method.name
    fullName := context
    clientStreaming := method.clientStreaming
    serverStreaming := method.serverStreaming
    comments := commentsAt? file [6, serviceIndex, 2, index] }

def service (file : FileDescriptor) (service : ServiceDescriptor × Nat) : m Service := do
  let (service, index) := service
  let fullName := inScope file.package service.name
  let methods ← service.methods.zipIdx.mapM (method table messageOf file fullName index)
  let goName ← goName table service.name
  return {
    fullName, methods, goName
    name := service.name
    comments := commentsAt? file [6, index] }

/-- The Go package of a file that is not generated. It need not have one. -/
def importedPackage (file : FileDescriptor) : Loading GoPackage :=
  match file.options.goPackage.getD "" with
  | "" => return ⟨"", ""⟩
  | option => packageOf table option

def file (toGenerate : List String) (file : FileDescriptor) : m File := do
  if file.name ∈ toGenerate then
    let package ← goPackage table file
    let services ← file.services.zipIdx.mapM (service table messageOf file)
    return {
      services
      name := file.name
      package := file.package
      importPath := package.importPath
      packageName := package.name
      generate := true }
  else
    let package ← importedPackage table file
    return {
      name := file.name
      package := file.package
      importPath := package.importPath
      packageName := package.name
      generate := false }

end

end Loading

/-- The files of a request in their order, those to generate marked. Texts of the request that are no
UTF-8 are given in the form in which messages show them. -/
def load (files : List FileDescriptor) (toGenerate : List String) (unreadable : List String := []) :
    Except Failure (List File) := do
  match toGenerate.find? fun name => !files.any (·.name = name) with
  | some name => .error (.descriptor (.notInRequest name))
  | none =>
    let table ← SymbolTable.ofFiles unreadable files
    let ((loaded, _), _) ← ((files.mapM (Loading.file table (Loading.remembered table) toGenerate)).run []).run []
    return loaded

end RpcClients.Schema
