import RpcClients.Failure
import RpcClients.Naming
import RpcClients.Proto.Comment
import RpcClients.Proto.Parser
import RpcClients.Schema.Level

/-! # Descriptors of schema files

The declarations of a file as its descriptor. Type names stay as they are written: they are resolved
later, with all files at hand. -/

namespace RpcClients.Proto

open Schema

def maxInt32 : Int := 2147483647

def minInt32 : Int := -2147483648

def requireInt32 (number : Int) : Except Failure Unit :=
  if minInt32 ≤ number ∧ number ≤ maxInt32 then .ok () else .error (.fault .numberOutOfRange)

/-! ## Fields -/

def Label.described : Label → Schema.Label
  | optional => .optional
  | required => .required
  | repeated => .repeated

/-- The type and the type name of a field: a scalar has no name, any other type has no code yet. -/
def TypeRef.described (type : TypeRef) : Option TypeCode × String :=
  match if type.absolute then none else Scalar.ofName? type.name with
  | some scalar => (some (.scalar scalar), "")
  | none => (none, type.text)

def FieldDecl.described (proto3 : Bool) (field : FieldDecl) : Except Failure FieldDescriptor := do
  requireInt32 field.number
  if field.label = some .required && proto3 then
    .error (.descriptor (.requiredField field.name))
  else
    let (type, typeName) := field.type.described
    return {
      type, typeName
      name := field.name
      number := field.number
      jsonName := Naming.jsonName field.name
      label := (field.label.map Label.described).getD .optional
      proto3Optional := field.label = some .optional && proto3 }

/-- The scalars that a map key may be. -/
def mapKey? (key : String) : Option Scalar :=
  (Scalar.ofName? key).filter fun scalar => !(scalar ∈ [.double, .float, .bytes])

/-- The message that holds an entry of a map. -/
def MapDecl.entry (proto3 : Bool) (map : MapDecl) : Except Failure MessageDescriptor := do
  match mapKey? map.key with
  | none => .error (.descriptor (.mapKey map.name map.key))
  | some _ =>
    let key ← FieldDecl.described proto3 { type := ⟨map.key, false⟩, name := "key", number := 1 }
    let value ← FieldDecl.described proto3 { type := map.value, name := "value", number := 2 }
    return { name := Naming.camelCase map.name ++ "Entry", fields := [key, value], mapEntry := true }

def MapDecl.described (map : MapDecl) (entry : String) : Except Failure FieldDescriptor := do
  requireInt32 map.number
  return {
    name := map.name
    number := map.number
    jsonName := Naming.jsonName map.name
    label := .repeated
    type := some .message
    typeName := entry }

/-! ## Messages, enums and services -/

def EnumDecl.described (enum : EnumDecl) : Except Failure EnumDescriptor := do
  enum.values.forM fun value => requireInt32 value.2
  return { name := enum.name, values := enum.values }

mutual

/-- Adds an item to a message. -/
def describeItem (proto3 : Bool) (message : MessageDescriptor) : MessageItem → Except Failure MessageDescriptor
  | .field field => do
    let field ← field.described proto3
    return { message with fields := message.fields ++ [field] }
  | .map map => do
    let entry ← map.entry proto3
    let field ← map.described entry.name
    return { message with nested := message.nested ++ [entry], fields := message.fields ++ [field] }
  | .oneof name fields => do
    let fields ← fields.mapM (FieldDecl.described proto3)
    let fields := fields.map fun field => { field with oneofIndex := some message.oneofs.length }
    return { message with oneofs := message.oneofs ++ [name], fields := message.fields ++ fields }
  | .message name items => do
    let nested ← describeItems proto3 { name } items
    nested.requireLevels
    return { message with nested := message.nested ++ [nested] }
  | .enum enum => do
    let enum ← enum.described
    return { message with enums := message.enums ++ [enum] }

/-- Adds items to a message, in order. -/
def describeItems (proto3 : Bool) (message : MessageDescriptor) :
    List MessageItem → Except Failure MessageDescriptor
  | [] => .ok message
  | item :: rest => do
    let message ← describeItem proto3 message item
    describeItems proto3 message rest

end

/-- The descriptor of a message of a file. -/
def describeMessage (proto3 : Bool) (name : String) (items : List MessageItem) :
    Except Failure MessageDescriptor := do
  let message ← describeItems proto3 { name } items
  message.requireLevels
  return message

def RpcDecl.described (rpc : RpcDecl) : MethodDescriptor where
  name := rpc.name
  inputType := rpc.input.text
  outputType := rpc.output.text
  clientStreaming := rpc.clientStreaming
  serverStreaming := rpc.serverStreaming

def ServiceDecl.described (service : ServiceDecl) : ServiceDescriptor :=
  ⟨service.name, service.rpcs.map RpcDecl.described⟩

/-! ## Comments -/

/-- The field number of the services of a file. -/
def serviceNumber : Int := 6

/-- The field number of the methods of a service. -/
def methodNumber : Int := 2

/-- The location of a declaration that has comments. -/
def location? (comments : List Comment) (path : List Int) (line : Nat) : Option Location :=
  (leadingComments? comments line).map fun text => ⟨path, [(line : Int) - 1, 0, 0], text⟩

def serviceLocations (comments : List Comment) (service : ServiceDecl × Nat) : List Location :=
  let path : List Int := [serviceNumber, service.2]
  (location? comments path service.1.line).toList ++
    service.1.rpcs.zipIdx.filterMap fun (rpc, index) =>
      location? comments (path ++ [methodNumber, index]) rpc.line

/-! ## Files -/

/-- The language of a file, if it is one that can be read. -/
def languageOf? (name : List Nat) : Option String :=
  (Text.ofCodes? name).filter fun text => text = "proto2" || text = "proto3"

/-- The value of a statement that may stand only once. -/
def atMostOne {α : Type} : List α → Except Failure (Option α)
  | [] => .ok none
  | [value] => .ok (some value)
  | _ => .error (.fault .repeatedStatement)

/-- A text that goes into a descriptor. -/
def encodable (codes : List Nat) : Except Failure String :=
  match Text.ofCodes? codes with
  | some text => .ok text
  | none => .error (.fault .loneSurrogate)

/-- The indexes of the imports of a kind. -/
def importIndexes (kind : ImportKind) (imports : List (ImportKind × List Nat)) : List Int :=
  imports.zipIdx.filterMap fun (file, index) => if file.1 = kind then some (index : Int) else none

namespace SourceTree

def versions (tree : SourceTree) : List (List Nat) :=
  tree.statements.filterMap fun | .version name => some name | _ => none

def packages (tree : SourceTree) : List String :=
  tree.statements.filterMap fun | .package name => some name | _ => none

def imports (tree : SourceTree) : List (ImportKind × List Nat) :=
  tree.statements.filterMap fun | .importFile kind path => some (kind, path) | _ => none

def goPackages (tree : SourceTree) : List (List Nat) :=
  tree.statements.filterMap fun | .goPackage value => some value | _ => none

def messages (tree : SourceTree) : List (String × List MessageItem) :=
  tree.statements.filterMap fun | .message name items => some (name, items) | _ => none

def enums (tree : SourceTree) : List EnumDecl :=
  tree.statements.filterMap fun | .enum enum => some enum | _ => none

def services (tree : SourceTree) : List ServiceDecl :=
  tree.statements.filterMap fun | .service service => some service | _ => none

/-- The language version of a file, `proto2` if it does not say. -/
def language (tree : SourceTree) (file : String) : Except Failure String := do
  match ← atMostOne tree.versions with
  | none => return "proto2"
  | some name =>
    match languageOf? name with
    | some language => return language
    | none => .error (.descriptor (.unsupportedSyntax file name))

/-- The descriptor of a file. -/
def described (tree : SourceTree) (file : String) : Except Failure FileDescriptor := do
  match tree.fault with
  | some fault => .error (.fault fault)
  | none => pure ()
  let version ← tree.language file
  let package ← atMostOne tree.packages
  let dependencies ← tree.imports.mapM fun (_, path) => encodable path
  let goPackages ← tree.goPackages.mapM encodable
  let proto3 := version = "proto3"
  let messages ← tree.messages.mapM fun (name, items) => describeMessage proto3 name items
  let enums ← tree.enums.mapM EnumDecl.described
  return {
    version, dependencies, messages, enums
    name := file
    package := package.getD ""
    publicDependencies := importIndexes .publicly tree.imports
    weakDependencies := importIndexes .weakly tree.imports
    options := { goPackage := goPackages.getLast? }
    services := tree.services.map ServiceDecl.described
    locations := tree.services.zipIdx.flatMap (serviceLocations tree.comments) }

end SourceTree

/-- The descriptor of the schema file with the given text and name. -/
def parse (text : String) (file : String := "input.proto") : Except Failure FileDescriptor :=
  match SourceTree.ofText text.toList with
  | .error position => .error (.descriptor (.syntaxError file position.line position.column))
  | .ok tree => tree.described file

end RpcClients.Proto
