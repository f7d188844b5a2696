import RpcClients.Naming
import RpcClients.Schema.Descriptor

/-! # Well-known schema files

The files of the common types, which can be imported without being in any directory. -/

namespace RpcClients.Schema.WellKnown

/-- The options of a well-known file with the given Go package and Java class. -/
def options (package className : String) (arenas : Option Bool := some true) : FileOptions where
  goPackage := "google.golang.org/protobuf/types/known/" ++ package
  javaPackage := "com.google.protobuf"
  javaOuterClassname := className
  javaMultipleFiles := true
  ccEnableArenas := arenas
  objcClassPrefix := "GPB"
  csharpNamespace := "Google.Protobuf.WellKnownTypes"

/-- A well-known file. -/
def file (stem : String) (options : FileOptions) (messages : List MessageDescriptor)
    (enums : List EnumDescriptor := []) : FileDescriptor where
  name := "google/protobuf/" ++ stem ++ ".proto"
  package := "google.protobuf"
  messages := messages
  enums := enums
  options := options
  version := "proto3"

def scalar (name : String) (number : Int) (type : Scalar) (label : Label := .optional) :
    FieldDescriptor where
  name := name
  number := number
  label := label
  type := some (.scalar type)
  jsonName := Naming.jsonName name

/-- A field with a type of the same package. -/
def typed (name : String) (number : Int) (typeName : String) (type : TypeCode := .message)
    (label : Label := .optional) : FieldDescriptor where
  name := name
  number := number
  label := label
  type := some type
  typeName := ".google.protobuf." ++ typeName
  jsonName := Naming.jsonName name

def anyFile : FileDescriptor :=
  file "any" (options "anypb" "AnyProto" none)
    [{ name := "Any", fields := [scalar "type_url" 1 .string, scalar "value" 2 .bytes] }]

def durationFile : FileDescriptor :=
  file "duration" (options "durationpb" "DurationProto")
    [{ name := "Duration", fields := [scalar "seconds" 1 .int64, scalar "nanos" 2 .int32] }]

def emptyFile : FileDescriptor :=
  file "empty" (options "emptypb" "EmptyProto") [{ name := "Empty" }]

def fieldMaskFile : FileDescriptor :=
  file "field_mask" (options "fieldmaskpb" "FieldMaskProto")
    [{ name := "FieldMask", fields := [scalar "paths" 1 .string .repeated] }]

def structMessage : MessageDescriptor where
  name := "Struct"
  fields := [typed "fields" 1 "Struct.FieldsEntry" .message .repeated]
  nested :=
    [{ name := "FieldsEntry"
       fields := [scalar "key" 1 .string, typed "value" 2 "Value"]
       mapEntry := true }]

def valueMessage : MessageDescriptor where
  name := "Value"
  fields :=
    [typed "null_value" 1 "NullValue" .enum, scalar "number_value" 2 .double,
     scalar "string_value" 3 .string, scalar "bool_value" 4 .bool, typed "struct_value" 5 "Struct",
     typed "list_value" 6 "ListValue"].map fun field => { field with oneofIndex := some 0 }
  oneofs := ["kind"]

def structFile : FileDescriptor :=
  file "struct" (options "structpb" "StructProto")
    [structMessage, valueMessage,
     { name := "ListValue", fields := [typed "values" 1 "Value" .message .repeated] }]
    [{ name := "NullValue", values := [("NULL_VALUE", 0)] }]

def timestampFile : FileDescriptor :=
  file "timestamp" (options "timestamppb" "TimestampProto")
    [{ name := "Timestamp", fields := [scalar "seconds" 1 .int64, scalar "nanos" 2 .int32] }]

/-- A message around one scalar. -/
def wrapper (name : String) (type : Scalar) : MessageDescriptor where
  name := name
  fields := [scalar "value" 1 type]

def wrappersFile : FileDescriptor :=
  file "wrappers" (options "wrapperspb" "WrappersProto")
    [wrapper "DoubleValue" .double, wrapper "FloatValue" .float, wrapper "Int64Value" .int64,
     wrapper "UInt64Value" .uint64, wrapper "Int32Value" .int32, wrapper "UInt32Value" .uint32,
     wrapper "BoolValue" .bool, wrapper "StringValue" .string, wrapper "BytesValue" .bytes]

def files : List FileDescriptor :=
  [anyFile, durationFile, emptyFile, fieldMaskFile, structFile, timestampFile, wrappersFile]

/-- The well-known file with a name. -/
def file? (name : String) : Option FileDescriptor := files.find? (·.name = name)

end RpcClients.Schema.WellKnown
