/-! # The API model

What a client is generated from: files with services, whose methods take one message and return one. -/

namespace RpcClients

/-- A Go identifier and the import path of the package that declares it. -/
structure Ident where
  name : String
  importPath : String
deriving DecidableEq, Repr

def Ident.text (ident : Ident) : String := "\"" ++ ident.importPath ++ "\"." ++ ident.name

inductive Scalar where
  | double | float | int64 | uint64 | int32 | fixed64 | fixed32 | bool | string | bytes | uint32
  | sfixed32 | sfixed64 | sint32 | sint64
deriving DecidableEq, Repr

namespace Scalar

def all : List Scalar :=
  [double, float, int64, uint64, int32, fixed64, fixed32, bool, string, bytes, uint32, sfixed32,
   sfixed64, sint32, sint64]

/-- The name of a scalar in a schema. -/
def name : Scalar → String
  | double => "double"
  | float => "float"
  | int64 => "int64"
  | uint64 => "uint64"
  | int32 => "int32"
  | fixed64 => "fixed64"
  | fixed32 => "fixed32"
  | bool => "bool"
  | string => "string"
  | bytes => "bytes"
  | uint32 => "uint32"
  | sfixed32 => "sfixed32"
  | sfixed64 => "sfixed64"
  | sint32 => "sint32"
  | sint64 => "sint64"

def ofName? (name : String) : Option Scalar := all.find? (·.name = name)

def goType : Scalar → String
  | double => "float64"
  | float => "float32"
  | int64 | sint64 | sfixed64 => "int64"
  | uint64 | fixed64 => "uint64"
  | int32 | sint32 | sfixed32 => "int32"
  | uint32 | fixed32 => "uint32"
  | bool => "bool"
  | string => "string"
  | bytes => "[]byte"

end Scalar

inductive FieldKind where
  | scalar (type : Scalar)
  | enum
  | message
deriving DecidableEq, Repr

namespace FieldKind

def name : FieldKind → String
  | scalar type => type.name
  | enum => "enum"
  | message => "message"

def ofName? (name : String) : Option FieldKind :=
  if name = "enum" then some enum
  else if name = "message" then some message
  else (Scalar.ofName? name).map scalar

def isScalar : FieldKind → Bool
  | scalar _ => true
  | _ => false

end FieldKind

/-- The type of a field, of a map key or of a map value. Enums and messages have an identifier. -/
structure FieldType where
  kind : FieldKind
  ident : Option Ident := none
deriving DecidableEq, Repr

/-- A message field. The type of a map is its entry message, with key and value beside it. `oneof` is
the name of the oneof around the field. -/
structure Field where
  name : String
  goName : String
  type : FieldType
  repeated : Bool := false
  optional : Bool := false
  mapKey : Option FieldType := none
  mapValue : Option FieldType := none
  oneof : Option String := none
deriving DecidableEq, Repr

def Field.isMap (field : Field) : Bool := field.mapKey.isSome && field.mapValue.isSome

structure Message where
  fullName : String
  ident : Ident
  fields : List Field := []
deriving DecidableEq, Repr

structure Method where
  name : String
  goName : String
  fullName : String
  input : Message
  output : Message
  clientStreaming : Bool := false
  serverStreaming : Bool := false
  comments : Option String := none
deriving DecidableEq, Repr

structure Service where
  name : String
  goName : String
  fullName : String
  methods : List Method := []
  comments : Option String := none
deriving DecidableEq, Repr

/-- A schema file. Files that only declare types for others are not marked for generation. -/
structure File where
  name : String
  package : String
  importPath : String
  packageName : String
  services : List Service := []
  generate : Bool := true
deriving DecidableEq, Repr

/-! ## Shapes of methods -/

inductive Shape where
  | unary | clientStreaming | serverStreaming | bidirectional
deriving DecidableEq, Repr

def Shape.name : Shape → String
  | unary => "unary"
  | clientStreaming => "client-streaming"
  | serverStreaming => "server-streaming"
  | bidirectional => "bidi-streaming"

def Method.shape (method : Method) : Shape :=
  match method.clientStreaming, method.serverStreaming with
  | true, true => .bidirectional
  | true, false => .clientStreaming
  | false, true => .serverStreaming
  | false, false => .unary

end RpcClients
