import RpcClients.Failure
import RpcClients.Proto.Token

/-! # Declarations of schema files

What of a schema file has a meaning for clients. Texts are lists of code points. -/

namespace RpcClients.Proto

/-- A type name, absolute if a dot stands before it. -/
structure TypeRef where
  name : String
  absolute : Bool
deriving DecidableEq, Repr

def TypeRef.text (type : TypeRef) : String := if type.absolute then "." ++ type.name else type.name

inductive Label where
  | optional | required | repeated
deriving DecidableEq, Repr

structure FieldDecl where
  label : Option Label := none
  type : TypeRef
  name : String
  number : Nat
deriving DecidableEq, Repr

structure MapDecl where
  key : String
  value : TypeRef
  name : String
  number : Nat
deriving DecidableEq, Repr

structure EnumDecl where
  name : String
  values : List (String × Int)
deriving DecidableEq, Repr

inductive MessageItem where
  | field (field : FieldDecl)
  | map (map : MapDecl)
  | oneof (name : String) (fields : List FieldDecl)
  | message (name : String) (items : List MessageItem)
  | enum (enum : EnumDecl)
deriving Repr

/-- A method. Its line is the one with its name. -/
structure RpcDecl where
  name : String
  line : Nat
  input : TypeRef
  output : TypeRef
  clientStreaming : Bool
  serverStreaming : Bool
deriving DecidableEq, Repr

/-- A service. Its line is the one with its name. -/
structure ServiceDecl where
  name : String
  line : Nat
  rpcs : List RpcDecl
deriving DecidableEq, Repr

inductive ImportKind where
  | plain | publicly | weakly
deriving DecidableEq, Repr

inductive Statement where
  | version (name : List Nat)
  | package (name : String)
  | importFile (kind : ImportKind) (path : List Nat)
  | goPackage (value : List Nat)
  | message (name : String) (items : List MessageItem)
  | enum (enum : EnumDecl)
  | service (service : ServiceDecl)
deriving Repr

/-- A file as read: its statements, its tokens and comments in order, and the first fault that does not
keep it from being read. -/
structure SourceTree where
  statements : List Statement
  tokens : List Token
  comments : List Comment
  fault : Option Fault
deriving Repr

end RpcClients.Proto
