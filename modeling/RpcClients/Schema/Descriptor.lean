import RpcClients.Model

/-! # Descriptors

Schema files in the form in which they are handed from tool to tool. Texts and lists that are not set
are empty. -/

namespace RpcClients.Schema

inductive Label where
  | optional | required | repeated
deriving DecidableEq, Repr

/-- The type that a field says it has. -/
inductive TypeCode where
  | scalar (type : Scalar)
  | group
  | message
  | enum
deriving DecidableEq, Repr

namespace TypeCode

/-- All types with their numbers. -/
def numbers : List (Nat × TypeCode) :=
  [(1, scalar .double), (2, scalar .float), (3, scalar .int64), (4, scalar .uint64),
   (5, scalar .int32), (6, scalar .fixed64), (7, scalar .fixed32), (8, scalar .bool),
   (9, scalar .string), (10, group), (11, message), (12, scalar .bytes), (13, scalar .uint32),
   (14, enum), (15, scalar .sfixed32), (16, scalar .sfixed64), (17, scalar .sint32),
   (18, scalar .sint64)]

def ofNumber? (number : Nat) : Option TypeCode := numbers.lookup number

def number (type : TypeCode) : Nat := ((numbers.find? (·.2 = type)).map (·.1)).getD 0

end TypeCode

def Label.number : Label → Nat
  | optional => 1
  | required => 2
  | repeated => 3

def Label.ofNumber? : Nat → Option Label
  | 1 => some optional
  | 2 => some required
  | 3 => some repeated
  | _ => none

structure FieldDescriptor where
  name : String := ""
  number : Int := 0
  label : Label := .optional
  type : Option TypeCode := none
  typeName : String := ""
  oneofIndex : Option Int := none
  jsonName : String := ""
  proto3Optional : Bool := false
deriving DecidableEq, Repr

structure EnumDescriptor where
  name : String := ""
  values : List (String × Int) := []
deriving DecidableEq, Repr

structure MessageDescriptor where
  name : String := ""
  fields : List FieldDescriptor := []
  nested : List MessageDescriptor := []
  enums : List EnumDescriptor := []
  oneofs : List String := []
  /-- The message is the entry of a map. -/
  mapEntry : Bool := false
deriving Repr

mutual

/-- Equality of messages, with the messages inside them. -/
def MessageDescriptor.decEq : (one other : MessageDescriptor) → Decidable (one = other)
  | ⟨name, fields, nested, enums, oneofs, mapEntry⟩, ⟨name', fields', nested', enums', oneofs', mapEntry'⟩ =>
    have := MessageDescriptor.decEqAll nested nested'
    decidable_of_iff (name = name' ∧ fields = fields' ∧ nested = nested' ∧ enums = enums' ∧ oneofs = oneofs' ∧
      mapEntry = mapEntry') (by simp)

def MessageDescriptor.decEqAll : (one other : List MessageDescriptor) → Decidable (one = other)
  | [], [] => isTrue rfl
  | [], _ :: _ => isFalse nofun
  | _ :: _, [] => isFalse nofun
  | message :: rest, message' :: rest' =>
    have := MessageDescriptor.decEq message message'
    have := MessageDescriptor.decEqAll rest rest'
    decidable_of_iff (message = message' ∧ rest = rest') (by simp)

end

instance : DecidableEq MessageDescriptor := MessageDescriptor.decEq

structure MethodDescriptor where
  name : String := ""
  inputType : String := ""
  outputType : String := ""
  clientStreaming : Bool := false
  serverStreaming : Bool := false
deriving DecidableEq, Repr

structure ServiceDescriptor where
  name : String := ""
  methods : List MethodDescriptor := []
deriving DecidableEq, Repr

/-- The comments before the element with the given path of field numbers and indexes. -/
structure Location where
  path : List Int := []
  span : List Int := []
  leadingComments : String := ""
deriving DecidableEq, Repr

/-- Options for the code generators of a file. Only the Go package matters here. -/
structure FileOptions where
  goPackage : Option String := none
  javaPackage : Option String := none
  javaOuterClassname : Option String := none
  javaMultipleFiles : Option Bool := none
  ccEnableArenas : Option Bool := none
  objcClassPrefix : Option String := none
  csharpNamespace : Option String := none
deriving DecidableEq, Repr

structure FileDescriptor where
  name : String := ""
  package : String := ""
  dependencies : List String := []
  publicDependencies : List Int := []
  weakDependencies : List Int := []
  messages : List MessageDescriptor := []
  enums : List EnumDescriptor := []
  services : List ServiceDescriptor := []
  options : FileOptions := {}
  locations : List Location := []
  /-- The version of the schema language. -/
  version : String := ""
deriving DecidableEq, Repr

end RpcClients.Schema
