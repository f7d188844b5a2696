import RpcClients.Source.Imports

/-! # Parameters and results of generated methods

The fields of a message become a list of named, typed Go parameters. -/

namespace RpcClients

/-- The names that the body of a generated method refers to. -/
def bodyLocals : List String := ["ctx", "s", "response", "err", "nil", "false", "true"]

/-- The parameter that carries the field with this Go name. -/
def parameterName (goName : String) : String :=
  let name := Naming.unexported goName
  if name ∈ Naming.keywords ∨ name ∈ bodyLocals then name ++ "_" else name

/-- The name with underscores after it. -/
def underscored (name : String) (count : Nat) : String :=
  name ++ String.ofList (List.replicate count '_')

/-- A named, typed entry of a parameter or result list. -/
structure Parameter where
  name : String
  goType : String
  field : Field
deriving DecidableEq, Repr

def Parameter.text (parameter : Parameter) : String := parameter.name ++ " " ++ parameter.goType

namespace Message

/-- A field inside a oneof is not supported. -/
def checkField (message : Message) (field : Field) : Except Failure Unit :=
  match field.oneof with
  | none => .ok ()
  | some oneof => .error (.ofCause (.field message.fullName field.name (.insideOneof oneof)))

/-- The Go type of a field, of a map key or of a map value, taken by itself. -/
def elementType (message : Message) (field : Field) (type : FieldType) : Resolving String :=
  match type.kind, type.ident with
  | .scalar scalar, _ => return scalar.goType
  | kind, none => throw (.ofCause (.field message.fullName field.name (.noTypeReference kind)))
  | .message, some ident => return "*" ++ (← Resolving.qualified ident)
  | .enum, some ident => Resolving.qualified ident

/-- Whether a single value of the field is `nil` when it is absent, without a pointer around it. -/
def holdsNil (kind : FieldKind) : Bool := kind = .message || kind = .scalar .bytes

def goType (message : Message) (field : Field) : Resolving String := do
  Resolving.ofExcept (message.checkField field)
  match field.mapKey, field.mapValue with
  | some key, some value =>
    let key ← message.elementType field key
    let value ← message.elementType field value
    return "map[" ++ key ++ "]" ++ value
  | _, _ =>
    let element ← message.elementType field field.type
    if field.repeated then return "[]" ++ element
    else if field.optional && !holdsNil field.type.kind then return "*" ++ element
    else return element

/-- The Go text of the zero value of a supported field. -/
def zeroText (field : Field) : String :=
  if field.repeated || field.isMap || field.optional then "nil"
  else
    match field.type.kind with
    | .message | .scalar .bytes => "nil"
    | .scalar .bool => "false"
    | .scalar .string => "\"\""
    | _ => "0"

def zeroValue (message : Message) (field : Field) : Except Failure String := do
  message.checkField field
  return zeroText field

/-- A return statement of zero values and an error. -/
def errorReturn (message : Message) (error : String) : Except Failure String := do
  let values ← message.fields.mapM message.zeroValue
  return "return " ++ String.intercalate ", " (values ++ [error])

/-- Parameters for the given fields, with names that are not taken and differ from each other. -/
def parametersFor (message : Message) (taken : List String) : List Field → Resolving (List Parameter)
  | [] => return []
  | field :: rest => do
    let name := firstFree (underscored (parameterName field.goName)) taken
    let type ← message.goType field
    let others ← message.parametersFor (name :: taken) rest
    return ⟨name, type, field⟩ :: others

/-- One parameter per field, in field order. -/
def parameters (message : Message) (taken : List String := []) : Resolving (List Parameter) :=
  message.parametersFor taken message.fields

end Message

end RpcClients
