import RpcClients.Plugin
import RpcClients.Wire.Basic

/-! # Requests and responses on the wire -/

namespace RpcClients.Wire

open Schema

/-! ## Well-formedness

Data is refused as a whole if any message in it that is known to be one is malformed. -/

/-- The messages of a request, as far as they hold others. -/
inductive Shape where
  | request | file | message | field | oneof | enum | enumValue | service | method | extensionRange
  | sourceInfo | location | fileOptions | messageOptions | fieldOptions | oneofOptions | enumOptions
  | enumValueOptions | serviceOptions | methodOptions | extensionRangeOptions | uninterpreted | leaf
deriving DecidableEq, Repr

/-- The messages that a message holds, by field number. -/
def Shape.parts : Shape → List (Nat × Shape)
  | request => [(3, leaf), (15, file), (17, file)]
  | file =>
    [(4, message), (5, enum), (6, service), (7, field), (8, fileOptions), (9, sourceInfo)]
  | message =>
    [(2, field), (3, message), (4, enum), (5, extensionRange), (6, field), (7, messageOptions),
     (8, oneof), (9, leaf)]
  | field => [(8, fieldOptions)]
  | oneof => [(2, oneofOptions)]
  | enum => [(2, enumValue), (3, enumOptions), (4, leaf)]
  | enumValue => [(3, enumValueOptions)]
  | service => [(2, method), (3, serviceOptions)]
  | method => [(4, methodOptions)]
  | extensionRange => [(3, extensionRangeOptions)]
  | sourceInfo => [(1, location)]
  | fileOptions => [(50, leaf), (999, uninterpreted)]
  | messageOptions => [(12, leaf), (999, uninterpreted)]
  | fieldOptions => [(20, leaf), (21, leaf), (22, leaf), (999, uninterpreted)]
  | oneofOptions => [(1, leaf), (999, uninterpreted)]
  | enumOptions => [(7, leaf), (999, uninterpreted)]
  | enumValueOptions => [(2, leaf), (4, leaf), (999, uninterpreted)]
  | serviceOptions => [(34, leaf), (999, uninterpreted)]
  | methodOptions => [(35, leaf), (999, uninterpreted)]
  | extensionRangeOptions => [(2, leaf), (50, leaf), (999, uninterpreted)]
  | uninterpreted => [(2, leaf)]
  | location | leaf => []

/-- The fields of a message that hold numbers, which may be packed. -/
def Shape.numbers : Shape → List Nat
  | file => [10, 11]
  | location => [1, 2]
  | fieldOptions => [19]
  | _ => []

/-- The data is a message of the given shape, nested at most `depth` deep. -/
def wellFormed : (depth : Nat) → Shape → Bytes → Bool
  | depth, shape, data =>
    match readFields depth data with
    | none => false
    | some fields => fields.all fun field =>
        match field.payload with
        | .bytes data =>
          (!(field.number ∈ shape.numbers) || (readPacked data.length data).isSome) &&
            match shape.parts.lookup field.number, depth with
            | none, _ => true
            | some _, 0 => false
            | some part, depth + 1 => wellFormed depth part data
        | _ => true

/-! ## Reading -/

/-- Reading collects the texts that are no UTF-8, in the form in which messages show them. -/
abbrev Reading := StateM (List String)

def text (data : Bytes) : Reading String :=
  match String.fromUTF8? ⟨data.toArray⟩ with
  | some text => return text
  | none => do
    let shown := Text.quotedBytes data
    modify (shown :: ·)
    return shown

/-- The text of the last field with a number, empty if there is none. -/
def textOf (fields : List WireField) (number : Nat) : Reading String :=
  text ((lastData fields number).getD [])

/-- The fields of data that is known to be well-formed. -/
def fieldsOf (data : Bytes) : List WireField := (readFields maxDepth data).getD []

def flag (fields : List WireField) (number : Nat) : Bool :=
  (lastVarint fields number).any (· ≠ 0)

/-- The last number of an enum that is one of its values: other numbers do not count. -/
def enumOf {α : Type} (value? : Nat → Option α) (fields : List WireField) (number : Nat) : Option α :=
  ((allVarints fields number).filterMap fun value => value? (int32 value).toNat).getLast?

def readField (data : Bytes) : Reading FieldDescriptor := do
  let fields := fieldsOf data
  return {
    name := ← textOf fields 1
    number := ((lastVarint fields 3).map int32).getD 0
    label := (enumOf Label.ofNumber? fields 4).getD .optional
    type := enumOf TypeCode.ofNumber? fields 5
    typeName := ← textOf fields 6
    oneofIndex := (lastVarint fields 9).map int32
    proto3Optional := flag fields 17 }

def readEnum (data : Bytes) : Reading EnumDescriptor := do
  return { name := ← textOf (fieldsOf data) 1 }

/-- A message, whose nested messages are read up to a depth. -/
def readMessage : (depth : Nat) → Bytes → Reading MessageDescriptor
  | depth, data => do
    let fields := fieldsOf data
    let nested ← match depth with
      | 0 => pure []
      | depth + 1 => (allData fields 3).mapM (readMessage depth)
    return {
      nested
      name := ← textOf fields 1
      fields := ← (allData fields 2).mapM readField
      enums := ← (allData fields 4).mapM readEnum
      oneofs := ← (allData fields 8).mapM fun data => textOf (fieldsOf data) 1
      mapEntry := flag (fieldsOf (mergedData fields 7)) 7 }

def readMethod (data : Bytes) : Reading MethodDescriptor := do
  let fields := fieldsOf data
  return {
    name := ← textOf fields 1
    inputType := ← textOf fields 2
    outputType := ← textOf fields 3
    clientStreaming := flag fields 5
    serverStreaming := flag fields 6 }

def readService (data : Bytes) : Reading ServiceDescriptor := do
  let fields := fieldsOf data
  return { name := ← textOf fields 1, methods := ← (allData fields 2).mapM readMethod }

def readLocation (data : Bytes) : Reading Location := do
  let fields := fieldsOf data
  return {
    path := int32s fields 1
    span := int32s fields 2
    leadingComments := ← textOf fields 3 }

def readFile (data : Bytes) : Reading FileDescriptor := do
  let fields := fieldsOf data
  let goPackage ← (lastData (fieldsOf (mergedData fields 8)) 11).mapM text
  return {
    name := ← textOf fields 1
    package := ← textOf fields 2
    messages := ← (allData fields 4).mapM (readMessage maxDepth)
    enums := ← (allData fields 5).mapM readEnum
    services := ← (allData fields 6).mapM readService
    options := { goPackage }
    locations := ← (allData (fieldsOf (mergedData fields 9)) 1).mapM readLocation
    version := ← textOf fields 12 }

def readParts (data : Bytes) : Reading Request := do
  let fields := fieldsOf data
  return {
    filesToGenerate := ← (allData fields 1).mapM text
    parameter := ← textOf fields 2
    files := ← (allData fields 15).mapM readFile }

/-- The request that data stands for. -/
def readRequest (data : Bytes) : Except Fault Request :=
  if wellFormed maxDepth .request data then
    let (request, unreadable) := (readParts data).run []
    .ok { request with unreadable }
  else .error .malformedRequest

/-! ## Writing -/

def artifactData (artifact : Artifact) : Bytes :=
  textField 1 artifact.name ++ textField 15 artifact.content

/-- A response in the order of its field numbers. -/
def responseData (response : Response) : Bytes :=
  (response.error.map (textField 1)).getD [] ++ varintField 2 Response.supportedFeatures ++
    response.files.flatMap fun file => dataField 15 (artifactData file)

end RpcClients.Wire
