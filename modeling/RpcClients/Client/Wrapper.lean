import RpcClients.Source.Artifact
import RpcClients.Source.Parameter

/-! # Wrapper types

The type that wraps a service's client, and its methods, which take and return plain field values. -/

namespace RpcClients

/-- The type that wraps the client of the service with this Go name. It is a declaration of the
package, so it shadows no predeclared identifier either. -/
def wrapperName (goName : String) : String :=
  let name := Naming.unexported goName
  if name ∈ Naming.keywords ∨ name ∈ Naming.predeclared then name ++ "_" else name

/-- What a wrapper method is printed from. -/
structure WrapperMethod where
  wrapper : String
  name : String
  comments : Option String
  context : String
  request : String
  parameters : List Parameter
  results : List Parameter
  errorReturn : String
deriving DecidableEq, Repr

namespace WrapperMethod

def commaSeparated (items : List String) : String := String.intercalate ", " items

def parameterTexts (method : WrapperMethod) : List String :=
  ("ctx " ++ method.context) :: method.parameters.map Parameter.text

def resultTexts (method : WrapperMethod) : List String :=
  method.results.map Parameter.text ++ ["_ error"]

/-- The signature stands on one line unless it has more than two parameters or results. -/
def signature (method : WrapperMethod) : List String :=
  let head := "func (s *" ++ method.wrapper ++ ") " ++ method.name ++ "("
  let results := ") (" ++ commaSeparated method.resultTexts ++ ") \x7b"
  if method.parameterTexts.length > 2 ∨ method.resultTexts.length > 2 then
    head :: method.parameterTexts.map (· ++ ",") ++ [results]
  else [head ++ commaSeparated method.parameterTexts ++ results]

def call (method : WrapperMethod) : List String :=
  let response := if method.results.isEmpty then "_" else "response"
  [response ++ ", err := s.client." ++ method.name ++ "(", "ctx,", "&" ++ method.request ++ "\x7b"] ++
    method.parameters.map (fun p => p.field.goName ++ ": " ++ p.name ++ ",") ++ ["\x7d,", ")"]

def returnLine (method : WrapperMethod) : String :=
  "return " ++ commaSeparated (method.results.map (fun r => "response." ++ r.field.goName) ++ ["nil"])

def lines (method : WrapperMethod) : List String :=
  commentLines method.comments ++ method.signature ++ method.call ++
    ["if err != nil \x7b", method.errorReturn, "\x7d", method.returnLine, "\x7d", ""]

end WrapperMethod

/-- What stands before the last dot of a text, if there is one. -/
def qualifier? (text : String) : Option String :=
  match (Text.pieces '.' text.toList).reverse with
  | [] | [_] => none
  | _ :: before => some (String.ofList (['.'].intercalate before.reverse))

/-- The names that no parameter of a method may have: the alias that its body uses. -/
def requestAlias (request : String) : List String :=
  match qualifier? request with
  | none | some "" => []
  | some bound => [bound]

/-- Only unary methods can be wrapped. -/
def Method.requireUnary (method : Method) : Except Failure Unit :=
  match method.shape with
  | .unary => .ok ()
  | shape => .error (.ofCause (.shape method.fullName shape))

/-- The method of a wrapper. Its comments are printed after its types are known. -/
def Method.wrapped (method : Method) (wrapper context : String) (unreadable : List String) :
    Resolving WrapperMethod := do
  Resolving.ofExcept method.requireUnary
  let request ← Resolving.qualified method.input.ident
  let taken := requestAlias request
  let parameters ← method.input.parameters taken
  let results ← method.output.parameters (parameters.map (·.name) ++ "ctx" :: taken)
  method.comments.forM fun text => Resolving.ofExcept (requireReadable unreadable .unreadableText text)
  let errorReturn ← Resolving.ofExcept (method.output.errorReturn "err")
  return {
    wrapper, context, request, parameters, results, errorReturn
    name := method.goName
    comments := method.comments }

/-- A wrapper type and its methods. -/
structure Wrapper where
  name : String
  logger : String
  client : String
  methods : List WrapperMethod
deriving DecidableEq, Repr

def Wrapper.lines (wrapper : Wrapper) : List String :=
  ["type " ++ wrapper.name ++ " struct \x7b", "logger *" ++ wrapper.logger, "client " ++ wrapper.client,
   "\x7d", ""] ++ wrapper.methods.flatMap WrapperMethod.lines ++ [""]

/-- The wrapper of a service whose client is declared in the package with the given import path. -/
def Service.wrapped (service : Service) (importPath context logger : String)
    (unreadable : List String) : Resolving Wrapper := do
  let name := wrapperName service.goName
  let client ← Resolving.qualified ⟨service.goName, importPath⟩
  let methods ← service.methods.mapM (·.wrapped name context unreadable)
  return { name, logger, client, methods }

end RpcClients
