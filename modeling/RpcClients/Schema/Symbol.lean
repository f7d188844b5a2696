import RpcClients.Failure
import RpcClients.Naming
import RpcClients.Schema.Descriptor

/-! # Symbols and scopes

The messages and enums that files declare, and how a type name finds one of them. -/

namespace RpcClients.Schema

/-- A declared message, or an enum if `message` is none. -/
structure Symbol where
  name : String
  fullName : String
  goName : String
  file : FileDescriptor
  message : Option MessageDescriptor
deriving Repr

def Symbol.kind (symbol : Symbol) : FieldKind := if symbol.message.isSome then .message else .enum

/-- A name inside a scope. -/
def inScope (scope name : String) : String := if scope = "" then name else scope ++ "." ++ name

/-! ## Declared symbols -/

/-- The symbol of an enum. -/
def EnumDescriptor.symbol (file : FileDescriptor) (scope lead : String) (enum : EnumDescriptor) :
    Symbol :=
  ⟨enum.name, inScope scope enum.name, lead ++ Naming.camelCase enum.name, file, none⟩

mutual

/-- The symbols of a message: itself, its nested messages, its enums. `lead` is what the Go names of
the messages around it come to. -/
def messageSymbols (file : FileDescriptor) (scope lead : String) : MessageDescriptor → List Symbol
  | ⟨name, fields, nested, enums, oneofs, mapEntry⟩ =>
    let fullName := inScope scope name
    let goName := lead ++ Naming.camelCase name
    ⟨name, fullName, goName, file, some ⟨name, fields, nested, enums, oneofs, mapEntry⟩⟩ ::
      (nestedSymbols file fullName (goName ++ "_") nested ++
        enums.map (EnumDescriptor.symbol file fullName (goName ++ "_")))

def nestedSymbols (file : FileDescriptor) (scope lead : String) : List MessageDescriptor → List Symbol
  | [] => []
  | message :: rest => messageSymbols file scope lead message ++ nestedSymbols file scope lead rest

end

/-- The symbols of a file, messages first. -/
def FileDescriptor.symbols (file : FileDescriptor) : List Symbol :=
  nestedSymbols file file.package "" file.messages ++
    file.enums.map (EnumDescriptor.symbol file file.package "")

/-! ## The symbol table -/

def findSymbol? (table : List Symbol) (fullName : String) : Option Symbol :=
  table.find? (·.fullName = fullName)

/-- Adds symbols that must not be in the table yet. -/
def addSymbols (unreadable : List String) (table : List Symbol) :
    List Symbol → Except Failure (List Symbol)
  | [] => .ok table
  | symbol :: rest => do
    requireReadable unreadable .unreadableName symbol.name
    match findSymbol? table symbol.fullName with
    | some first =>
      .error (.descriptor (.declaredTwice symbol.fullName first.file.name symbol.file.name))
    | none => addSymbols unreadable (table ++ [symbol]) rest

/-- What the types of a request are resolved with. -/
structure SymbolTable where
  symbols : List Symbol
  /-- The texts of the request that are no UTF-8. -/
  unreadable : List String := []
deriving Repr

/-- All symbols of files. -/
def SymbolTable.ofFiles (unreadable : List String) (files : List FileDescriptor) :
    Except Failure SymbolTable := do
  return { unreadable, symbols := ← addSymbols unreadable [] (files.flatMap FileDescriptor.symbols) }

/-! ## Scoping -/

/-- The components of a scope. -/
def scopeParts (scope : String) : List String := if scope = "" then [] else Text.split '.' scope

/-- A scope and the scopes around it, the innermost first and the empty one last. -/
def enclosing (scope : String) : List String :=
  let parts := scopeParts scope
  (List.range (parts.length + 1)).reverse.map fun i => String.intercalate "." (parts.take i)

/-- A name is known if it is declared or if something is declared inside of it. -/
def isKnown (table : List Symbol) (name : String) : Bool :=
  table.any fun symbol =>
    symbol.fullName = name || (name.toList ++ ['.']).isPrefixOf symbol.fullName.toList

/-- The symbol that a type name means in a scope. A name that starts with a dot is a full name. Of any
other name the first component is looked for from the innermost scope outwards, and the first scope
that knows it decides. -/
def resolve? (table : List Symbol) (scope typeName : String) : Option Symbol :=
  match Text.cut '.' typeName.toList with
  | ([], some rest) => findSymbol? table (String.ofList rest)
  | (first, rest) => do
    let candidates := (enclosing scope).map (inScope · (String.ofList first))
    let candidate ← candidates.find? (isKnown table)
    match rest with
    | none | some [] => findSymbol? table candidate
    | some rest => findSymbol? table (inScope candidate (String.ofList rest))

end RpcClients.Schema
