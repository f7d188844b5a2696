import RpcClients.Failure
import RpcClients.Naming

/-! # The import table of a generated file

Each imported package has an alias. The first path with a name keeps it, later ones get a number after
it, and an alias is never a predeclared identifier, the file's own package or one of its declarations. -/

namespace RpcClients

/-- The first of `candidate 0`, `candidate 1`, … that is not taken. -/
def firstFree (candidate : Nat → String) (taken : List String) : String :=
  match (List.range (taken.length + 1)).find? fun i => candidate i ∉ taken with
  | some i => candidate i
  | none => candidate 0

/-- The import table of a file in the package `packageName`, imported from `importPath`. Aliases stand
in the order in which they were bound. -/
structure Imports where
  importPath : String
  packageName : String
  reserved : List String := []
  aliases : List (String × String) := []
deriving DecidableEq, Repr

namespace Imports

/-- The names that no further alias may have. -/
def used (table : Imports) : List String :=
  Naming.predeclared ++ table.packageName :: table.reserved ++ table.aliases.map (·.2)

/-- Keeps a name for a declaration of the file's package. -/
def reserve (table : Imports) (name : String) : Except ResolutionProblem Imports :=
  if name ∈ table.aliases.map (·.2) then .error (.declarationTaken name)
  else .ok { table with reserved := name :: table.reserved }

/-- The name, or the name with a number after it. -/
def numbered (name : String) : Nat → String
  | 0 => name
  | i + 1 => name ++ toString (i + 1)

/-- The name that the alias of a path is made from. -/
def wantedName (path : String) (preferred : Option String) : String :=
  match preferred with
  | none | some "" => Naming.packageNameOf path
  | some name => Naming.sanitized name

/-- Binds a path to the first free alias made from a name. -/
def bind (table : Imports) (path name : String) : Imports :=
  { table with aliases := table.aliases ++ [(path, firstFree (numbered name) table.used)] }

/-- The alias of a package, bound on first use. A preferred name counts only then. -/
def aliasOf (table : Imports) (path : String) (preferred : Option String := none) :
    Except ResolutionProblem (String × Imports) :=
  if path = "" then .error .emptyImportPath
  else if path = table.importPath then .error (.selfImport path)
  else
    match table.aliases.lookup path with
    | some bound => .ok (bound, table)
    | none =>
      let name := wantedName path preferred
      .ok (firstFree (numbered name) table.used, table.bind path name)

/-- The text by which the file refers to an identifier. -/
def qualified (table : Imports) (ident : Ident) : Except ResolutionProblem (String × Imports) :=
  if ident.name = "" then .error (.unnamedSymbol ident.importPath)
  else if ident.importPath = table.importPath then .ok (ident.name, table)
  else do
    let (bound, table) ← table.aliasOf ident.importPath
    return (bound ++ "." ++ ident.name, table)

/-- Puts an entry before the first one with a greater path. -/
def insertByPath (entry : String × String) : List (String × String) → List (String × String)
  | [] => [entry]
  | other :: rest =>
    if entry.1 < other.1 then entry :: other :: rest else other :: insertByPath entry rest

/-- The bound paths with their aliases, sorted by path. -/
def sorted (table : Imports) : List (String × String) := table.aliases.foldr insertByPath []

end Imports

/-! ## Resolution

A failure leaves the aliases bound so far in the table. -/

abbrev Resolving := ExceptT Failure (StateM Imports)

namespace Resolving

def ofExcept {α : Type} : Except Failure α → Resolving α
  | .error failure => throw failure
  | .ok value => return value

def lift (step : Imports → Except ResolutionProblem (String × Imports)) : Resolving String := do
  match step (← get) with
  | .error problem => throw (.resolution problem)
  | .ok (text, table) =>
    set table
    return text

def qualified (ident : Ident) : Resolving String := lift (·.qualified ident)

/-- The reference to a name of a package whose path may not be set. -/
def member (path : Option String) (name : String) : Resolving String :=
  match path with
  | none => throw (.resolution .emptyImportPath)
  | some path => qualified ⟨name, path⟩

end Resolving

end RpcClients
