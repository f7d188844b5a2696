import RpcClients.FileTree
import RpcClients.Logging
import RpcClients.Proto.Describe
import RpcClients.Schema.WellKnown

/-! # Schema sources

A source is named by its path below the first include directory that holds it, or else by its file
name, and then its directory becomes an include directory too. Imports are looked up by name in the
include directories and then among the well-known files. -/

namespace RpcClients

/-- Descriptors of the sources and of all that they import, and the names of the sources. -/
structure Sources where
  files : List Schema.FileDescriptor
  toGenerate : List String
deriving Repr

namespace FileTree

/-! ## Names -/

/-- The name of a source below an include directory. -/
def nameBelow? (tree : FileTree) (path dir : Path) : Option String :=
  if dir.hasNul then none else ((tree.resolve path).below? (tree.resolve dir)).map Path.text

/-- The name of a source and the include directories with which its imports are looked up. -/
def sourceName (tree : FileTree) (path : Path) (includes : List Path) : String × List Path :=
  match includes.findSome? (tree.nameBelow? path) with
  | some name => (name, includes)
  | none => (path.name, if includes.any (· = path.parent) then includes else includes ++ [path.parent])

/-! ## Sources and imports -/

def parseFile (tree : FileTree) (path : Path) (name : String) : Except Failure Schema.FileDescriptor :=
  match tree.read path with
  | .error fault => .error (.fault fault)
  | .ok text => Proto.parse text name

/-- Adds sources to the files, unless one of the same name is there. The include directories that the
sources add stay for the imports. -/
def addSources (tree : FileTree) (includes : List Path) (files : List Schema.FileDescriptor) :
    List Path → Logged (List Schema.FileDescriptor × List Path)
  | [] => return (files, includes)
  | path :: rest => do
    if path.hasNul then throw (.fault .nulInPath)
    let (name, includes) := tree.sourceName path includes
    if files.any (·.name = name) then tree.addSources includes files rest
    else
      let file ← Logged.ofExcept (tree.parseFile path name)
      Logged.debug ("parsed " ++ path.text ++ " as " ++ name)
      tree.addSources includes (files ++ [file]) rest

/-- The first of some paths that leads to a file. -/
def firstFile? (tree : FileTree) : List Path → Except Fault (Option Path)
  | [] => return none
  | path :: rest => do if ← tree.isFile path then return some path else tree.firstFile? rest

/-- The file that an import names. -/
def findImport (tree : FileTree) (includes : List Path) (name : String) :
    Logged Schema.FileDescriptor :=
  match tree.firstFile? (includes.map (·.join (Path.ofText name))) with
  | .error fault => throw (.fault fault)
  | .ok (some path) => do
    Logged.debug ("resolved import " ++ name ++ " to " ++ path.text)
    Logged.ofExcept (tree.parseFile path name)
  | .ok none =>
    match Schema.WellKnown.file? name with
    | some file => return file
    | none => throw (.descriptor (.missingImport name))

/-- Adds the imports of the given names that are not there yet. The names that these import in turn
come second, in order. -/
def addImports (tree : FileTree) (includes : List Path) (files : List Schema.FileDescriptor) :
    List String → Logged (List Schema.FileDescriptor × List String)
  | [] => return (files, [])
  | name :: rest => do
    if files.any (·.name = name) then tree.addImports includes files rest
    else
      let file ← tree.findImport includes name
      let (files, names) ← tree.addImports includes (files ++ [file]) rest
      return (files, file.dependencies ++ names)

/-- Adds imports, then their imports, and so on. -/
def closeImports (tree : FileTree) (includes : List Path) :
    (rounds : Nat) → List Schema.FileDescriptor → List String → Logged (List Schema.FileDescriptor)
  | 0, files, _ => return files
  | _ + 1, files, [] => return files
  | rounds + 1, files, names => do
    let (files, names) ← tree.addImports includes files names
    tree.closeImports includes rounds files names

def Content.length : Content → Nat
  | text content => content.length
  | notText => 0

/-- More rounds of imports than there are. Every round but the last adds a name that some file of the
tree imports, and a file has no more imports than characters. -/
def importRounds (tree : FileTree) : Nat :=
  tree.files.foldr (fun (_, content) rounds => content.length + 1 + rounds) 2

/-- The sources with the given paths, and all that they import. -/
def sources (tree : FileTree) (paths includes : List String) : Logged Sources := do
  let (inputs, includes) ← tree.addSources (includes.map Path.ofText) [] (paths.map Path.ofText)
  let files ← tree.closeImports includes tree.importRounds inputs (inputs.flatMap (·.dependencies))
  return { files, toGenerate := inputs.map (·.name) }

end FileTree

end RpcClients
