import RpcClients.Command.Run

/-! # The program

Reads what a command looks at, or the standard input, runs the command and writes what it leaves behind. -/

namespace RpcClients.Program

open FileTree (Place Content)

/-- The path to a place. -/
def pathTo (place : Place) : Path := Path.root :: place

def withDirectory (tree : FileTree) (place : Place) : FileTree :=
  if tree.isDirectory place then tree else { tree with directories := tree.directories ++ [place] }

def withFile (tree : FileTree) (place : Place) (content : Content) : FileTree :=
  if (tree.files.lookup place).isSome then tree else { tree with files := tree.files ++ [(place, content)] }

def contentOf (data : ByteArray) : Content :=
  match String.fromUTF8? data with
  | some text => .text text
  | none => .notText

/-- Adds to a tree what components lead through from a directory, as far as it exists. -/
def explore (tree : FileTree) (dir : Place) : List String → IO FileTree
  | [] => return tree
  | part :: rest => do
    let place := dir.next part
    let path := (← IO.currentDir) / (pathTo place).text
    if ← path.isDir then explore (withDirectory tree place) place rest
    else if ← path.pathExists then return withFile tree place (contentOf (← IO.FS.readBinFile path))
    else return tree

def explorePath (tree : FileTree) (path : Path) : IO FileTree := explore tree (tree.start path) path.names

/-- All names that files of a tree import. -/
def importedNames (tree : FileTree) : List String :=
  tree.files.flatMap fun (place, _) =>
    match tree.parseFile (pathTo place) "" with
    | .ok file => file.dependencies
    | .error _ => []

/-- Adds the files that are imported, then those that these import, and so on. -/
partial def exploreImports (dirs : List Path) (tree : FileTree) : IO FileTree := do
  let paths := (importedNames tree).eraseDups.flatMap fun name => dirs.map (·.join (.ofText name))
  let next ← paths.foldlM explorePath tree
  if next.files.length = tree.files.length then return next else exploreImports dirs next

/-- The options of a command line, as far as it can be read. -/
def givenOptions (arguments : List String) : Option (Command.Subcommand × List Command.Given) :=
  match Command.readProgram arguments with
  | .error _ => none
  | .ok (_, command, rest) =>
    match Command.readOptions command.settings true rest with
    | .error _ => some (command, [])
    | .ok (given, _) => some (command, given)

/-- The part of the file system that a command with the given options reads. -/
def treeFor (given : List Command.Given) : IO FileTree := do
  let tree : FileTree := { workingDir := (Path.ofText (← IO.currentDir).toString).names }
  let pathsOf (setting : Command.Setting) := (Command.valuesOf given setting).map Path.ofText
  let inputs := pathsOf .input
  let includes := pathsOf .protoPath
  let tree ← (inputs ++ includes ++ pathsOf .config).foldlM explorePath tree
  exploreImports (includes ++ inputs.map Path.parent) tree

/-- The files in which a tree differs from the one before. -/
def changes (before tree : FileTree) : List (Place × Content) :=
  tree.files.filter fun (place, content) => before.files.lookup place ≠ some content

/-- Adds to a tree what is in the way of the files that a command writes. -/
def exploreOutput (arguments : List String) (tree : FileTree) (input : Wire.Bytes) : IO FileTree :=
  match Command.run arguments tree input with
  | .error _ => return tree
  | .ok outcome => (changes tree outcome.tree).foldlM (fun tree (place, _) => explore tree [] place) tree

def writeChanges (before tree : FileTree) : IO Unit := do
  for (place, content) in changes before tree do
    if let .text text := content then
      IO.FS.createDirAll (pathTo place.dropLast).text
      IO.FS.writeFile (pathTo place).text text

/-- The bytes of a stream up to its end. -/
partial def readAll (stream : IO.FS.Stream) (before : ByteArray) : IO ByteArray := do
  let data ← stream.read 65536
  if data.isEmpty then return before else readAll stream (before ++ data)

def run (arguments : List String) : IO UInt32 := do
  let options := givenOptions arguments
  -- the command that answers requests reads no files, and only that command reads the input
  let request := options.any (·.1 = .plugin)
  let input ← if request then (·.toList) <$> readAll (← IO.getStdin) .empty else pure []
  let tree ← treeFor ((options.map (·.2)).getD [])
  let tree ← exploreOutput arguments tree input
  match Command.run arguments tree input with
  | .error fault =>
    (← IO.getStderr).putStrLn ("Fatal: " ++ fault.message)
    return 1
  | .ok outcome =>
    writeChanges tree outcome.tree
    (← IO.getStderr).putStr outcome.messages
    (← IO.getStdout).write outcome.output.toByteArray
    return outcome.exitCode.toUInt32

end RpcClients.Program

def main (arguments : List String) : IO UInt32 := RpcClients.Program.run arguments
