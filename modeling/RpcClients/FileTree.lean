import RpcClients.Entries
import RpcClients.Failure
import RpcClients.Text.Split

/-! # Files

A place is a list of names that leads down from the root. A path starts at the root if its first component is
a slash, and at the working directory otherwise, and a component `..` leads to the directory above. There are
no links. Names and whole paths are of limited length. -/

namespace RpcClients

abbrev Path := List String

namespace Path

def root : String := "/"

/-- The root at the start of a text. Two slashes count as written, more than two as one. -/
def root? : List Char → Option String
  | '/' :: '/' :: '/' :: _ => some root
  | '/' :: '/' :: _ => some (root ++ root)
  | '/' :: _ => some root
  | _ => none

/-- The root of a text and then its components, without the empty ones and those that stay where they are. -/
def ofText (text : String) : Path :=
  (root? text.toList).toList ++ (Text.split '/' text).filter fun part => part ≠ "" ∧ part ≠ "."

def isRoot (part : String) : Bool := part.toList.head? = some '/'

/-- Whether a path starts at the root. -/
def isAbsolute (path : Path) : Bool := path.head?.any isRoot

/-- The components behind the root. -/
def names (path : Path) : List String := if path.isAbsolute then path.tail else path

def text : Path → String
  | [] => "."
  | part :: rest =>
    if isRoot part then part ++ String.intercalate "/" rest else String.intercalate "/" (part :: rest)

/-- The last component, the empty text if there is none. -/
def name (path : Path) : String := path.names.getLast?.getD ""

/-- The path without its last component. The root is its own parent. -/
def parent (path : Path) : Path := if path.names.isEmpty then path else path.dropLast

/-- The path that goes on from a directory. A path that starts at the root leaves the directory behind. -/
def join (dir path : Path) : Path := if path.isAbsolute then path else dir ++ path

/-- No name is longer than this, in bytes. -/
def nameLimit : Nat := 255

/-- No path is longer than this, in bytes. -/
def textLimit : Nat := 4095

def isTooLong (name : String) : Bool := nameLimit < name.utf8ByteSize

/-- No file system takes a path with the character NUL. -/
def hasNul (path : Path) : Bool := path.any fun part => part.toList.any (·.toNat = 0)

end Path

/-- The names from the root on. -/
abbrev FileTree.Place := List String

inductive FileTree.Content where
  | text (content : String)
  /-- Bytes that are no UTF-8. -/
  | notText
deriving DecidableEq, Repr

/-- Files with their contents, the working directory, and all directories but those that lead to it. -/
structure FileTree where
  files : List (FileTree.Place × FileTree.Content) := []
  directories : List FileTree.Place := []
  workingDir : FileTree.Place := []
deriving DecidableEq, Repr

namespace FileTree

/-! ## Places -/

/-- The place one component further. The directory above the root is the root. -/
def Place.next (place : Place) (part : String) : Place :=
  if part = ".." then place.dropLast else place ++ [part]

/-- The path from one place to another below it. -/
def Place.below? (place dir : Place) : Option Path :=
  if dir.isPrefixOf place then some (place.drop dir.length) else none

/-- The directory at which a path starts. -/
def start (tree : FileTree) (path : Path) : Place := if path.isAbsolute then [] else tree.workingDir

/-- The place that a path leads to if all its directories exist. -/
def resolve (tree : FileTree) (path : Path) : Place := path.names.foldl Place.next (tree.start path)

def isDirectory (tree : FileTree) (place : Place) : Bool :=
  place.isPrefixOf tree.workingDir || place ∈ tree.directories

/-- What a path leads to. -/
inductive Spot where
  | file (place : Place) (content : Content)
  | directory (place : Place)
  /-- Nothing, but there is a directory that could hold it. -/
  | vacant (place : Place)
  /-- Nothing, and no directory to hold it. -/
  | missing
  | belowFile
  | tooLong
deriving DecidableEq, Repr

/-- Follows components from a directory. -/
def follow (tree : FileTree) (dir : Place) : List String → Spot
  | [] => .directory dir
  | part :: rest =>
    if part = ".." then tree.follow dir.dropLast rest
    else if Path.isTooLong part then .tooLong
    else
      let place := dir ++ [part]
      if tree.isDirectory place then tree.follow place rest
      else
        match tree.files.lookup place with
        | some content => if rest.isEmpty then .file place content else .belowFile
        | none => if rest.isEmpty then .vacant place else .missing

/-- What a path leads to that is written as `text`. -/
def spotWritten (tree : FileTree) (text : String) (path : Path) : Spot :=
  if Path.textLimit < text.utf8ByteSize then .tooLong else tree.follow (tree.start path) path.names

def spot (tree : FileTree) (path : Path) : Spot := tree.spotWritten path.text path

/-- What a text leads to. A file's name is not followed by a slash. -/
def spotOfText (tree : FileTree) (text : String) : Spot :=
  if text = "" then .missing
  else
    match tree.spotWritten text (.ofText text) with
    | .file place content =>
      if (Text.split '/' text).getLast?.any fun part => part = "" || part = "." then .belowFile
      else .file place content
    | other => other

/-! ## Reading -/

/-- Every way to end a line becomes a line feed. -/
def lineFeeds : List Char → List Char
  | '\r' :: '\n' :: rest => '\n' :: lineFeeds rest
  | '\r' :: rest => '\n' :: lineFeeds rest
  | c :: rest => c :: lineFeeds rest
  | [] => []

def Content.read : Content → Except Fault String
  | text content => .ok (String.ofList (lineFeeds content.toList))
  | notText => .error .notUtf8

/-- The text of a file. -/
def read (tree : FileTree) (path : Path) : Except Fault String :=
  if path.hasNul then .error .nulInPath
  else
    match tree.spot path with
    | .file _ content => content.read
    | .directory _ => .error .isADirectory
    | .vacant _ | .missing => .error .fileNotFound
    | .belowFile => .error .notADirectory
    | .tooLong => .error .nameTooLong

/-- Whether there is a file. A path with NUL leads to none. -/
def isFile (tree : FileTree) (path : Path) : Except Fault Bool :=
  if path.hasNul then .ok false
  else
    match tree.spot path with
    | .file _ _ => .ok true
    | .tooLong => .error .nameTooLong
    | _ => .ok false

/-! ## Writing -/

/-- Makes the last directory of a path, whose other directories are there. -/
def makeDirectory (tree : FileTree) (path : Path) : Except Fault FileTree :=
  match tree.spot path with
  | .directory _ => .ok tree
  | .vacant place => .ok { tree with directories := tree.directories ++ [place] }
  | .missing => .error .fileNotFound
  | .file _ _ => .error .fileExists
  | .belowFile => .error .notADirectory
  | .tooLong => .error .nameTooLong

/-- Makes a directory and those it is in, from a directory that is there. -/
def makeDirectoriesFrom (tree : FileTree) (dir : Path) : Path → Except Fault FileTree
  | [] => .ok tree
  | [part] => tree.makeDirectory (dir ++ [part])
  | part :: rest =>
    match tree.makeDirectory (dir ++ [part]) with
    | .ok tree => tree.makeDirectoriesFrom (dir ++ [part]) rest
    | .error .fileExists => .error .notADirectory
    | .error fault => .error fault

def makeDirectories (tree : FileTree) (path : Path) : Except Fault FileTree :=
  if path.hasNul then .error .nulInPath
  else if Path.textLimit < path.text.utf8ByteSize then .error .nameTooLong
  else tree.makeDirectoriesFrom [] path

/-- Writes a file into a directory that is there. -/
def writeFile (tree : FileTree) (path : Path) (text : String) : Except Fault FileTree :=
  if path.hasNul then .error .nulInPath
  else
    match tree.spot path with
    | .file place _ | .vacant place => .ok { tree with files := putEntry place (.text text) tree.files }
    | .directory _ => .error .isADirectory
    | .missing => .error .fileNotFound
    | .belowFile => .error .notADirectory
    | .tooLong => .error .nameTooLong

/-- Writes a file, after its directory is made. -/
def write (tree : FileTree) (path : Path) (text : String) : Except Fault FileTree := do
  (← tree.makeDirectories path.parent).writeFile path text

end FileTree

end RpcClients
