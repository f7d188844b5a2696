import RpcClients.Source.Imports
import RpcClients.Source.Indentation

/-! # Generated Go files -/

namespace RpcClients

inductive ArtifactKind where
  /-- The file that a unit has one of. -/
  | unit
  /-- A file for a schema file. -/
  | file
deriving DecidableEq, Repr

def ArtifactKind.name : ArtifactKind → String
  | unit => "unit"
  | file => "file"

/-- A finished file. -/
structure Artifact where
  name : String
  kind : ArtifactKind
  content : String
deriving DecidableEq, Repr

/-- Comments as comment lines, with their text unchanged. -/
def commentLines (comments : Option String) : List String :=
  match comments with
  | none | some "" => []
  | some text => (Text.pieces '\n' (Text.withoutSuffix ['\n'] text.toList)).map fun line =>
      String.ofList ('/' :: '/' :: line)

/-- A Go file under construction: its import table and the lines of its body. -/
structure SourceFile where
  name : String
  kind : ArtifactKind
  /-- The schema file that it is made from. -/
  source : Option String := none
  pluginName : String
  imports : Imports
  lines : List String := []
deriving DecidableEq, Repr

namespace SourceFile

/-- Adds a text as lines. -/
def append (file : SourceFile) (text : String) : SourceFile :=
  { file with lines := file.lines ++ Text.split '\n' text }

def sourceLine (file : SourceFile) : String :=
  match file.source with
  | none | some "" => ""
  | some source => "// source: " ++ source ++ "\n"

def importBlock (file : SourceFile) : String :=
  match file.imports.sorted with
  | [] => ""
  | entries =>
    "\nimport (\n" ++
      String.join (entries.map fun (path, bound) => "\t" ++ bound ++ " \"" ++ path ++ "\"\n") ++ ")\n"

/-- Everything before the body. -/
def header (file : SourceFile) : String :=
  "// Code generated by protoc-gen-go-" ++ file.pluginName ++ ". DO NOT EDIT.\n" ++
    file.sourceLine ++ "\npackage " ++ file.imports.packageName ++ "\n" ++ file.importBlock

/-- The indented lines without the empty ones at the end. -/
def body (file : SourceFile) : List String :=
  ((Indentation.indentLines file.lines).reverse.dropWhile (· = "")).reverse

def content (file : SourceFile) : String :=
  file.header ++ "\n" ++ String.intercalate "\n" file.body ++ "\n"

def artifact (file : SourceFile) : Artifact := ⟨file.name, file.kind, file.content⟩

end SourceFile

end RpcClients
