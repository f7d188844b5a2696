import RpcClients.Client.Generate
import RpcClients.Schema.Level
import RpcClients.Schema.Load

/-! # Requests of the schema compiler

A request holds all descriptors and names the files to generate. What goes wrong with them is part of
the response. -/

namespace RpcClients

structure Request where
  /-- Texts that are no UTF-8. They stand in the request in the form in which messages show them. -/
  unreadable : List String := []
  filesToGenerate : List String := []
  parameter : String := ""
  files : List Schema.FileDescriptor := []
deriving Repr

/-- A request with files that are at hand. -/
def Request.ofFiles (files : List Schema.FileDescriptor) (filesToGenerate : List String)
    (parameter : String) : Except Fault Request := do
  files.forM (·.requireLevels)
  return { files, filesToGenerate, parameter }

/-- The files that are generated, or an error. -/
structure Response where
  error : Option String := none
  files : List Artifact := []
deriving DecidableEq, Repr

/-- The feature that is announced: fields that are optional by their label. -/
def Response.supportedFeatures : Nat := 1

def Request.artifacts (request : Request) (options : Options) : Except Failure (List Artifact) := do
  requireReadable request.unreadable .unreadableText request.parameter
  let options ← options.withParameter request.parameter
  let files ← Schema.load request.files request.filesToGenerate request.unreadable
  generate options files request.unreadable

/-- The answer to a request. -/
def Request.response (request : Request) (options : Options := {}) : Except Fault Response :=
  match request.artifacts options with
  | .ok files => .ok { files }
  | .error (.reported error) => .ok { error := some error.message }
  | .error (.fault fault) => .error fault

end RpcClients
