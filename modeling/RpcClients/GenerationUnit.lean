import RpcClients.Failure

/-! # Generation units

The files to generate that share a Go import path form a unit. -/

namespace RpcClients

structure GenerationUnit where
  importPath : String
  packageName : String
  files : List File := []
deriving DecidableEq, Repr

namespace GenerationUnit

def services (unit : GenerationUnit) : List Service := unit.files.flatMap (·.services)

/-- Puts a file into the unit of its import path, a new last one if there is none yet. -/
def insert (file : File) : List GenerationUnit → Except Failure (List GenerationUnit)
  | [] => .ok [⟨file.importPath, file.packageName, [file]⟩]
  | unit :: rest =>
    if unit.importPath = file.importPath then
      if unit.packageName = file.packageName then
        .ok ({ unit with files := unit.files ++ [file] } :: rest)
      else
        .error (.grouping
          (.packageName file.name file.packageName file.importPath unit.packageName))
    else do return unit :: (← insert file rest)

/-- The units of the files marked for generation, in the order of their first files. -/
def gather (files : List File) : Except Failure (List GenerationUnit) :=
  (files.filter (·.generate)).foldlM (fun units file => insert file units) []

def hasServices (unit : GenerationUnit) : Bool := !unit.services.isEmpty

/-- The units that have services. -/
def group (files : List File) : Except Failure (List GenerationUnit) := do
  return (← gather files).filter hasServices

end GenerationUnit

end RpcClients
