import RpcClients.Json.Printer
import RpcClients.Layout
import RpcClients.Text.Terminal

/-! # The report on generation units

As text, a table of methods for each unit; or as JSON. -/

namespace RpcClients.Command

/-! ## Text -/

def headings : List String := ["Service", "Method", "Shape", "In", "Out"]

/-- Columns with numbers stand to the right. -/
def alignsRight : List Bool := [false, false, false, true, true]

/-- The row of a method, with the number of fields that it takes and returns. -/
def methodRow (service : Service) (method : Method) : List String :=
  [service.name, method.name, method.shape.name, toString method.input.fields.length,
   toString method.output.fields.length]

def unitRows (unit : GenerationUnit) : List (List String) :=
  headings :: unit.services.flatMap fun service => service.methods.map (methodRow service)

/-- The width of each column. -/
def columnWidths (rows : List (List String)) : List Nat :=
  rows.foldl (fun widths row => widths.zipWith (fun width cell => max width cell.length) row)
    (headings.map fun _ => 0)

def cellText (right : Bool) (width : Nat) (cell : String) : String :=
  let blanks := String.ofList (List.replicate (width - cell.length) ' ')
  if right then blanks ++ cell else cell ++ blanks

def rowText (widths : List Nat) (row : List String) : String :=
  String.intercalate "  " ((alignsRight.zip (widths.zip row)).map fun (right, width, cell) =>
    cellText right width cell)

def tableText (rows : List (List String)) : String :=
  String.join (rows.map fun row => rowText (columnWidths rows) row ++ "\n")

def unitText (unit : GenerationUnit) : String :=
  Text.Terminal.shown (unit.importPath ++ " (" ++ unit.packageName ++ ")") ++ "\n" ++
    tableText (unitRows unit) ++ "\n"

def reportText : List GenerationUnit → String
  | [] => "No services to generate\n"
  | units => String.join (units.map unitText)

/-! ## JSON -/

/-- The object of some names and values, of which the last value of a name counts. -/
def objectOf (entries : List (String × Json)) : Json :=
  .object (entries.foldl (fun object (name, value) => Json.put (Text.codes name) value object) [])

def serviceJson (service : Service) : Json :=
  objectOf (service.methods.map fun method => (method.name, .ofString method.shape.name))

/-- The package that is generated for a unit, with halves of surrogate pairs as they were written. -/
def packageJson (options : Options) (halves : Options.HalfTexts) (unit : GenerationUnit) :
    Except Failure Json := do
  return .text (Text.codes unit.packageName ++ Options.codesOf halves (← options.requirePluginName))

def unitJson (options : Options) (halves : Options.HalfTexts) (unit : GenerationUnit) :
    Except Failure Json := do
  return objectOf
    [("go_import_path", .ofString unit.importPath),
     ("go_package_name", .ofString unit.packageName),
     ("output_package", ← packageJson options halves unit),
     ("files", .list (unit.files.map fun file => .ofString file.name)),
     ("services", objectOf (unit.services.map fun service => (service.fullName, serviceJson service)))]

def reportJson (options : Options) (halves : Options.HalfTexts) (units : List GenerationUnit) :
    Except Failure String := do
  return (Json.list (← units.mapM (unitJson options halves))).render ++ "\n"

end RpcClients.Command
