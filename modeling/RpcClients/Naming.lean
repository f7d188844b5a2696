import RpcClients.Text.Blank
import RpcClients.Text.Letter
import RpcClients.Text.LetterCase
import RpcClients.Text.SlashPath

/-! # Go names

How schema names become Go names, and import paths package names. -/

namespace RpcClients.Naming

open Text

def keywords : List String :=
  ["break", "case", "chan", "const", "continue", "default", "defer", "else", "fallthrough", "for",
   "func", "go", "goto", "if", "import", "interface", "map", "package", "range", "return", "select",
   "struct", "switch", "type", "var"]

/-- The identifiers of Go's universe block. -/
def predeclared : List String :=
  ["any", "append", "bool", "byte", "cap", "clear", "close", "comparable", "complex", "complex128",
   "complex64", "copy", "delete", "error", "false", "float32", "float64", "imag", "int", "int16",
   "int32", "int64", "int8", "iota", "len", "make", "max", "min", "new", "nil", "panic", "print",
   "println", "real", "recover", "rune", "string", "true", "uint", "uint16", "uint32", "uint64",
   "uint8", "uintptr"]

/-! ## Camel case -/

/-- A letter after one of these starts a word of its own. -/
def startsWord : Option Char → Bool
  | none => true
  | some c => c = '.' || c = '_' || c.isDigit

/-- What `c` becomes between the characters before and after it. A dot or underscore goes if a lower
case letter follows, an underscore at the start of a component becomes an `X`, and a lower case letter
that starts a word is raised. -/
def camelChar (before : Option Char) (c : Char) (after : Option Char) : List Char :=
  if c = '.' then if after.any Char.isLower then [] else ['_']
  else if c = '_' then
    if before = none ∨ before = some '.' then ['X']
    else if after.any Char.isLower then [] else ['_']
  else if c.isLower && startsWord before then [c.toUpper]
  else [c]

def camelFrom (before : Option Char) : List Char → List Char
  | [] => []
  | c :: rest => camelChar before c rest.head? ++ camelFrom (some c) rest

/-- The Go name of a schema name: `foo_bar` and `foo.bar` become `FooBar`, `_foo` becomes `XFoo`,
`foo_1` becomes `Foo_1`. -/
def camelCase (name : String) : String := String.ofList (camelFrom none name.toList)

/-- The name with its first letter in lower case. -/
def unexported (name : String) : String :=
  match name.toList with
  | [] => ""
  | c :: rest => String.ofList (lowerCase c ++ rest)

/-- The JSON name of a field: underscores go, and what follows one is raised. -/
def jsonName (name : String) : String :=
  match pieces '_' name.toList with
  | [] => ""
  | head :: rest =>
    String.ofList (head ++ rest.flatMap fun piece =>
      match piece with
      | [] => []
      | c :: others => upperCase c ++ others)

/-! ## Packages -/

/-- The name as a valid Go identifier: other characters become underscores, and an underscore goes in
front of what is empty, a keyword or does not start with a letter. -/
def sanitized (name : String) : String :=
  let cleaned := name.toList.map fun c => if isLetterOrNumber c then c else '_'
  if cleaned.head?.any isLetter && String.ofList cleaned ∉ keywords then String.ofList cleaned
  else String.ofList ('_' :: cleaned)

/-- The package name of an import path that does not give one. -/
def packageNameOf (importPath : String) : String := sanitized (baseName importPath)

end RpcClients.Naming

namespace RpcClients

/-- A Go package: where it is imported from and what it is called. -/
structure GoPackage where
  importPath : String
  name : String
deriving DecidableEq, Repr

/-- The package that a `go_package` option names, as `path;name` or `path` alone. -/
def GoPackage.ofOption (option : String) : GoPackage :=
  let (before, after) := Text.cut ';' option.toList
  let path := String.ofList (Text.trimmed before)
  match after.map Text.trimmed with
  | none | some [] => ⟨path, Naming.packageNameOf path⟩
  | some name => ⟨path, Naming.sanitized (String.ofList name)⟩

end RpcClients
