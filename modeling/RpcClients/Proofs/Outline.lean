import RpcClients.Proofs.TokenEnds
import RpcClients.Proto.Describe

/-! # Outlines of schema files

An outline is what a schema file says, apart from how it is laid out. It is written as a list of lexemes,
between which any blanks may stand, and it says by itself which descriptor the file has. -/

namespace RpcClients.Proto

open Schema

/-! ## Words, texts and numbers -/

/-- A word that is no keyword at any place. -/
structure Identifier where
  text : String
  starts : text.toList.head?.any isNameStart = true := by decide
  goesOn : text.toList.all isNameChar = true := by decide
  free : ∀ keyword : Keyword, keyword.spelling ≠ text := by intro keyword; cases keyword <;> decide

/-- A text that needs no escapes between quotes. -/
structure PlainText where
  text : String
  plain : text.toList.all (fun c => c ≠ '"' && c ≠ '\'' && c ≠ '\\' && c ≠ '\n') = true := by decide

structure FieldNumber where
  value : Nat
  small : (value : Int) ≤ maxInt32 := by decide

structure EnumNumber where
  value : Int
  small : minInt32 ≤ value ∧ value ≤ maxInt32 := by decide

/-! ## Outlines -/

namespace Outline

/-- Names with dots between them. -/
structure Path where
  first : Identifier
  more : List Identifier := []

/-- The names behind the first one, each with its dot. -/
def dotted : List Identifier → String
  | [] => ""
  | name :: rest => "." ++ name.text ++ dotted rest

def Path.text (path : Path) : String := path.first.text ++ dotted path.more

/-- The name of a type, absolute if a dot stands before it. -/
structure Reference where
  absolute : Bool := false
  path : Path

def Reference.text (reference : Reference) : String :=
  if reference.absolute then "." ++ reference.path.text else reference.path.text

inductive FieldType where
  | scalar (type : Scalar)
  | named (reference : Reference)
    (unscalar : reference.absolute = true ∨ Scalar.ofName? reference.path.text = none := by decide)

structure Field where
  type : FieldType
  name : Identifier
  number : FieldNumber

/-- A scalar that a map key may be. -/
structure MapKey where
  type : Scalar
  legal : type ≠ .double ∧ type ≠ .float ∧ type ≠ .bytes := by decide

structure MapField where
  key : MapKey
  value : FieldType
  name : Identifier
  number : FieldNumber

structure Enum where
  name : Identifier
  values : List (Identifier × EnumNumber)

inductive Item where
  | field (label : Option Label) (field : Field)
  | map (map : MapField)
  | oneof (name : Identifier) (fields : List Field)
  | message (name : Identifier) (items : List Item)
  | enum (enum : Enum)

/-- The type of a request or response, and whether it is a stream. -/
structure Payload where
  streaming : Bool := false
  type : Reference

structure Rpc where
  name : Identifier
  input : Payload
  output : Payload

structure Service where
  name : Identifier
  rpcs : List Rpc

inductive Statement where
  | package (path : Path)
  | importFile (kind : ImportKind) (file : PlainText)
  | goPackage (value : PlainText)
  | message (name : Identifier) (items : List Item)
  | enum (enum : Enum)
  | service (service : Service)

inductive Language where
  | proto2 | proto3
deriving DecidableEq

def Language.text : Language → PlainText
  | proto2 => { text := "proto2" }
  | proto3 => { text := "proto3" }

/-! What statements of each kind say, in order. -/

def packagesOf (statements : List Statement) : List Path :=
  statements.filterMap fun | .package path => some path | _ => none

def importsOf (statements : List Statement) : List (ImportKind × PlainText) :=
  statements.filterMap fun | .importFile kind file => some (kind, file) | _ => none

def goPackagesOf (statements : List Statement) : List PlainText :=
  statements.filterMap fun | .goPackage value => some value | _ => none

def messagesOf (statements : List Statement) : List (Identifier × List Item) :=
  statements.filterMap fun | .message name items => some (name, items) | _ => none

def enumsOf (statements : List Statement) : List Enum :=
  statements.filterMap fun | .enum enum => some enum | _ => none

def servicesOf (statements : List Statement) : List Service :=
  statements.filterMap fun | .service service => some service | _ => none

mutual

/-- A field of the item, or of a message in it, is required. -/
def Item.hasRequired : Item → Bool
  | .field label _ => label = some .required
  | .message _ items => anyRequired items
  | _ => false

def anyRequired : List Item → Bool
  | [] => false
  | item :: rest => item.hasRequired || anyRequired rest

end

end Outline

open Outline in
/-- A file: its language, if it says so, and its statements. It has one package at most, and no required
field where the language has none. -/
structure Outline where
  language : Option Language
  statements : List Outline.Statement
  onePackage : (packagesOf statements).length ≤ 1 := by decide
  unrequired : language = some .proto3 → (messagesOf statements).all (!anyRequired ·.2) = true := by decide

/-! ## Lexemes -/

/-- The marks that outlines are written with. -/
def marks : List Char := ['=', ';', '\x7b', '\x7d', '<', '>', ',', '(', ')', '.', '-']

inductive Lexeme where
  | keyword (word : Keyword)
  | name (name : Identifier)
  | number (value : Nat)
  | quoted (text : PlainText)
  | mark (c : Char) (known : c ∈ marks := by decide)

/-- The text spells the lexeme. Either quote may stand around a text. -/
def Lexeme.Spells : Lexeme → List Char → Prop
  | keyword word, text => text = word.spelling.toList
  | name identifier, text => text = identifier.text.toList
  | number value, text => text = Nat.toDigits 10 value
  | quoted plain, text => ∃ quote, (quote = '"' ∨ quote = '\'') ∧ text = quote :: (plain.text.toList ++ [quote])
  | mark c _, text => text = [c]

/-- The text does not go on with the lexeme before it. -/
def Lexeme.Apart (lexeme : Lexeme) (text : List Char) : Prop :=
  match lexeme with
  | keyword _ | name _ => Past isNameChar text
  | number _ => Stopped text
  | quoted _ | mark _ _ => True

/-- The text spells the lexemes, with blanks before, between and behind them. -/
inductive Written : List Lexeme → List Char → Prop where
  | finish {blanks : List Char} (hblanks : blanks.all isSpace = true) : Written [] blanks
  | step {blanks spelling rest : List Char} {lexeme : Lexeme} {lexemes : List Lexeme}
    (hblanks : blanks.all isSpace = true) (hlexeme : lexeme.Spells spelling) (hapart : lexeme.Apart rest)
    (h : Written lexemes rest) : Written (lexeme :: lexemes) (blanks ++ spelling ++ rest)

/-- The lexeme as it is printed. -/
def Lexeme.spelling : Lexeme → List Char
  | keyword word => word.spelling.toList
  | name identifier => identifier.text.toList
  | number value => Nat.toDigits 10 value
  | quoted plain => '"' :: (plain.text.toList ++ ['"'])
  | mark c _ => [c]

def Lexeme.printed (lexemes : List Lexeme) : List Char := lexemes.flatMap fun lexeme => lexeme.spelling ++ [' ']

theorem Lexeme.spells_spelling (lexeme : Lexeme) : lexeme.Spells lexeme.spelling := by
  cases lexeme with
  | quoted plain => exact ⟨'"', Or.inl rfl, rfl⟩
  | _ => rfl

theorem Lexeme.apart_space (lexeme : Lexeme) (text : List Char) : lexeme.Apart (' ' :: text) := by
  have hname : Past isNameChar (' ' :: text) := by
    rintro c ⟨⟩
    decide
  have hnumber : Stopped (' ' :: text) := by
    rintro c ⟨⟩
    decide
  cases lexeme with
  | keyword => exact hname
  | name => exact hname
  | number => exact hnumber
  | quoted => trivial
  | mark => trivial

namespace Outline

/-! ## How outlines are written -/

/-- The name of a scalar is free for types. -/
def scalarName (type : Scalar) : Identifier where
  text := type.name
  starts := by cases type <;> decide
  goesOn := by cases type <;> decide
  free := by
    intro keyword
    cases type <;> cases keyword <;> decide

def dottedLexemes (names : List Identifier) : List Lexeme := names.flatMap fun name => [.mark '.', .name name]

def Path.lexemes (path : Path) : List Lexeme := .name path.first :: dottedLexemes path.more

def Reference.lexemes (reference : Reference) : List Lexeme :=
  (if reference.absolute then [.mark '.'] else []) ++ reference.path.lexemes

def FieldType.lexemes : FieldType → List Lexeme
  | scalar type => [.name (scalarName type)]
  | named reference _ => reference.lexemes

def Field.lexemes (field : Field) : List Lexeme :=
  field.type.lexemes ++ [.name field.name, .mark '=', .number field.number.value, .mark ';']

def labelKeyword : Label → Keyword
  | .optional => .optional
  | .required => .required
  | .repeated => .repeated

def labelLexemes (label : Option Label) : List Lexeme := label.toList.map fun label => .keyword (labelKeyword label)

def MapField.lexemes (map : MapField) : List Lexeme :=
  [.mark '<', .name (scalarName map.key.type), .mark ','] ++ map.value.lexemes ++
    [.mark '>', .name map.name, .mark '=', .number map.number.value, .mark ';']

def EnumNumber.lexemes (number : EnumNumber) : List Lexeme :=
  (if number.value < 0 then [.mark '-'] else []) ++ [.number number.value.natAbs]

def valueLexemes (value : Identifier × EnumNumber) : List Lexeme :=
  [.name value.1, .mark '='] ++ EnumNumber.lexemes value.2 ++ [.mark ';']

def Enum.lexemes (enum : Enum) : List Lexeme :=
  [.name enum.name, .mark '\x7b'] ++ enum.values.flatMap valueLexemes ++ [.mark '\x7d']

mutual

def Item.lexemes : Item → List Lexeme
  | .field label decl => labelLexemes label ++ decl.lexemes
  | .map decl => .keyword .map :: decl.lexemes
  | .oneof name fields =>
    [.keyword .oneof, .name name, .mark '\x7b'] ++ fields.flatMap Field.lexemes ++ [.mark '\x7d']
  | .message name items => [.keyword .message, .name name, .mark '\x7b'] ++ itemLexemes items ++ [.mark '\x7d']
  | .enum decl => .keyword .enum :: decl.lexemes

def itemLexemes : List Item → List Lexeme
  | [] => []
  | item :: rest => item.lexemes ++ itemLexemes rest

end

def Payload.lexemes (payload : Payload) : List Lexeme :=
  .mark '(' :: ((if payload.streaming then [.keyword .stream] else []) ++ payload.type.lexemes ++ [.mark ')'])

def Rpc.lexemes (rpc : Rpc) : List Lexeme :=
  .name rpc.name :: (rpc.input.lexemes ++ .keyword .returns :: (rpc.output.lexemes ++ [.mark ';']))

def Service.lexemes (service : Service) : List Lexeme :=
  [.name service.name, .mark '\x7b'] ++ (service.rpcs.flatMap fun rpc => .keyword .rpc :: rpc.lexemes) ++ [.mark '\x7d']

def importKeywords : ImportKind → List Keyword
  | .plain => []
  | .publicly => [.publicImport]
  | .weakly => [.weakImport]

def goPackageName : Identifier := { text := "go_package" }

def Statement.lexemes : Statement → List Lexeme
  | .package path => .keyword .package :: (path.lexemes ++ [.mark ';'])
  | .importFile kind file => .keyword .importFile :: ((importKeywords kind).map .keyword ++ [.quoted file, .mark ';'])
  | .goPackage value => [.keyword .option, .name goPackageName, .mark '=', .quoted value, .mark ';']
  | .message name items => [.keyword .message, .name name, .mark '\x7b'] ++ itemLexemes items ++ [.mark '\x7d']
  | .enum decl => .keyword .enum :: decl.lexemes
  | .service decl => .keyword .service :: decl.lexemes

def Language.lexemes (language : Language) : List Lexeme :=
  [.keyword .version, .mark '=', .quoted language.text, .mark ';']

def lexemes (outline : Outline) : List Lexeme :=
  outline.language.toList.flatMap Language.lexemes ++ outline.statements.flatMap Statement.lexemes

def print (outline : Outline) : String := String.ofList (Lexeme.printed outline.lexemes)

/-! ## The descriptors of outlines -/

def FieldType.code : FieldType → Option TypeCode
  | scalar type => some (.scalar type)
  | named _ _ => none

def FieldType.name : FieldType → String
  | scalar _ => ""
  | named reference _ => reference.text

def Field.descriptor (field : Field) : FieldDescriptor where
  name := field.name.text
  number := field.number.value
  type := field.type.code
  typeName := field.type.name
  jsonName := Naming.jsonName field.name.text

def labelled (label : Option Label) (proto3 : Bool) (field : FieldDescriptor) : FieldDescriptor :=
  { field with
    label := (label.map Label.described).getD .optional
    proto3Optional := label = some .optional && proto3 }

def MapField.entryName (map : MapField) : String := Naming.camelCase map.name.text ++ "Entry"

def MapField.keyField (map : MapField) : Field := ⟨.scalar map.key.type, { text := "key" }, { value := 1 }⟩

def MapField.valueField (map : MapField) : Field := ⟨map.value, { text := "value" }, { value := 2 }⟩

/-- The message that holds an entry of the map. -/
def MapField.entry (map : MapField) : MessageDescriptor where
  name := map.entryName
  fields := [map.keyField.descriptor, map.valueField.descriptor]
  mapEntry := true

def MapField.descriptor (map : MapField) : FieldDescriptor where
  name := map.name.text
  number := map.number.value
  label := .repeated
  type := some .message
  typeName := map.entryName
  jsonName := Naming.jsonName map.name.text

def Enum.descriptor (enum : Enum) : EnumDescriptor where
  name := enum.name.text
  values := enum.values.map fun value => (value.1.text, value.2.value)

/-- The fields of an item that has `index` oneofs before it. -/
def Item.fields (proto3 : Bool) (index : Nat) : Item → List FieldDescriptor
  | .field label decl => [labelled label proto3 decl.descriptor]
  | .map decl => [decl.descriptor]
  | .oneof _ fields => fields.map fun field => { field.descriptor with oneofIndex := some index }
  | _ => []

def Item.oneofs : Item → List String
  | .oneof name _ => [name.text]
  | _ => []

def Item.enums : Item → List EnumDescriptor
  | .enum decl => [decl.descriptor]
  | _ => []

def fields (proto3 : Bool) (index : Nat) : List Item → List FieldDescriptor
  | [] => []
  | item :: rest => item.fields proto3 index ++ fields proto3 (index + item.oneofs.length) rest

mutual

/-- The messages that an item puts into its message: itself, or the entries of its map. -/
def Item.nested (proto3 : Bool) : Item → List MessageDescriptor
  | .map decl => [decl.entry]
  | .message name items =>
    [{ name := name.text
       fields := fields proto3 0 items
       nested := nested proto3 items
       enums := items.flatMap Item.enums
       oneofs := items.flatMap Item.oneofs }]
  | _ => []

def nested (proto3 : Bool) : List Item → List MessageDescriptor
  | [] => []
  | item :: rest => item.nested proto3 ++ nested proto3 rest

end

def message (proto3 : Bool) (name : Identifier) (items : List Item) : MessageDescriptor where
  name := name.text
  fields := fields proto3 0 items
  nested := nested proto3 items
  enums := items.flatMap Item.enums
  oneofs := items.flatMap Item.oneofs

def Rpc.descriptor (rpc : Rpc) : MethodDescriptor where
  name := rpc.name.text
  inputType := rpc.input.type.text
  outputType := rpc.output.type.text
  clientStreaming := rpc.input.streaming
  serverStreaming := rpc.output.streaming

def Service.descriptor (service : Service) : ServiceDescriptor where
  name := service.name.text
  methods := service.rpcs.map Rpc.descriptor

/-- Where a kind of import stands among all imports, of which there are `index` before. -/
def indexes (kind : ImportKind) : (index : Nat) → List ImportKind → List Int
  | _, [] => []
  | index, first :: rest =>
    if first = kind then (index : Int) :: indexes kind (index + 1) rest else indexes kind (index + 1) rest

def proto3 (outline : Outline) : Bool := outline.language = some .proto3

def messages (outline : Outline) : List MessageDescriptor :=
  (messagesOf outline.statements).map fun decl => message outline.proto3 decl.1 decl.2

/-- The descriptor of the file if it has the given name. -/
def descriptor (outline : Outline) (name : String) : FileDescriptor where
  name := name
  version := (outline.language.getD .proto2).text.text
  package := ((packagesOf outline.statements).head?.map Path.text).getD ""
  dependencies := (importsOf outline.statements).map (·.2.text)
  publicDependencies := indexes .publicly 0 ((importsOf outline.statements).map (·.1))
  weakDependencies := indexes .weakly 0 ((importsOf outline.statements).map (·.1))
  messages := outline.messages
  enums := (enumsOf outline.statements).map Enum.descriptor
  services := (servicesOf outline.statements).map Service.descriptor
  options := { goPackage := (goPackagesOf outline.statements).getLast?.map (·.text) }
  locations := []

end Outline

theorem Written.space {lexemes : List Lexeme} {text : List Char} (h : Written lexemes text) :
    Written lexemes (' ' :: text) := by
  cases h with
  | finish hblanks => exact .finish (by rw [List.all_cons, hblanks]; rfl)
  | @step blanks spelling rest _ _ hblanks hlexeme hapart hrest =>
    exact @Written.step (' ' :: blanks) spelling rest _ _ (by rw [List.all_cons, hblanks]; rfl) hlexeme hapart hrest

theorem written_printed (lexemes : List Lexeme) : Written lexemes (Lexeme.printed lexemes) := by
  induction lexemes with
  | nil => exact .finish rfl
  | cons lexeme lexemes ih =>
    have hprinted : Lexeme.printed (lexeme :: lexemes) = [] ++ lexeme.spelling ++ ' ' :: Lexeme.printed lexemes := by
      simp [Lexeme.printed]
    rw [hprinted]
    exact .step rfl lexeme.spells_spelling (lexeme.apart_space _) ih.space

end RpcClients.Proto
