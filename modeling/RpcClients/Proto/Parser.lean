import RpcClients.Proto.Declaration

/-! # Reading schema files

A reader stands at a token. Going on names the place that is reached, because that decides how the next
token is read. The first token that no rule allows is where reading fails. -/

namespace RpcClients.Proto

/-- A token, the point behind it, the first fault so far that does not keep the file from being read, and
the tokens before it, the last one first. -/
structure Reader where
  token : Token
  cursor : Cursor
  fault : Option Fault := none
  passed : List Token := []
deriving DecidableEq, Repr

/-- The token at or behind a cursor. The end of the file counts as standing at the last token. -/
def Reader.read (place : Place) (last : Position) (cursor : Cursor)
    (fault : Option Fault) : Reader :=
  let cursor := cursor.skipBlanks
  let (kind, text) := readToken place cursor.rest
  let start := if kind = .finish then last else cursor.position
  { token := ⟨kind, text, start⟩, cursor := cursor.skip text, fault }

def Reader.start (text : List Char) : Reader := Reader.read .file {} { rest := text } none

def Reader.next (reader : Reader) (place : Place) : Reader :=
  { Reader.read place reader.token.start reader.cursor reader.fault with
    passed := reader.token :: reader.passed }

/-- A rule: what it reads, and the reader behind it, or where it fails. -/
abbrev Parser := StateT Reader (Except Position)

namespace Parser

def kind : Parser TokenKind := return (← get).token.kind

def fail {α : Type} : Parser α := do throw (← get).token.start

/-- Goes on to the next token. -/
def skip (place : Place) : Parser Unit := modify (·.next place)

/-- The token at the reader, which must be of a given kind. -/
def take (kind : TokenKind) (place : Place := .plain) : Parser Token := do
  let token := (← get).token
  if token.kind = kind then
    skip place
    return token
  else fail

def takeMark (c : Char) (place : Place := .plain) : Parser Unit := discard (take (.mark c) place)

def takeName (place : Place := .plain) : Parser String :=
  return String.ofList (← take .name place).text

/-- A bound for the number of tokens left. -/
def remaining : Parser Nat := return (← get).cursor.rest.length + 1

/-- Notes a fault, unless there is one already. -/
def note (fault : Fault) : Parser Unit :=
  modify fun reader => { reader with fault := reader.fault.or (some fault) }

/-- The value of a literal. -/
def decode {α : Type} (default : α) : Option α → Parser α
  | some value => return value
  | none => do
    note .badLiteral
    return default

/-- How deep messages, or the values of an option, may be nested. -/
def maxNesting : Nat := 490

/-- Goes into something that is nested `depth` levels deep. -/
def enter (depth : Nat) : Parser Unit :=
  if maxNesting < depth then note .nestedTooDeep else return ()

/-! ## Names and literals -/

def dottedRest : (fuel : Nat) → Parser String
  | 0 => fail
  | fuel + 1 => do
    if (← kind) = .mark '.' then
      skip .plain
      let name ← takeName
      return "." ++ name ++ (← dottedRest fuel)
    else return ""

/-- Names with dots between them. -/
def dottedName : Parser String := do
  let name ← takeName
  return name ++ (← dottedRest (← remaining))

/-- The code points of a quoted text. -/
def quotedText (place : Place := .plain) : Parser (List Nat) := do
  decode [] (unquote? (← take .quoted place).text)

def integer (place : Place := .plain) : Parser Nat := do
  decode 0 (integer? (← take .integer place).text)

def type : Parser TypeRef := do
  if (← kind) = .mark '.' then
    skip .plain
    return ⟨← dottedName, true⟩
  else return ⟨← dottedName, false⟩

/-! ## Options -/

/-- A part of an option's name: a name, or the name of an extension in parentheses. -/
def optionPart : Parser String := do
  if (← kind) = .mark '(' then
    skip .plain
    if (← kind) = .mark '.' then skip .plain
    let name ← dottedName
    takeMark ')'
    return "(" ++ name ++ ")"
  else takeName

def optionParts : (fuel : Nat) → Parser String
  | 0 => fail
  | fuel + 1 => do
    let part ← optionPart
    if (← kind) = .mark '.' then
      skip .plain
      return part ++ "." ++ (← optionParts fuel)
    else return part

def optionName : Parser String := do optionParts (← remaining)

/-- Quoted texts that follow each other are one text. -/
def adjacentTexts : (fuel : Nat) → Parser (List Nat)
  | 0 => fail
  | fuel + 1 => do
    let first ← quotedText
    if (← kind) = .quoted then return first ++ (← adjacentTexts fuel) else return first

/-- What may stand after a minus sign. -/
def negated : Parser Unit := do
  match ← kind with
  | .integer => discard integer
  | .fraction => skip .plain
  | _ => discard dottedName

/-- The name of an entry of an aggregate. That of an extension stands in brackets. -/
def entryName : Parser Unit := do
  if (← kind) = .mark '[' then
    skip .plain
    discard dottedName
    takeMark ']'
  else discard takeName

/-- What may stand between the entries of an aggregate. -/
def separator : Parser Unit := do
  let kind ← kind
  if kind = .mark ',' ∨ kind = .mark ';' then skip .plain

mutual

/-- The value of an option: its code points if it is a text. It is nested `depth` levels deep. -/
def constant (depth : Nat) : (fuel : Nat) → Parser (Option (List Nat))
  | 0 => fail
  | fuel + 1 => do
    match ← kind with
    | .quoted => return some (← adjacentTexts (← remaining))
    | .integer => discard integer; return none
    | .fraction => skip .plain; return none
    | .mark '-' => skip .value; negated; return none
    | .mark '\x7b' => skip .plain; aggregateRest (depth + 1) fuel; return none
    | _ => discard dottedName; return none

/-- The entries of an aggregate up to its end. -/
def aggregateRest (depth : Nat) : (fuel : Nat) → Parser Unit
  | 0 => fail
  | fuel + 1 => do
    enter depth
    if (← kind) = .mark '\x7d' then skip .plain
    else
      entryName
      if (← kind) = .mark '\x7b' then
        skip .plain
        aggregateRest (depth + 1) fuel
      else
        takeMark ':' .value
        if (← kind) = .mark '[' then
          skip .value
          if (← kind) = .mark ']' then skip .plain else listRest (depth + 1) fuel
        else discard (constant depth fuel)
      separator
      aggregateRest depth fuel

/-- The values of a list, of which there is at least one, up to its end. -/
def listRest (depth : Nat) : (fuel : Nat) → Parser Unit
  | 0 => fail
  | fuel + 1 => do
    enter depth
    discard (constant depth fuel)
    if (← kind) = .mark ',' then
      skip .value
      listRest depth fuel
    else takeMark ']'

end

/-- The value of an option. -/
def optionValue : Parser (Option (List Nat)) := do constant 0 (2 * (← remaining))

/-- An option statement after its keyword: the code points of `go_package`, if it sets that. -/
def optionRest : Parser (Option (List Nat)) := do
  let name ← optionName
  takeMark '=' .value
  let value ← optionValue
  takeMark ';' .afterOption
  return if name = "go_package" then value else none

def fieldOptionsRest : (fuel : Nat) → Parser Unit
  | 0 => fail
  | fuel + 1 => do
    discard optionName
    takeMark '=' .value
    discard optionValue
    if (← kind) = .mark ',' then
      skip .plain
      fieldOptionsRest fuel
    else takeMark ']'

/-- The options of a field in brackets, if there are any. -/
def fieldOptions : Parser Unit := do
  if (← kind) = .mark '[' then
    skip .plain
    fieldOptionsRest (← remaining)

/-! ## Messages and enums -/

/-- A field after its label, up to its end. -/
def fieldRest (label : Option Label) (place : Place) : Parser FieldDecl := do
  let type ← type
  let name ← takeName
  takeMark '='
  let number ← integer
  fieldOptions
  takeMark ';' place
  return { label, type, name, number }

/-- A field with or without a label. -/
def field : Parser FieldDecl := do
  let labelled (label : Label) : Parser FieldDecl := do
    skip .plain
    fieldRest (some label) .message
  match ← kind with
  | .keyword .optional => labelled .optional
  | .keyword .required => labelled .required
  | .keyword .repeated => labelled .repeated
  | _ => fieldRest none .message

/-- A map field after its keyword. -/
def mapRest : Parser MapDecl := do
  takeMark '<'
  let key ← takeName
  takeMark ','
  let value ← type
  takeMark '>'
  let name ← takeName
  takeMark '='
  let number ← integer
  fieldOptions
  takeMark ';' .message
  return { key, value, name, number }

def oneofItems : (fuel : Nat) → Parser (List FieldDecl)
  | 0 => fail
  | fuel + 1 => do
    match ← kind with
    | .mark '\x7d' => skip .message; return []
    | .mark ';' => skip .oneof; oneofItems fuel
    | .keyword .option => skip .plain; discard optionRest; oneofItems fuel
    | _ =>
      let field ← fieldRest none .oneof
      return field :: (← oneofItems fuel)

/-- A oneof after its keyword. -/
def oneofRest : Parser MessageItem := do
  let name ← takeName
  takeMark '\x7b' .oneof
  return .oneof name (← oneofItems (← remaining))

/-- A range of numbers, a name or a text. -/
def range : Parser Unit := do
  match ← kind with
  | .integer =>
    skip .rangeEnd
    if (← kind) = .keyword .upTo then
      skip .rangeLimit
      if (← kind) = .keyword .maximum then skip .plain else discard (take .integer)
  | .quoted => skip .plain
  | _ => discard takeName

def ranges : (fuel : Nat) → Parser Unit
  | 0 => fail
  | fuel + 1 => do
    range
    if (← kind) = .mark ',' then
      skip .plain
      ranges fuel

/-- Reserved numbers and names after the keyword. -/
def reservedRest : Parser Unit := do
  ranges (← remaining)
  takeMark ';' .message

/-- Extension numbers after the keyword. -/
def extensionsRest : Parser Unit := do
  ranges (← remaining)
  fieldOptions
  takeMark ';' .message

def extendItems : (fuel : Nat) → Parser Unit
  | 0 => fail
  | fuel + 1 => do
    match ← kind with
    | .mark '\x7d' => skip .afterBlock
    | .mark ';' => skip .extend; extendItems fuel
    | _ => discard field; extendItems fuel

/-- An extension of a message after its keyword. -/
def extendRest : Parser Unit := do
  discard type
  takeMark '\x7b' .extend
  extendItems (← remaining)

def enumValue : Parser (String × Int) := do
  let name ← takeName
  takeMark '='
  let negative := (← kind) = .mark '-'
  if negative then skip .value
  let number : Int := ← integer
  fieldOptions
  takeMark ';' .enum
  return (name, if negative then -number else number)

def enumItems : (fuel : Nat) → Parser (List (String × Int))
  | 0 => fail
  | fuel + 1 => do
    match ← kind with
    | .mark '\x7d' => skip .afterBlock; return []
    | .mark ';' => skip .enum; enumItems fuel
    | .keyword .option => skip .plain; discard optionRest; enumItems fuel
    | .keyword .reserved => skip .plain; reservedRest; enumItems fuel
    | _ =>
      let value ← enumValue
      return value :: (← enumItems fuel)

/-- An enum after its keyword. -/
def enumRest : Parser EnumDecl := do
  let name ← takeName
  takeMark '\x7b' .enum
  return ⟨name, ← enumItems (← remaining)⟩

/-- The items of a message that is nested `depth` levels deep, up to its end. -/
def messageItems (depth : Nat) : (fuel : Nat) → Parser (List MessageItem)
  | 0 => fail
  | fuel + 1 => do
    match ← kind with
    | .mark '\x7d' => skip .afterBlock; return []
    | .mark ';' => skip .message; messageItems depth fuel
    | .keyword .option => skip .plain; discard optionRest; messageItems depth fuel
    | .keyword .reserved => skip .plain; reservedRest; messageItems depth fuel
    | .keyword .extensions => skip .plain; extensionsRest; messageItems depth fuel
    | .keyword .extend => skip .plain; extendRest; messageItems depth fuel
    | .keyword .map =>
      skip .plain
      let map ← mapRest
      return .map map :: (← messageItems depth fuel)
    | .keyword .oneof =>
      skip .plain
      let oneof ← oneofRest
      return oneof :: (← messageItems depth fuel)
    | .keyword .enum =>
      skip .plain
      let enum ← enumRest
      return .enum enum :: (← messageItems depth fuel)
    | .keyword .message =>
      skip .plain
      let name ← takeName
      takeMark '\x7b' .message
      enter (depth + 1)
      let items ← messageItems (depth + 1) fuel
      return .message name items :: (← messageItems depth fuel)
    | _ =>
      let field ← field
      return .field field :: (← messageItems depth fuel)

/-! ## Services -/

def rpcItems : (fuel : Nat) → Parser Unit
  | 0 => fail
  | fuel + 1 => do
    match ← kind with
    | .mark '\x7d' => skip .service
    | .mark ';' => skip .rpc; rpcItems fuel
    | .keyword .option => skip .plain; discard optionRest; rpcItems fuel
    | _ => fail

/-- The type of a request or response in parentheses, and whether it is a stream. -/
def streamable (place : Place) : Parser (Bool × TypeRef) := do
  takeMark '(' .streamed
  let streaming := (← kind) = .keyword .stream
  if streaming then skip .plain
  let type ← type
  takeMark ')' place
  return (streaming, type)

/-- A method after its keyword. -/
def rpcRest : Parser RpcDecl := do
  let name ← take .name
  let (clientStreaming, input) ← streamable .returns
  discard (take (.keyword .returns))
  let (serverStreaming, output) ← streamable .plain
  if (← kind) = .mark '\x7b' then
    skip .rpc
    rpcItems (← remaining)
  else takeMark ';' .service
  return {
    input, output, clientStreaming, serverStreaming
    name := String.ofList name.text
    line := name.start.line }

def serviceItems : (fuel : Nat) → Parser (List RpcDecl)
  | 0 => fail
  | fuel + 1 => do
    match ← kind with
    | .mark '\x7d' => skip .file; return []
    | .mark ';' => skip .service; serviceItems fuel
    | .keyword .option => skip .plain; discard optionRest; serviceItems fuel
    | .keyword .rpc =>
      skip .plain
      let rpc ← rpcRest
      return rpc :: (← serviceItems fuel)
    | _ => fail

/-- A service after its keyword. -/
def serviceRest : Parser ServiceDecl := do
  let name ← take .name
  takeMark '\x7b' .service
  let rpcs ← serviceItems (← remaining)
  return ⟨String.ofList name.text, name.start.line, rpcs⟩

/-! ## Files -/

/-- An import after its keyword. -/
def importRest : Parser Statement := do
  let kind ← match ← kind with
    | .keyword .publicImport => skip .plain; pure .publicly
    | .keyword .weakImport => skip .plain; pure .weakly
    | _ => pure .plain
  let path ← quotedText
  takeMark ';' .file
  return .importFile kind path

/-- The statements of a file up to its end. -/
def statements : (fuel : Nat) → Parser (List Statement)
  | 0 => fail
  | fuel + 1 => do
    match ← kind with
    | .finish => return []
    | .mark ';' => skip .file; statements fuel
    | .keyword .version =>
      skip .plain
      takeMark '='
      let name ← quotedText
      takeMark ';' .file
      return .version name :: (← statements fuel)
    | .keyword .package =>
      skip .plain
      let name ← dottedName
      takeMark ';' .file
      return .package name :: (← statements fuel)
    | .keyword .importFile =>
      skip .importKind
      let statement ← importRest
      return statement :: (← statements fuel)
    | .keyword .option =>
      skip .plain
      match ← optionRest with
      | some value => return .goPackage value :: (← statements fuel)
      | none => statements fuel
    | .keyword .message =>
      skip .plain
      let name ← takeName
      takeMark '\x7b' .message
      let items ← messageItems 1 (← remaining)
      return .message name items :: (← statements fuel)
    | .keyword .enum =>
      skip .plain
      let enum ← enumRest
      return .enum enum :: (← statements fuel)
    | .keyword .service =>
      skip .plain
      let service ← serviceRest
      return .service service :: (← statements fuel)
    | .keyword .extend => skip .plain; extendRest; statements fuel
    | _ => fail

end Parser

/-- The statements, tokens and comments of a text, or where its first error is. -/
def SourceTree.ofText (text : List Char) : Except Position SourceTree := do
  let (statements, reader) ← (Parser.statements (text.length + 1)).run (Reader.start text)
  return {
    statements
    tokens := reader.passed.reverse
    comments := reader.cursor.comments.reverse
    fault := reader.fault }

end RpcClients.Proto
