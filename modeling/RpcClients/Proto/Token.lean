import RpcClients.Proto.Literal
import RpcClients.Text.Blank

/-! # Tokens of schema files

Which words are keywords depends on the place in the file. Where names may stand a whole word is read,
and it is a keyword only if the place has that keyword. Where none may stand the keyword may be
followed by letters at once. -/

namespace RpcClients.Proto

/-- Line and column of a character, both counted from one. -/
structure Position where
  line : Nat := 1
  column : Nat := 1
deriving DecidableEq, Repr

/-- The position behind a character. -/
def Position.after (position : Position) (c : Char) : Position :=
  if c = '\n' then ⟨position.line + 1, 1⟩ else ⟨position.line, position.column + 1⟩

/-! ## Keywords and places -/

inductive Keyword where
  | version | package | importFile | publicImport | weakImport | option | message | optional | repeated
  | required | map | oneof | reserved | extensions | upTo | maximum | extend | enum | service | rpc
  | returns | stream
deriving DecidableEq, Repr

def Keyword.spelling : Keyword → String
  | version => "syntax"
  | package => "package"
  | importFile => "import"
  | publicImport => "public"
  | weakImport => "weak"
  | option => "option"
  | message => "message"
  | optional => "optional"
  | repeated => "repeated"
  | required => "required"
  | map => "map"
  | oneof => "oneof"
  | reserved => "reserved"
  | extensions => "extensions"
  | upTo => "to"
  | maximum => "max"
  | extend => "extend"
  | enum => "enum"
  | service => "service"
  | rpc => "rpc"
  | returns => "returns"
  | stream => "stream"

/-- What may stand at a place: these keywords, names, numbers with a fraction. Whole numbers, quoted
texts and marks are read alike at all places. -/
structure Place where
  keywords : List Keyword := []
  names : Bool := true
  fractions : Bool := false
deriving DecidableEq, Repr

namespace Place

/-- No word but a name. -/
def plain : Place := {}

/-- The value of an option, also after a minus sign. -/
def value : Place := { fractions := true }

def fileKeywords : List Keyword :=
  [.version, .package, .importFile, .option, .message, .enum, .service, .extend]

def labelKeywords : List Keyword := [.optional, .repeated, .required]

def messageKeywords : List Keyword :=
  labelKeywords ++ [.map, .oneof, .message, .enum, .option, .reserved, .extensions, .extend]

def file : Place := { keywords := fileKeywords, names := false }

def message : Place := { keywords := messageKeywords }

def oneof : Place := { keywords := [.option] }

def enum : Place := { keywords := [.option, .reserved] }

def extend : Place := { keywords := labelKeywords }

def service : Place := { keywords := [.rpc, .option], names := false }

def rpc : Place := { keywords := [.option], names := false }

/-- After a message, an enum or an extension, which stand in files and in messages. -/
def afterBlock : Place := { keywords := fileKeywords ++ messageKeywords }

/-- After an option, which stands in all blocks. -/
def afterOption : Place := { keywords := fileKeywords ++ messageKeywords ++ [.rpc] }

def importKind : Place := { keywords := [.publicImport, .weakImport], names := false }

def streamed : Place := { keywords := [.stream] }

def returns : Place := { keywords := [.returns], names := false }

def rangeEnd : Place := { keywords := [.upTo], names := false }

def rangeLimit : Place := { keywords := [.maximum], names := false }

end Place

/-! ## Tokens -/

inductive TokenKind where
  | name
  | keyword (word : Keyword)
  | integer
  | fraction
  | quoted
  | mark (c : Char)
  /-- A quoted text without an end, or a word that may not stand here. -/
  | unreadable
  /-- The end of the file. -/
  | finish
deriving DecidableEq, Repr

structure Token where
  kind : TokenKind
  text : List Char
  start : Position
deriving DecidableEq, Repr

def isNameStart (c : Char) : Bool := c.isAlpha || c = '_'

def isNameChar (c : Char) : Bool := c.isAlphanum || c = '_'

/-- The whole number at the start of the text. -/
def integerText : List Char → List Char
  | '0' :: x :: rest =>
    if (x = 'x' || x = 'X') && rest.head?.any isHexDigit then '0' :: x :: rest.takeWhile isHexDigit
    else '0' :: (x :: rest).takeWhile Char.isDigit
  | text => text.takeWhile Char.isDigit

/-- The exponent at the start of the text, empty if there is none. -/
def exponentText : List Char → List Char
  | [] => []
  | e :: rest =>
    if e = 'e' ∨ e = 'E' then
      let sign := rest.head?.toList.filter fun c => c = '+' || c = '-'
      let digits := (rest.drop sign.length).takeWhile Char.isDigit
      if digits.isEmpty then [] else e :: sign ++ digits
    else []

/-- The number with a fraction or an exponent at the start of the text. -/
def fractionText? (text : List Char) : Option (List Char) :=
  let whole := text.takeWhile Char.isDigit
  match text.drop whole.length with
  | '.' :: rest =>
    let digits := rest.takeWhile Char.isDigit
    some (whole ++ '.' :: digits ++ exponentText (rest.drop digits.length))
  | rest =>
    match exponentText rest with
    | [] => none
    | exponent => some (whole ++ exponent)

/-- The rest of a quoted text up to its closing quote. It stands on one line. -/
def quotedText? (quote : Char) : List Char → Option (List Char)
  | [] => none
  | '\\' :: c :: rest => if c = '\n' then none else (quotedText? quote rest).map ('\\' :: c :: ·)
  | c :: rest =>
    if c = quote then some [c]
    else if c = '\n' ∨ c = '\\' then none
    else (quotedText? quote rest).map (c :: ·)

/-- Kind and text of the word at the start of the text. -/
def readWord (place : Place) (text : List Char) : TokenKind × List Char :=
  if place.names then
    let word := text.takeWhile isNameChar
    match place.keywords.find? (·.spelling.toList = word) with
    | some keyword => (.keyword keyword, word)
    | none => (.name, word)
  else
    match place.keywords.find? (·.spelling.toList.isPrefixOf text) with
    | some keyword => (.keyword keyword, keyword.spelling.toList)
    | none => (.unreadable, [])

/-- Kind and text of the number at the start of the text. -/
def readNumber (place : Place) (text : List Char) : TokenKind × List Char :=
  match if place.fractions then fractionText? text else none with
  | some fraction => (.fraction, fraction)
  | none => (.integer, integerText text)

/-- Kind and text of the token at the start of the text, which holds no blank or comment there. -/
def readToken (place : Place) : List Char → TokenKind × List Char
  | [] => (.finish, [])
  | c :: rest =>
    if isNameStart c then readWord place (c :: rest)
    else if c.isDigit then readNumber place (c :: rest)
    else if c = '"' ∨ c = '\'' then
      match quotedText? c rest with
      | some text => (.quoted, c :: text)
      | none => (.unreadable, [])
    else (.mark c, [c])

/-! ## Blanks and comments -/

structure Comment where
  /-- Between `/*` and `*/`, else from `//` to the end of the line. -/
  block : Bool
  /-- What stands between the comment marks. -/
  text : List Char
  firstLine : Nat
  lastLine : Nat
  /-- Nothing but blanks stands before it on its line. -/
  ownLine : Bool
deriving DecidableEq, Repr

def isSpace (c : Char) : Bool := c = ' ' || c = '\t' || c = '\x0c' || c = '\r' || c = '\n'

/-- What stands before the end of a comment block, `none` if it has none. -/
def blockText? : List Char → Option (List Char)
  | [] => none
  | '*' :: '/' :: _ => some []
  | c :: rest => (blockText? rest).map (c :: ·)

/-- The comment at the start of the text: whether it is a block, and what stands between its marks. -/
def commentAt? : List Char → Option (Bool × List Char)
  | '/' :: '/' :: rest => some (false, rest.takeWhile (· ≠ '\n'))
  | '/' :: '*' :: rest => (blockText? rest).map (true, ·)
  | _ => none

/-- How many characters a comment takes. -/
def commentLength : Bool × List Char → Nat
  | (true, text) => text.length + 4
  | (false, text) => text.length + 2

/-- A point in the text of a file: what is left, where it is, whether only blanks stand before it on
its line, and the comments before it, the last one first. -/
structure Cursor where
  rest : List Char
  position : Position := {}
  atMargin : Bool := true
  comments : List Comment := []
deriving DecidableEq, Repr

/-- Whether only blanks stand on a line up to and with `c`. -/
def marginAfter (atMargin : Bool) (c : Char) : Bool := c = '\n' || (atMargin && Text.isBlank c)

/-- Goes behind the blanks and comments at the start of the text. `pending` characters belong to a
comment that has been read already. -/
def skipBlanks (pending : Nat) (position : Position) (atMargin : Bool) (comments : List Comment) :
    List Char → Cursor
  | [] => ⟨[], position, atMargin, comments⟩
  | c :: rest =>
    match pending with
    | pending + 1 => skipBlanks pending (position.after c) (marginAfter atMargin c) comments rest
    | 0 =>
      if isSpace c then skipBlanks 0 (position.after c) (marginAfter atMargin c) comments rest
      else
        match commentAt? (c :: rest) with
        | none => ⟨c :: rest, position, atMargin, comments⟩
        | some comment =>
          skipBlanks (commentLength comment - 1) (position.after c) (marginAfter atMargin c)
            ({ block := comment.1, text := comment.2, ownLine := atMargin, firstLine := position.line
               lastLine := position.line + comment.2.count '\n' } :: comments) rest

/-- Goes behind the blanks and comments at the cursor. -/
def Cursor.skipBlanks (cursor : Cursor) : Cursor :=
  Proto.skipBlanks 0 cursor.position cursor.atMargin cursor.comments cursor.rest

/-- Goes behind a text that stands at the cursor. -/
def Cursor.skip (cursor : Cursor) (text : List Char) : Cursor :=
  { cursor with
    rest := cursor.rest.drop text.length
    position := text.foldl Position.after cursor.position
    atMargin := text.foldl marginAfter cursor.atMargin }

end RpcClients.Proto
