import RpcClients.Text.Blank

/-! # Indentation by bracket depth

A line is indented by the brackets open before it, less those it closes at its start. Brackets in
string literals and comments do not count. -/

namespace RpcClients.Indentation

/-- Where the reader of a line stands. -/
inductive Mode where
  | code
  | quoted
  /-- After a backslash between quotes. -/
  | escaped
  /-- Between backquotes. -/
  | raw

/-- Whether a quoted literal that has just been opened is closed on the line. -/
def closes : List Char → Bool
  | [] => false
  | '"' :: _ => true
  | '\\' :: c :: rest => c != '\n' && closes rest
  | ['\\'] => false
  | _ :: rest => closes rest

/-- The line with every closed string literal emptied. -/
def emptied : Mode → List Char → List Char
  | _, [] => []
  | .code, c :: rest =>
    if c = '"' && closes rest then '"' :: '"' :: emptied .quoted rest
    else if c = '\x60' && rest.contains '\x60' then '"' :: '"' :: emptied .raw rest
    else c :: emptied .code rest
  | .quoted, c :: rest =>
    if c = '"' then emptied .code rest
    else if c = '\\' then emptied .escaped rest
    else emptied .quoted rest
  | .escaped, _ :: rest => emptied .quoted rest
  | .raw, c :: rest => if c = '\x60' then emptied .code rest else emptied .raw rest

/-- The line up to a comment. -/
def uncommented : List Char → List Char
  | [] => []
  | '/' :: '/' :: _ => []
  | c :: rest => c :: uncommented rest

/-- What of a line counts as code. -/
def code (line : List Char) : List Char := uncommented (emptied .code line)

def isOpener (c : Char) : Bool := c = '(' || c = '\x7b' || c = '['

def isCloser (c : Char) : Bool := c = ')' || c = '\x7d' || c = ']'

/-- The depth after a line with the given code. It does not fall below zero. -/
def depthAfter (depth : Nat) (code : List Char) : Nat :=
  depth + code.countP isOpener - code.countP isCloser

/-- The depth at which a line with the given code is printed. -/
def depthOf (depth : Nat) (code : List Char) : Nat := depth - (code.takeWhile isCloser).length

/-- The indentation of a depth. -/
def margin (indent : List Char) (depth : Nat) : List Char := (List.replicate depth indent).flatten

/-- The lines from a given depth on. -/
def indentFrom (indent : List Char) (depth : Nat) : List (List Char) → List (List Char)
  | [] => []
  | line :: rest =>
    let line := Text.trimmed line
    if line.isEmpty then [] :: indentFrom indent depth rest
    else if ['/', '/'].isPrefixOf line then
      (margin indent depth ++ line) :: indentFrom indent depth rest
    else
      let code := code line
      (margin indent (depthOf depth code) ++ line) :: indentFrom indent (depthAfter depth code) rest

/-- The lines, trimmed and indented. -/
def indentLines (lines : List String) (indent : String := "\t") : List String :=
  (indentFrom indent.toList 0 (lines.map String.toList)).map String.ofList

end RpcClients.Indentation
