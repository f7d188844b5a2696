import RpcClients.Json.Basic

/-! # Writing JSON

Two blanks of indentation a level, and nothing but ASCII: other characters are written as escapes. -/

namespace RpcClients.Json

/-- The escape of a code unit of sixteen bits. -/
def unitEscape (unit : Nat) : List Char := '\\' :: 'u' :: Text.hexDigits 4 unit

def writtenCode (code : Nat) : List Char :=
  if code = '"'.toNat then ['\\', '"']
  else if code = '\\'.toNat then ['\\', '\\']
  else if code = 8 then ['\\', 'b']
  else if code = 9 then ['\\', 't']
  else if code = 10 then ['\\', 'n']
  else if code = 12 then ['\\', 'f']
  else if code = 13 then ['\\', 'r']
  else if 0x20 ≤ code ∧ code < 0x7F then [Char.ofNat code]
  else if code < 0x10000 then unitEscape code
  else unitEscape (0xD800 + (code - 0x10000) / 0x400) ++ unitEscape (0xDC00 + (code - 0x10000) % 0x400)

def writtenText (codes : List Nat) : String :=
  String.ofList ('"' :: codes.flatMap writtenCode ++ ['"'])

/-- A line break and the indentation of a level. -/
def lineBreak (level : Nat) : String := String.ofList ('\n' :: List.replicate (2 * level) ' ')

mutual

/-- A value that starts at the given level. -/
def written (level : Nat) : Json → String
  | .null => "null"
  | .bool true => "true"
  | .bool false => "false"
  | .integer value => toString value
  | .real negative mantissa exponent => Text.Shortest.ofDecimal negative mantissa exponent
  | .infinite negative => if negative then "-Infinity" else "Infinity"
  | .notANumber => "NaN"
  | .text codes => writtenText codes
  | .list [] => "[]"
  | .list items => "[" ++ String.intercalate "," (writtenItems (level + 1) items) ++ lineBreak level ++ "]"
  | .object [] => "\x7b\x7d"
  | .object entries =>
    "\x7b" ++ String.intercalate "," (writtenEntries (level + 1) entries) ++ lineBreak level ++ "\x7d"

def writtenItems (level : Nat) : List Json → List String
  | [] => []
  | item :: rest => (lineBreak level ++ written level item) :: writtenItems level rest

def writtenEntries (level : Nat) : List (List Nat × Json) → List String
  | [] => []
  | (name, value) :: rest =>
    (lineBreak level ++ writtenText name ++ ": " ++ written level value) :: writtenEntries level rest

end

/-- A whole text, without a line break at its end. -/
def render (value : Json) : String := written 0 value

end RpcClients.Json
