import RpcClients.Text.CodePoint
import RpcClients.Text.Shortest

/-! # JSON values

Objects keep the order of their names. Texts are lists of code points. A number is whole if it has
neither fraction nor exponent, and reals are kept as the decimal that was written. -/

namespace RpcClients

inductive Json where
  | null
  | bool (value : Bool)
  | integer (value : Int)
  | real (negative : Bool) (mantissa : Nat) (exponent : Int)
  | infinite (negative : Bool)
  | notANumber
  | text (codes : List Nat)
  | list (items : List Json)
  | object (entries : List (List Nat × Json))

namespace Json

def ofString (s : String) : Json := .text (Text.codes s)

/-- Sets a name of an object: in place if it is there, else at the end. -/
def put (name : List Nat) (value : Json) : List (List Nat × Json) → List (List Nat × Json)
  | [] => [(name, value)]
  | (other, old) :: rest =>
    if other = name then (name, value) :: rest else (other, old) :: put name value rest

/-- The value of a name of an object. -/
def get? (name : String) : Json → Option Json
  | .object entries => entries.lookup (Text.codes name)
  | _ => none

mutual

/-- The text of a value inside a list or an object, where texts are quoted. -/
def inner : Json → String
  | .null => "None"
  | .bool true => "True"
  | .bool false => "False"
  | .integer value => toString value
  | .real negative mantissa exponent => Text.Shortest.ofDecimal negative mantissa exponent
  | .infinite negative => if negative then "-inf" else "inf"
  | .notANumber => "nan"
  | .text codes => Text.quotedCodes codes
  | .list items => "[" ++ String.intercalate ", " (innerItems items) ++ "]"
  | .object entries => "\x7b" ++ String.intercalate ", " (innerEntries entries) ++ "\x7d"

def innerItems : List Json → List String
  | [] => []
  | item :: rest => inner item :: innerItems rest

def innerEntries : List (List Nat × Json) → List String
  | [] => []
  | (name, value) :: rest => (Text.quotedCodes name ++ ": " ++ inner value) :: innerEntries rest

end

/-- The text that a value stands for where a text is wanted: a text is taken as it is, with escapes for
halves of surrogate pairs. -/
def asText : Json → String
  | .text codes => Text.shownCodes codes
  | other => inner other

end Json

end RpcClients
