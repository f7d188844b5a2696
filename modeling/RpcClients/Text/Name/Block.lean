import RpcClients.Text.Name.Frequent

/-! # Blocks of named characters

The names of a block stand in the order of their codes, each with a semicolon after it. A code without a
name has an empty entry. The parts of a name start at its blanks and hyphens. A digit before a name says how
many of its first parts are those of the name before it, and a digit behind a plus sign how many of its last
parts are. These are left out, and so is a blank after the first digit. Lower case letters stand for a
frequent word. An entry of a plus sign and a number stands for that many names that count on from the one
before, and one of a minus sign for that many codes without names. -/

namespace RpcClients.Text.Name

/-- The names of consecutive codes. -/
structure Block where
  first : Nat
  lines : List String
deriving Repr

abbrev Parts := List (List Char)

def isSeparator (c : Char) : Bool := c = ' ' || c = '-'

/-- The parts of a text, each with the separator before it. -/
def parts (text : List Char) : Parts := text.splitBy fun _ next => !isSeparator next

/-- The parts of the frequent word that a part stands for, or the part itself. -/
def fullParts (part : List Char) : Parts :=
  let (separator, word) := part.span isSeparator
  parts (separator ++ (frequentWord? word).getD word)

def digit (c : Char) : Nat := c.toNat - '0'.toNat

/-- A text that comes after other parts. -/
def separated : List Char → List Char
  | [] => []
  | c :: rest => if isSeparator c then c :: rest else ' ' :: c :: rest

/-- What comes next when counting, with the last character first: the number one greater, or the next letter. -/
def countedOn : List Char → List Char
  | [] => []
  | ['9'] => ['0', '1']
  | '9' :: c :: rest => if c.isDigit then '0' :: countedOn (c :: rest) else '0' :: '1' :: c :: rest
  | c :: rest => Char.ofNat (c.toNat + 1) :: rest

/-- The parts of a name that follows the given one. -/
def nextName (before : Parts) : List Char → Parts
  | [] => []
  | ['+'] => before.modify (before.length - 1) fun part => (countedOn part.reverse).reverse
  | first :: rest =>
    let (text, last) := cut '+' rest
    let text := if first = '0' then text else separated text
    let lastCount := (last.getD []).headD '0'
    before.take (digit first) ++ (parts text).flatMap fullParts ++ before.drop (before.length - digit lastCount)

/-- The names of entries with their codes, of which the first has the given code. -/
def namesFrom (code : Nat) (before : Parts) : List (List Char) → List (String × Nat)
  | [] => []
  | [] :: rest => namesFrom (code + 1) before rest
  | entry :: rest =>
    let name := nextName before entry
    (String.ofList name.flatten, code) :: namesFrom (code + 1) name rest

def number (digits : List Char) : Nat := digits.foldl (fun n c => n * 10 + digit c) 0

/-- The entries that one entry stands for. -/
def repeated : List Char → List (List Char)
  | '+' :: count => List.replicate (number count) ['+']
  | '-' :: count => List.replicate (number count) []
  | entry => [entry]

def Block.entries (block : Block) : List (List Char) :=
  block.lines.flatMap fun line => (pieces ';' line.toList).dropLast.flatMap repeated

def Block.names (block : Block) : List (String × Nat) := namesFrom block.first [] block.entries

end RpcClients.Text.Name
