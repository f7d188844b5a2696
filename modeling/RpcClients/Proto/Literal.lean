import RpcClients.Text.CharacterName
import RpcClients.Text.CodePoint

/-! # Literals of schema files

A quoted text is decoded in two steps: characters above U+00FF are spelled as escapes, and then all
escapes are replaced. So a backslash before such a character leaves the spelling of that character.
The result is a list of code points, because an escape may name half of a surrogate pair. -/

namespace RpcClients.Proto

def isHexDigit (c : Char) : Bool :=
  c.isDigit || ('a' ≤ c && c ≤ 'f') || ('A' ≤ c && c ≤ 'F')

def isOctalDigit (c : Char) : Bool := '0' ≤ c && c ≤ '7'

def digitValue (c : Char) : Nat :=
  if c.isDigit then c.toNat - '0'.toNat
  else if 'a' ≤ c ∧ c ≤ 'f' then c.toNat - 'a'.toNat + 10
  else c.toNat - 'A'.toNat + 10

/-- The number that digits stand for. -/
def digitsValue (base : Nat) (digits : List Char) : Nat :=
  digits.foldl (fun n c => n * base + digitValue c) 0

/-! ## Numbers -/

/-- The most digits of a decimal number. -/
def maxDigits : Nat := 4300

/-- The number that an integer token stands for, `none` if it has too many decimal digits. -/
def integer? : List Char → Option Nat
  | '0' :: 'x' :: digits | '0' :: 'X' :: digits => some (digitsValue 16 digits)
  | digits => if digits.length ≤ maxDigits then some (digitsValue 10 digits) else none

/-! ## Texts -/

/-- A character as it is up to U+00FF, and above as the escape of its code point. -/
def spelled (c : Char) : List Char :=
  if c.toNat ≤ 0xFF then [c]
  else if c.toNat ≤ 0xFFFF then '\\' :: 'u' :: Text.hexDigits 4 c.toNat
  else '\\' :: 'U' :: Text.hexDigits 8 c.toNat

/-- The code point that exactly `width` hexadecimal digits name. -/
def hexEscape (width : Nat) (text : List Char) : Option (List Nat × Nat) :=
  let digits := (text.take width).takeWhile isHexDigit
  let code := digitsValue 16 digits
  if digits.length = width ∧ code ≤ 0x10FFFF then some ([code], width + 1) else none

/-- The code point of the character whose name stands between braces. -/
def nameEscape (text : List Char) : Option (List Nat × Nat) :=
  match text with
  | '\x7b' :: rest =>
    match Text.cut '\x7d' rest with
    | (_, none) => none
    | (name, some _) => (Text.codeOfName? name).map fun code => ([code], name.length + 3)
  | _ => none

/-- The code points of the escape at the start of the text after a backslash, and how many characters
it takes there. A backslash before any other character stands for itself. -/
def escape : List Char → Option (List Nat × Nat)
  | [] => none
  | c :: rest =>
    match c with
    | '\n' => some ([], 1)
    | '\\' | '\'' | '"' => some ([c.toNat], 1)
    | 'a' => some ([7], 1)
    | 'b' => some ([8], 1)
    | 't' => some ([9], 1)
    | 'n' => some ([10], 1)
    | 'v' => some ([11], 1)
    | 'f' => some ([12], 1)
    | 'r' => some ([13], 1)
    | 'x' => hexEscape 2 rest
    | 'u' => hexEscape 4 rest
    | 'U' => hexEscape 8 rest
    | 'N' => nameEscape rest
    | _ =>
      if isOctalDigit c then
        let digits := c :: (rest.take 2).takeWhile isOctalDigit
        some ([digitsValue 8 digits], digits.length)
      else some (['\\'.toNat, c.toNat], 1)

/-- The code points of a text with escapes, after `skipped` of its characters. -/
def unescape : (skipped : Nat) → List Char → Option (List Nat)
  | _, [] => some []
  | skipped + 1, _ :: rest => unescape skipped rest
  | 0, c :: rest =>
    if c = '\\' then
      match escape rest with
      | none => none
      | some (codes, length) => (unescape length rest).map (codes ++ ·)
    else (unescape 0 rest).map (c.toNat :: ·)

/-- The code points that a quoted text stands for, `none` if an escape is malformed. The first and the
last character are its quotes. -/
def unquote? (token : List Char) : Option (List Nat) :=
  unescape 0 ((token.drop 1).dropLast.flatMap spelled)

end RpcClients.Proto
