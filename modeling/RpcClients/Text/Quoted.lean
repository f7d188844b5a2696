import RpcClients.Text.Printable

/-! # Quoted text, as messages show it

Single quotes stand around the text, double quotes where it holds a single quote and no double one.
What cannot be printed is shown by its code point. -/

namespace RpcClients.Text

/-- The `width` lowest hexadecimal digits of `n`. -/
def hexDigits : (width n : Nat) → List Char
  | 0, _ => []
  | width + 1, n => hexDigits width (n / 16) ++ [Nat.digitChar (n % 16)]

/-- One code point inside quotes. -/
def quotedCode (quote code : Nat) : List Char :=
  if code = quote ∨ code = '\\'.toNat then ['\\', Char.ofNat code]
  else if code = '\n'.toNat then ['\\', 'n']
  else if code = '\r'.toNat then ['\\', 'r']
  else if code = '\t'.toNat then ['\\', 't']
  else if isPrintable code then [Char.ofNat code]
  else if code < 0x100 then '\\' :: 'x' :: hexDigits 2 code
  else if code < 0x10000 then '\\' :: 'u' :: hexDigits 4 code
  else '\\' :: 'U' :: hexDigits 8 code

/-- The quote that stands around a text. -/
def quoteFor (codes : List Nat) : Nat :=
  if codes.contains '\''.toNat && !codes.contains '"'.toNat then '"'.toNat else '\''.toNat

def quotedCodes (codes : List Nat) : String :=
  let quote := quoteFor codes
  String.ofList (Char.ofNat quote :: codes.flatMap (quotedCode quote) ++ [Char.ofNat quote])

/-- Bytes between quotes, of which those of ASCII are shown as characters. -/
def quotedBytes (bytes : List UInt8) : String :=
  let codes := bytes.map UInt8.toNat
  let quote := quoteFor codes
  let shown (code : Nat) : List Char :=
    if code < 0x80 then quotedCode quote code else '\\' :: 'x' :: hexDigits 2 code
  String.ofList ('b' :: Char.ofNat quote :: codes.flatMap shown ++ [Char.ofNat quote])

def quoted (s : String) : String := quotedCodes (s.toList.map Char.toNat)

end RpcClients.Text
