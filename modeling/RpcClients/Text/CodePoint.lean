import RpcClients.Text.Quoted

/-! # Code points

An escape may name half of a surrogate pair, which is a code point but no character. A text that was
written with escapes is therefore a list of code points first. -/

namespace RpcClients.Text

/-- Half of a surrogate pair. -/
def isHalf (code : Nat) : Bool := 0xD800 ≤ code && code ≤ 0xDFFF

def codes (s : String) : List Nat := s.toList.map Char.toNat

/-- The text of code points, `none` if one is half of a surrogate pair. -/
def ofCodes? (codes : List Nat) : Option String :=
  if codes.any isHalf then none else some (String.ofList (codes.map Char.ofNat))

/-- The text of code points, in which halves of surrogate pairs are shown as escapes. -/
def shownCodes (codes : List Nat) : String :=
  String.ofList (codes.flatMap fun code =>
    if isHalf code then '\\' :: 'u' :: hexDigits 4 code else [Char.ofNat code])

end RpcClients.Text
