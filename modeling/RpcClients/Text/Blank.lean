import RpcClients.Text.CodeRange

/-! # Blanks: the characters that are trimmed off both ends of a text -/

namespace RpcClients.Text

/-- The white space of Unicode, and the four separators U+001C to U+001F. -/
def blankRanges : List (Nat × Nat) :=
  [(0x9, 0xD), (0x1C, 0x20), (0x85, 0x85), (0xA0, 0xA0), (0x1680, 0x1680), (0x2000, 0x200A),
   (0x2028, 0x2029), (0x202F, 0x202F), (0x205F, 0x205F), (0x3000, 0x3000)]

def isBlank (c : Char) : Bool := inRanges blankRanges c

/-- A text of blanks only, the empty text included. -/
def allBlank (cs : List Char) : Bool := cs.all isBlank

/-- The text without the blanks at its start. -/
def trimLeft (cs : List Char) : List Char := cs.dropWhile isBlank

/-- The text without the blanks at its end. -/
def trimRight (cs : List Char) : List Char := (cs.reverse.dropWhile isBlank).reverse

/-- The text without the blanks at its two ends. -/
def trimmed (cs : List Char) : List Char := trimRight (trimLeft cs)

end RpcClients.Text
