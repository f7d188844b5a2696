/-! # Names by rule

Ideographs are named by their codes, and syllables of Hangul by their parts. -/

namespace RpcClients.Text.Name

/-! ## Names with a code -/

def hexDigit? (c : Char) : Option Nat :=
  if '0' ≤ c ∧ c ≤ '9' then some (c.toNat - '0'.toNat)
  else if 'A' ≤ c ∧ c ≤ 'F' then some (c.toNat - 'A'.toNat + 10)
  else none

/-- The number that upper case hexadecimal digits stand for. -/
def hexNumber? (digits : List Char) : Option Nat :=
  digits.foldlM (fun n c => (hexDigit? c).map (n * 16 + ·)) 0

/-- Characters that are all named by a lead and their codes. -/
structure Coded where
  lead : String
  ranges : List (Nat × Nat)
deriving Repr

/-- The ideographs of all East Asian languages. -/
def unified : Coded where
  lead := "CJK UNIFIED IDEOGRAPH-"
  ranges :=
    [(0x3400, 0x4DBF), (0x4E00, 0x9FFF), (0x20000, 0x2A6DF), (0x2A700, 0x2B738),
     (0x2B740, 0x2B81D), (0x2B820, 0x2CEA1), (0x2CEB0, 0x2EBE0), (0x30000, 0x3134A)]

/-- Characters in the order of other standards, and those of two rare scripts. -/
def otherCoded : List Coded :=
  [⟨"CJK COMPATIBILITY IDEOGRAPH-", [(0xF900, 0xFA6D), (0xFA70, 0xFAD9), (0x2F800, 0x2FA1D)]⟩,
   ⟨"KHITAN SMALL SCRIPT CHARACTER-", [(0x18B00, 0x18CD5)]⟩,
   ⟨"NUSHU CHARACTER-", [(0x1B170, 0x1B2FB)]⟩]

def Coded.holds (coded : Coded) (code : Nat) : Bool :=
  coded.ranges.any fun r => r.1 ≤ code && code ≤ r.2

/-- The code that stands after the lead. -/
def Coded.codeOf? (coded : Coded) (name : List Char) : Option Nat := do
  guard (coded.lead.toList.isPrefixOf name)
  let code ← hexNumber? (name.drop coded.lead.length)
  guard (coded.holds code)
  return code

/-- The digits after the lead. -/
def Coded.digits (coded : Coded) (name : List Char) : Nat := name.length - coded.lead.length

/-- An ideograph. Its code has four or five digits, with a zero before them or not. -/
def unified? (name : List Char) : Option Nat := do
  guard (unified.digits name = 4 ∨ unified.digits name = 5)
  unified.codeOf? name

/-- Another character that is named by its code, which is written without zeros before it. -/
def otherCoded? (name : List Char) : Option Nat :=
  otherCoded.findSome? fun coded => do
    let code ← coded.codeOf? name
    guard (coded.digits name = if code < 0x10000 then 4 else 5)
    return code

/-! ## Syllables -/

def leadingParts : List String :=
  ["G", "GG", "N", "D", "DD", "R", "M", "B", "BB", "S", "SS", "", "J", "JJ", "C", "K", "T", "P", "H"]

def vowelParts : List String :=
  ["A", "AE", "YA", "YAE", "EO", "E", "YEO", "YE", "O", "WA", "WAE", "OE", "YO", "U", "WEO", "WE",
   "WI", "YU", "EU", "YI", "I"]

def trailingParts : List String :=
  ["", "G", "GG", "GS", "N", "NJ", "NH", "D", "L", "LG", "LM", "LB", "LS", "LT", "LP", "LH", "M", "B",
   "BS", "S", "SS", "NG", "J", "C", "K", "T", "P", "H"]

/-- The place of the longest part that a text starts with, and what follows it. -/
def longestPart? (parts : List String) (text : List Char) : Option (Nat × List Char) :=
  let fitting := parts.zipIdx.filter fun (part, _) => part.toList.isPrefixOf text
  (fitting.foldl (fun best candidate =>
    match best with
    | none => some candidate
    | some found => if found.1.length < candidate.1.length then some candidate else some found)
    none).map fun (part, index) => (index, text.drop part.length)

def syllableLead : List Char := "HANGUL SYLLABLE ".toList

/-- A syllable of a leading consonant, a vowel and a trailing consonant. -/
def syllable? (name : List Char) : Option Nat := do
  guard (syllableLead.isPrefixOf name)
  let (leading, rest) ← longestPart? leadingParts (name.drop syllableLead.length)
  let (vowel, rest) ← longestPart? vowelParts rest
  let (trailing, rest) ← longestPart? trailingParts rest
  guard rest.isEmpty
  return 0xAC00 + (leading * vowelParts.length + vowel) * trailingParts.length + trailing

end RpcClients.Text.Name
