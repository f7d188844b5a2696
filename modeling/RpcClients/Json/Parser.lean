import RpcClients.Json.Basic

/-! # Reading JSON

Beside the standard's values, `NaN`, `Infinity` and `-Infinity` are read. The last of equal names of an
object counts. -/

namespace RpcClients.Json

inductive Problem where
  | malformed
  /-- A whole number of more digits than can be read. -/
  | longInteger
  /-- Lists and objects that are nested deeper than can be read. -/
  | tooDeep
deriving DecidableEq, Repr

def skipSpace (cs : List Char) : List Char :=
  cs.dropWhile fun c => c == ' ' || c == '\t' || c == '\n' || c == '\r'

def hexValue? (c : Char) : Option Nat :=
  if '0' ≤ c ∧ c ≤ '9' then some (c.toNat - '0'.toNat)
  else if 'a' ≤ c ∧ c ≤ 'f' then some (c.toNat - 'a'.toNat + 10)
  else if 'A' ≤ c ∧ c ≤ 'F' then some (c.toNat - 'A'.toNat + 10)
  else none

def fourHex? (a b c d : Char) : Option Nat := do
  return (((← hexValue? a) * 16 + (← hexValue? b)) * 16 + (← hexValue? c)) * 16 + (← hexValue? d)

/-- The code point of a single-letter escape. -/
def escaped? : Char → Option Nat
  | '"' => some '"'.toNat
  | '\\' => some '\\'.toNat
  | '/' => some '/'.toNat
  | 'b' => some 8
  | 'f' => some 12
  | 'n' => some 10
  | 'r' => some 13
  | 't' => some 9
  | _ => none

/-- The code points up to the closing quote, halves of surrogate pairs still apart. -/
def readCodes : List Char → Except Problem (List Nat × List Char)
  | [] => .error .malformed
  | '"' :: rest => .ok ([], rest)
  | '\\' :: 'u' :: a :: b :: c :: d :: rest =>
    match fourHex? a b c d with
    | none => .error .malformed
    | some code => do
      let (codes, rest) ← readCodes rest
      return (code :: codes, rest)
  | '\\' :: e :: rest =>
    match escaped? e with
    | none => .error .malformed
    | some code => do
      let (codes, rest) ← readCodes rest
      return (code :: codes, rest)
  | c :: rest =>
    if c.toNat < 0x20 ∨ c = '\\' then .error .malformed
    else do
      let (codes, rest) ← readCodes rest
      return (c.toNat :: codes, rest)

/-- Joins the halves of surrogate pairs. A half may also stand alone. -/
def joinPairs : List Nat → List Nat
  | high :: low :: rest =>
    if 0xD800 ≤ high ∧ high ≤ 0xDBFF ∧ 0xDC00 ≤ low ∧ low ≤ 0xDFFF then
      (0x10000 + (high - 0xD800) * 0x400 + (low - 0xDC00)) :: joinPairs rest
    else high :: joinPairs (low :: rest)
  | codes => codes

/-- A text, after its opening quote. -/
def readText (cs : List Char) : Except Problem (List Nat × List Char) := do
  let (codes, rest) ← readCodes cs
  return (joinPairs codes, rest)

def isDigit (c : Char) : Bool := '0' ≤ c && c ≤ '9'

def digitsValue (cs : List Char) : Nat :=
  cs.foldl (fun n c => n * 10 + (c.toNat - '0'.toNat)) 0

/-- The digits of the whole part: a zero stands alone. -/
def wholePart : List Char → List Char × List Char
  | '0' :: rest => (['0'], rest)
  | cs => cs.span isDigit

/-- The digits of the fraction, none if no digit follows the point. -/
def fractionPart : List Char → List Char × List Char
  | '.' :: rest =>
    match rest.span isDigit with
    | ([], _) => ([], '.' :: rest)
    | (digits, after) => (digits, after)
  | cs => ([], cs)

/-- The exponent, none if it has no digit. -/
def exponentPart : List Char → Option Int × List Char
  | [] => (none, [])
  | e :: rest =>
    if e = 'e' ∨ e = 'E' then
      let (negative, unsigned) : Bool × List Char :=
        match rest with
        | '-' :: r => (true, r)
        | '+' :: r => (false, r)
        | r => (false, r)
      match unsigned.span isDigit with
      | ([], _) => (none, e :: rest)
      | (digits, after) =>
        let size : Int := digitsValue digits
        (some (if negative then -size else size), after)
    else (none, e :: rest)

/-- The most digits of a whole number. -/
def maxDigits : Nat := 4300

/-- A number without its sign. -/
def readNumber (negative : Bool) (cs : List Char) : Except Problem (Json × List Char) :=
  let (whole, rest) := wholePart cs
  if whole.isEmpty then .error .malformed
  else
    let (fraction, rest) := fractionPart rest
    let (exponent, rest) := exponentPart rest
    if fraction.isEmpty && exponent.isNone then
      if whole.length > maxDigits then .error .longInteger
      else
        let size : Int := digitsValue whole
        .ok (.integer (if negative then -size else size), rest)
    else
      .ok (.real negative (digitsValue (whole ++ fraction)) (exponent.getD 0 - fraction.length), rest)

/-- The word, if the text starts with it. -/
def readWord (word : String) (value : Json) (cs : List Char) : Except Problem (Json × List Char) :=
  if word.toList.isPrefixOf cs then .ok (value, cs.drop word.length) else .error .malformed

/-- How deep lists and objects may be nested. -/
def maxNesting : Nat := 985

mutual

/-- The value at the start of the text, in which lists and objects are nested at most `depth` deep. -/
def readValue : (fuel depth : Nat) → List Char → Except Problem (Json × List Char)
  | 0, _, _ => .error .malformed
  | fuel + 1, depth, cs =>
    match cs with
    | '"' :: rest => do
      let (value, rest) ← readText rest
      return (.text value, rest)
    | '\x7b' :: rest =>
      if depth = 0 then .error .tooDeep
      else
        match skipSpace rest with
        | '\x7d' :: rest => .ok (.object [], rest)
        | rest => do
          let (entries, rest) ← readEntries fuel (depth - 1) [] rest
          return (.object entries, rest)
    | '[' :: rest =>
      if depth = 0 then .error .tooDeep
      else
        match skipSpace rest with
        | ']' :: rest => .ok (.list [], rest)
        | rest => do
          let (items, rest) ← readItems fuel (depth - 1) rest
          return (.list items, rest)
    | 'n' :: _ => readWord "null" .null cs
    | 't' :: _ => readWord "true" (.bool true) cs
    | 'f' :: _ => readWord "false" (.bool false) cs
    | 'N' :: _ => readWord "NaN" .notANumber cs
    | 'I' :: _ => readWord "Infinity" (.infinite false) cs
    | '-' :: 'I' :: _ => readWord "-Infinity" (.infinite true) cs
    | '-' :: rest => readNumber true rest
    | _ => readNumber false cs

/-- The items of a list from the first on, with its end. -/
def readItems : (fuel depth : Nat) → List Char → Except Problem (List Json × List Char)
  | 0, _, _ => .error .malformed
  | fuel + 1, depth, cs => do
    let (item, rest) ← readValue fuel depth cs
    match skipSpace rest with
    | ',' :: rest =>
      let (items, rest) ← readItems fuel depth (skipSpace rest)
      return (item :: items, rest)
    | ']' :: rest => return ([item], rest)
    | _ => .error .malformed

/-- The entries of an object from the next one on, with its end. -/
def readEntries : (fuel depth : Nat) → List (List Nat × Json) → List Char →
    Except Problem (List (List Nat × Json) × List Char)
  | 0, _, _, _ => .error .malformed
  | fuel + 1, depth, entries, cs => do
    let '"' :: rest := cs | .error .malformed
    let (name, rest) ← readText rest
    let ':' :: rest := skipSpace rest | .error .malformed
    let (value, rest) ← readValue fuel depth (skipSpace rest)
    let entries := put name value entries
    match skipSpace rest with
    | ',' :: rest => readEntries fuel depth entries (skipSpace rest)
    | '\x7d' :: rest => return (entries, rest)
    | _ => .error .malformed

end

/-- The value that a whole text stands for. -/
def parse (s : String) : Except Problem Json := do
  let cs := s.toList
  let (value, rest) ← readValue (2 * cs.length + 2) maxNesting (skipSpace cs)
  if (skipSpace rest).isEmpty then return value else .error .malformed

end RpcClients.Json
