import RpcClients.Text.CellWidth
import RpcClients.Text.Split

/-! # Text for a terminal

Messages lose the sequences that would control a terminal. Log lines and reports lose the characters
that would move the cursor, and their tabs become blanks. -/

namespace RpcClients.Text.Terminal

/-! ## Control sequences -/

def isParameter (c : Char) : Bool := '0' ≤ c && c ≤ '?'

def isIntermediate (c : Char) : Bool := ' ' ≤ c && c ≤ '/'

def isFinal (c : Char) : Bool := '@' ≤ c && c ≤ '~'

/-- The length of the control sequence that a text starts with: escape, bracket, parameters,
intermediate characters and a final one. -/
def sequenceLength? : List Char → Option Nat
  | '\x1b' :: '[' :: rest =>
    let parameters := rest.takeWhile isParameter
    let size := parameters.length + ((rest.drop parameters.length).takeWhile isIntermediate).length
    match rest[size]? with
    | some last => if isFinal last then some (size + 3) else none
    | none => none
  | _ => none

/-- Leaves out `skip` characters, and after them all control sequences. -/
def stripAfter : (skip : Nat) → List Char → List Char
  | _, [] => []
  | skip + 1, _ :: rest => stripAfter skip rest
  | 0, c :: rest =>
    match sequenceLength? (c :: rest) with
    | some size => stripAfter (size - 1) rest
    | none => c :: stripAfter 0 rest

/-- The text without control sequences. -/
def withoutSequences (s : String) : String := String.ofList (stripAfter 0 s.toList)

/-! ## Cursor movement -/

/-- Bell, backspace, vertical tab, form feed and carriage return. -/
def movesCursor (c : Char) : Bool := [7, 8, 11, 12, 13].contains c.toNat

def tabSize : Nat := 8

/-- What stands before a tab, with a blank for the tab and more up to the next multiple of eight
columns. -/
def padded (before : List Char) : List Char :=
  let text := before ++ [' ']
  let past := columns text % tabSize
  if past = 0 then text else text ++ List.replicate (tabSize - past) ' '

/-- Joins what stands between the tabs of a line. -/
def joinPadded : List (List Char) → List Char
  | [] => []
  | [last] => last
  | before :: rest => padded before ++ joinPadded rest

/-- A line with blanks instead of tabs. -/
def expandTabs (line : List Char) : List Char := joinPadded (pieces '\t' line)

/-- A text as it is shown in lines. -/
def shown (s : String) : String :=
  let lines := pieces '\n' (s.toList.filter (!movesCursor ·))
  String.ofList (List.intercalate ['\n'] (lines.map expandTabs))

end RpcClients.Text.Terminal
