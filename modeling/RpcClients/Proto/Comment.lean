import RpcClients.Proto.Token
import RpcClients.Text.Split

/-! # Leading comments

The comment of a declaration ends on the line above the declaration's name and starts on a line of its
own. It is one comment block, or line comments that stand below each other. -/

namespace RpcClients.Proto

/-- A further line of a comment block: a star at its start, with the blanks before it and one space
behind it, becomes one space. -/
def unstarred (line : List Char) : List Char :=
  match Text.trimLeft line with
  | '*' :: ' ' :: rest | '*' :: rest => ' ' :: rest
  | _ => line

/-- The lines of a comment block. A last line of blanks goes, unless it is the only one. -/
def blockLines (text : List Char) : List (List Char) :=
  match Text.pieces '\n' text with
  | [] => []
  | first :: rest =>
    let rest := rest.map unstarred
    first :: if rest.getLast?.any Text.allBlank then rest.dropLast else rest

/-- The comment that ends on a line. -/
def commentEnding? (comments : List Comment) (line : Nat) : Option Comment :=
  comments.find? fun comment => comment.ownLine && comment.lastLine = line

/-- The line comments that end on the given line and stand below each other, the first one first. -/
def lineComments (comments : List Comment) : (line : Nat) → List (List Char)
  | 0 => []
  | line + 1 =>
    match commentEnding? comments (line + 1) with
    | some comment => if comment.block then [] else lineComments comments line ++ [comment.text]
    | none => []

/-- The text of the comment before a declaration whose name stands on the given line. -/
def leadingComments? (comments : List Comment) (line : Nat) : Option String :=
  (commentEnding? comments (line - 1)).map fun comment =>
    let lines := if comment.block then blockLines comment.text else lineComments comments (line - 1)
    String.ofList (lines.flatMap (· ++ ['\n']))

end RpcClients.Proto
