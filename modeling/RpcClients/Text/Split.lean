/-! # Cutting a text at separators -/

namespace RpcClients.Text

/-- The pieces between the separators: always one more than there are separators. -/
def pieces (separator : Char) : List Char → List (List Char)
  | [] => [[]]
  | c :: rest =>
    if c = separator then [] :: pieces separator rest
    else
      match pieces separator rest with
      | [] => [[c]]
      | piece :: others => (c :: piece) :: others

/-- What stands before the first separator and, if there is one, what stands after it. -/
def cut (separator : Char) : List Char → List Char × Option (List Char)
  | [] => ([], none)
  | c :: rest =>
    if c = separator then ([], some rest)
    else
      let (before, after) := cut separator rest
      (c :: before, after)

/-- What stands after the last separator, the whole text if there is none. -/
def afterLast (separator : Char) (cs : List Char) : List Char :=
  (pieces separator cs).getLastD []

/-- The text without `suffix` at its end, unchanged if it does not end so. -/
def withoutSuffix (suffix cs : List Char) : List Char :=
  if suffix.isSuffixOf cs then cs.take (cs.length - suffix.length) else cs

/-- The text without the run of `c` at its end. -/
def withoutTrailing (c : Char) (cs : List Char) : List Char :=
  (cs.reverse.dropWhile (· == c)).reverse

/-- The pieces of `s` between the separators. -/
def split (separator : Char) (s : String) : List String :=
  (pieces separator s.toList).map String.ofList

theorem pieces_ne_nil (separator : Char) (cs : List Char) : pieces separator cs ≠ [] := by
  cases cs with
  | nil => simp [pieces]
  | cons c rest =>
    simp only [pieces]
    split
    · simp
    · split <;> simp

end RpcClients.Text
