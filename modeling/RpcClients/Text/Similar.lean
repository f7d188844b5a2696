/-! # Similar words

Two words are compared by what is left of them: the longest block that both contain, then again to its
left and to its right. -/

namespace RpcClients.Text.Similar

/-- The length of the longest common beginning. -/
def commonStart : List Char → List Char → Nat
  | a :: as, b :: bs => if a = b then commonStart as bs + 1 else 0
  | _, _ => 0

/-- A block that stands in two words. -/
structure Block where
  left : Nat
  right : Nat
  size : Nat
deriving DecidableEq, Repr

/-- The longest common block, of several the one furthest to the left in the first word and then in
the second. -/
def longestBlock (a b : List Char) : Block :=
  let starts := (List.range a.length).flatMap fun i => (List.range b.length).map fun j =>
    ⟨i, j, commonStart (a.drop i) (b.drop j)⟩
  starts.foldl (fun best block => if best.size < block.size then block else best) ⟨0, 0, 0⟩

/-- The number of characters in common blocks. At most `fuel` blocks are taken on the way down. -/
def matchedWithin : (fuel : Nat) → List Char → List Char → Nat
  | 0, _, _ => 0
  | fuel + 1, a, b =>
    let block := longestBlock a b
    if block.size = 0 then 0
    else
      matchedWithin fuel (a.take block.left) (b.take block.right) + block.size +
        matchedWithin fuel (a.drop (block.left + block.size)) (b.drop (block.right + block.size))

/-- The number of characters in common blocks. Every block shortens the first word. -/
def matched (a b : List Char) : Nat := matchedWithin a.length a b

/-- How much of two words agrees: twice `common` out of `total` characters. -/
structure Score where
  common : Nat
  total : Nat
deriving DecidableEq, Repr

def score (candidate word : String) : Score :=
  ⟨matched candidate.toList word.toList, candidate.length + word.length⟩

/-- Three fifths of the characters agree. -/
def Score.isClose (s : Score) : Bool := 3 * s.total ≤ 10 * s.common

/-- Whether `a` stands before `b`: the closer one first, of two equally close ones the later word. -/
def ranksBefore (a b : Score × String) : Bool :=
  let left := a.1.common * b.1.total
  let right := b.1.common * a.1.total
  right < left || (left == right && decide (b.2 ≤ a.2))

/-- The three candidates closest to a word, in the order of the words. -/
def closest (word : String) (candidates : List String) : List String :=
  let scored := (candidates.map fun candidate => (score candidate word, candidate)).filter (·.1.isClose)
  let best := ((scored.mergeSort ranksBefore).take 3).map (·.2)
  best.mergeSort (· ≤ ·)

end RpcClients.Text.Similar
