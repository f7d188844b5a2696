import Mathlib.Tactic.SplitIfs
import RpcClients.Proofs.FirstFree

/-! # What Go names are made of

Sanitised names, and numbered ones, are words and never keywords. -/

namespace RpcClients

namespace Text

theorem exists_of_inRanges {ranges : List (Nat × Nat)} {c : Char} (h : inRanges ranges c = true) :
    ∃ r ∈ ranges, r.1 ≤ c.toNat ∧ c.toNat ≤ r.2 := by
  induction ranges with
  | nil => exact absurd h (by simp [inRanges])
  | cons r rest ih =>
    simp only [inRanges, Bool.and_eq_true, Bool.or_eq_true, decide_eq_true_eq] at h
    rcases h.2 with hhi | hrest
    · exact ⟨r, List.mem_cons_self, h.1, hhi⟩
    · obtain ⟨s, hs, hs'⟩ := ih hrest
      exact ⟨s, List.mem_cons_of_mem r hs, hs'⟩

theorem inRanges_of_first {low high : Nat} {rest : List (Nat × Nat)} {c : Char} (hlow : low ≤ c.toNat)
    (hhigh : c.toNat ≤ high) : inRanges ((low, high) :: rest) c = true := by
  simp [inRanges, hlow, hhigh]

/-- No range of the one list meets a range of the other. -/
def apart (ranges others : List (Nat × Nat)) : Bool :=
  ranges.all fun r => others.all fun s => r.2 < s.1 || s.2 < r.1

theorem not_inRanges_of_apart {ranges others : List (Nat × Nat)} (h : apart ranges others = true)
    {c : Char} (hc : inRanges ranges c = true) : inRanges others c = false := by
  obtain ⟨r, hr, hlo, hhi⟩ := exists_of_inRanges hc
  by_contra hother
  obtain ⟨s, hs, hslo, hshi⟩ := exists_of_inRanges (by simpa using hother)
  have := List.all_eq_true.mp (List.all_eq_true.mp h r hr) s hs
  simp only [Bool.or_eq_true, decide_eq_true_eq] at this
  omega

/-- The ASCII characters that are no letters or digits. -/
def asciiMarks : List (Nat × Nat) := [(0x00, 0x2F), (0x3A, 0x40), (0x5B, 0x60), (0x7B, 0x7F)]

theorem letters_apart : (apart letterRanges asciiMarks && apart letterRanges blankRanges) = true := by
  decide +kernel

theorem numbers_apart : (apart numberRanges asciiMarks && apart numberRanges blankRanges) = true := by
  decide +kernel

theorem not_mark_of_isLetterOrNumber {c : Char} (h : isLetterOrNumber c = true) :
    inRanges asciiMarks c = false ∧ isBlank c = false := by
  have hletters := letters_apart
  have hnumbers := numbers_apart
  rw [Bool.and_eq_true] at hletters hnumbers
  simp only [isLetterOrNumber, Bool.or_eq_true] at h
  rcases h with h | h
  · exact ⟨not_inRanges_of_apart hletters.1 h, not_inRanges_of_apart hletters.2 h⟩
  · exact ⟨not_inRanges_of_apart hnumbers.1 h, not_inRanges_of_apart hnumbers.2 h⟩

/-- A character of a Go name: a letter, a number or an underscore. -/
def isWordChar (c : Char) : Bool := isLetterOrNumber c || c = '_'

theorem isWordChar_underscore : isWordChar '_' = true := by simp [isWordChar]

theorem isBlank_eq_false_of_isWordChar {c : Char} (h : isWordChar c = true) : isBlank c = false := by
  simp only [isWordChar, Bool.or_eq_true, decide_eq_true_eq] at h
  rcases h with h | rfl
  · exact (not_mark_of_isLetterOrNumber h).2
  · decide

/-- The characters that stand between words in Go text. -/
def separators : List Char := "\n\t \"'`()[]\x7b\x7d.,:;/*&=!".toList

theorem separators_are_marks :
    separators.all (fun c => inRanges asciiMarks c && c != '_') = true := by
  decide

theorem not_mem_separators_of_isWordChar {c : Char} (h : isWordChar c = true) : c ∉ separators := by
  intro hmem
  have hmarks := List.all_eq_true.mp separators_are_marks c hmem
  simp only [Bool.and_eq_true, bne_iff_ne, ne_eq] at hmarks
  obtain ⟨hmark, hne⟩ := hmarks
  simp only [isWordChar, hne, decide_false, Bool.or_false] at h
  rw [(not_mark_of_isLetterOrNumber h).1] at hmark
  exact absurd hmark (by decide)

theorem isWordChar_of_isDigit {c : Char} (h : c.isDigit = true) : isWordChar c = true := by
  simp only [Char.isDigit, Bool.and_eq_true, decide_eq_true_eq, UInt32.le_iff_toNat_le] at h
  have : inRanges numberRanges c = true :=
    inRanges_of_first (show 0x30 ≤ c.toNat from h.1) (show c.toNat ≤ 0x39 from h.2)
  simp [isWordChar, isLetterOrNumber, this]

end Text

namespace Naming

open Text

/-- A text of word characters that is not empty. -/
def IsWord (name : String) : Prop := name ≠ "" ∧ ∀ c ∈ name.toList, isWordChar c = true

theorem IsWord.append {name other : String} (hname : IsWord name)
    (hother : ∀ c ∈ other.toList, isWordChar c = true) : IsWord (name ++ other) := by
  refine ⟨by simp [hname.1], ?_⟩
  intro c hc
  rw [String.toList_append, List.mem_append] at hc
  rcases hc with hc | hc
  · exact hname.2 c hc
  · exact hother c hc

theorem IsWord.not_mem {name : String} (h : IsWord name) {c : Char} (hc : c ∈ separators) : c ∉ name.toList :=
  fun hmem => not_mem_separators_of_isWordChar (h.2 c hmem) hc

/-- What a sanitised name is made from: each other character becomes an underscore. -/
def cleaned (name : String) : List Char :=
  name.toList.map fun c => if isLetterOrNumber c then c else '_'

theorem cleaned_word (name : String) : ∀ c ∈ cleaned name, isWordChar c = true := by
  intro c hc
  obtain ⟨d, _, rfl⟩ := List.mem_map.mp hc
  split_ifs with h
  · simp [isWordChar, h]
  · exact isWordChar_underscore

theorem sanitized_eq (name : String) :
    sanitized name =
      if (cleaned name).head?.any isLetter ∧ String.ofList (cleaned name) ∉ keywords
      then String.ofList (cleaned name) else String.ofList ('_' :: cleaned name) := by
  simp [sanitized, cleaned]

theorem sanitized_word (name : String) : IsWord (sanitized name) := by
  rw [sanitized_eq]
  split_ifs with h
  · refine ⟨?_, by simpa using cleaned_word name⟩
    intro hempty
    have hnil : cleaned name = [] := by simpa using congrArg String.toList hempty
    simp [hnil] at h
  · refine ⟨by simp, ?_⟩
    intro c hc
    rw [String.toList_ofList, List.mem_cons] at hc
    rcases hc with rfl | hc
    · exact isWordChar_underscore
    · exact cleaned_word name c hc

theorem keywords_head : ∀ word ∈ keywords, word.toList.head? ≠ some '_' := by decide

theorem keywords_last :
    keywords.all (fun word => word.toList.getLast?.all fun c => !c.isDigit && c != '_') = true := by
  decide

theorem last_of_keyword {word : String} (hword : word ∈ keywords) {c : Char}
    (hc : word.toList.getLast? = some c) : c.isDigit = false ∧ c ≠ '_' := by
  have := List.all_eq_true.mp keywords_last word hword
  simpa [hc] using this

theorem sanitized_not_keyword (name : String) : sanitized name ∉ keywords := by
  rw [sanitized_eq]
  split_ifs with h
  · exact h.2
  · intro hmem
    exact keywords_head _ hmem (by simp)

theorem wantedName_eq_sanitized (path : String) (preferred : Option String) :
    ∃ name, Imports.wantedName path preferred = sanitized name := by
  unfold Imports.wantedName
  split
  · exact ⟨_, rfl⟩
  · exact ⟨_, rfl⟩
  · exact ⟨_, rfl⟩

theorem digits_isDigit (n : Nat) : ∀ c ∈ (toString n).toList, c.isDigit = true := by
  intro c hc
  rw [Nat.toString_eq_repr, Nat.toList_repr] at hc
  exact Nat.isDigit_of_mem_toDigits (by omega) (by omega) hc

theorem numbered_word {name : String} (h : IsWord name) (i : Nat) :
    IsWord (Imports.numbered name i) := by
  cases i with
  | zero => exact h
  | succ i => exact h.append fun c hc => isWordChar_of_isDigit (digits_isDigit _ c hc)

theorem last_numbered (name : String) (i : Nat) :
    ∃ c, (Imports.numbered name (i + 1)).toList.getLast? = some c ∧ c.isDigit = true := by
  have hne : (toString (i + 1)).toList ≠ [] := by simp
  refine ⟨(toString (i + 1)).toList.getLast hne, ?_, digits_isDigit (i + 1) _ (List.getLast_mem hne)⟩
  rw [Imports.numbered, String.toList_append, List.getLast?_append_of_ne_nil _ hne,
    List.getLast?_eq_getLast_of_ne_nil hne]

theorem numbered_not_keyword {name : String} (h : name ∉ keywords) (i : Nat) :
    Imports.numbered name i ∉ keywords := by
  cases i with
  | zero => exact h
  | succ i =>
    intro hmem
    obtain ⟨c, hlast, hdigit⟩ := last_numbered name i
    have hplain := (last_of_keyword hmem hlast).1
    rw [hdigit] at hplain
    exact absurd hplain (by decide)

end Naming

end RpcClients
