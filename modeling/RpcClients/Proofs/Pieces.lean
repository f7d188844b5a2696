import Mathlib.Data.List.Basic
import RpcClients.Text.Split

/-! # Pieces of a text

Cutting at a separator takes joined texts apart again, and joining the pieces gives the text back. What stands before
the first separator of joined pieces is the first of them. -/

namespace RpcClients.Text

theorem pieces_of_not_mem {separator : Char} {cs : List Char} (h : separator ∉ cs) :
    pieces separator cs = [cs] := by
  induction cs with
  | nil => rfl
  | cons c rest ih =>
    rw [List.mem_cons, not_or] at h
    rw [pieces, if_neg (Ne.symm h.1), ih h.2]

theorem pieces_append_cons (separator : Char) (before after : List Char) :
    pieces separator (before ++ separator :: after) =
      pieces separator before ++ pieces separator after := by
  induction before with
  | nil => simp [pieces]
  | cons c rest ih =>
    rw [List.cons_append, pieces, ih, pieces]
    split_ifs with h
    · rfl
    · obtain ⟨piece, others, hrest⟩ := List.exists_cons_of_ne_nil (pieces_ne_nil separator rest)
      rw [hrest]
      rfl

theorem intercalate_pieces (separator : Char) (cs : List Char) :
    [separator].intercalate (pieces separator cs) = cs := by
  induction cs with
  | nil => rfl
  | cons c rest ih =>
    obtain ⟨piece, others, hrest⟩ := List.exists_cons_of_ne_nil (pieces_ne_nil separator rest)
    rw [pieces]
    split_ifs with h
    · rw [hrest, List.intercalate_cons_cons, ← hrest, ih, h]
      rfl
    · rw [hrest] at ih ⊢
      cases others with
      | nil => simpa using ih
      | cons other more =>
        rw [List.intercalate_cons_cons] at ih ⊢
        rw [← ih]
        rfl

theorem not_mem_of_mem_pieces {separator : Char} {cs piece : List Char}
    (h : piece ∈ pieces separator cs) : separator ∉ piece := by
  induction cs generalizing piece with
  | nil => simp_all [pieces]
  | cons c rest ih =>
    obtain ⟨first, others, hrest⟩ := List.exists_cons_of_ne_nil (pieces_ne_nil separator rest)
    rw [pieces] at h
    rw [hrest] at h ih
    split_ifs at h with hc
    · rcases List.mem_cons.mp h with rfl | h
      · simp
      · exact ih h
    · rcases List.mem_cons.mp h with rfl | h
      · rw [List.mem_cons, not_or]
        exact ⟨Ne.symm hc, ih List.mem_cons_self⟩
      · exact ih (List.mem_cons_of_mem _ h)

theorem subset_of_mem_pieces {separator : Char} {cs piece : List Char} (h : piece ∈ pieces separator cs) :
    piece ⊆ cs := by
  induction cs generalizing piece with
  | nil => simp_all [pieces]
  | cons c rest ih =>
    obtain ⟨first, others, hrest⟩ := List.exists_cons_of_ne_nil (pieces_ne_nil separator rest)
    rw [pieces] at h
    rw [hrest] at h ih
    split_ifs at h
    · rcases List.mem_cons.mp h with rfl | h
      · exact List.nil_subset _
      · exact List.subset_cons_of_subset _ (ih h)
    · rcases List.mem_cons.mp h with rfl | h
      · exact List.cons_subset_cons _ (ih List.mem_cons_self)
      · exact List.subset_cons_of_subset _ (ih (List.mem_cons_of_mem _ h))

theorem pieces_reverse_of_not_mem {separator : Char} {before last : List Char} (h : separator ∉ last) :
    (pieces separator (before ++ separator :: last)).reverse = last :: (pieces separator before).reverse := by
  rw [pieces_append_cons, pieces_of_not_mem h]
  simp

theorem pieces_append_of_not_mem {separator : Char} {ending : List Char} (h : separator ∉ ending) (cs : List Char) :
    ∃ before last, pieces separator cs = before ++ [last] ∧
      pieces separator (cs ++ ending) = before ++ [last ++ ending] := by
  induction cs with
  | nil => exact ⟨[], [], rfl, pieces_of_not_mem h⟩
  | cons c rest ih =>
    obtain ⟨before, last, hrest, hending⟩ := ih
    rw [List.cons_append, pieces, pieces, hrest, hending]
    split_ifs
    · exact ⟨[] :: before, last, rfl, rfl⟩
    · cases before with
      | nil => exact ⟨[], c :: last, rfl, rfl⟩
      | cons piece others => exact ⟨(c :: piece) :: others, last, rfl, rfl⟩

/-! ## The first separator -/

variable {separator : Char}

theorem cut_of_not_mem {cs : List Char} (h : separator ∉ cs) : cut separator cs = (cs, none) := by
  induction cs with
  | nil => rfl
  | cons c rest ih =>
    rw [List.mem_cons, not_or] at h
    rw [cut, if_neg (Ne.symm h.1), ih h.2]

theorem cut_append_cons_of_not_mem {before : List Char} (h : separator ∉ before) (after : List Char) :
    cut separator (before ++ separator :: after) = (before, some after) := by
  induction before with
  | nil => simp [cut]
  | cons c rest ih =>
    rw [List.mem_cons, not_or] at h
    rw [List.cons_append, cut, if_neg (Ne.symm h.1), ih h.2]

theorem cut_append_cons_fst (before after : List Char) :
    (cut separator (before ++ separator :: after)).1 = (cut separator before).1 := by
  induction before with
  | nil => simp [cut]
  | cons c rest ih =>
    rw [List.cons_append, cut, cut]
    split_ifs
    · rfl
    · simp only [ih]

theorem not_mem_cut_fst (cs : List Char) : separator ∉ (cut separator cs).1 := by
  induction cs with
  | nil => simp [cut]
  | cons c rest ih =>
    rw [cut]
    split_ifs with hc
    · simp
    · simpa [Ne.symm hc] using ih

theorem cut_intercalate_fst {piece : List Char} (h : separator ∉ piece) (others : List (List Char)) :
    (cut separator ([separator].intercalate (piece :: others))).1 = piece := by
  cases others with
  | nil => simp [cut_of_not_mem h]
  | cons other more =>
    rw [List.intercalate_cons_cons, List.append_assoc, List.singleton_append, cut_append_cons_fst, cut_of_not_mem h]

end RpcClients.Text
