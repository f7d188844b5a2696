import Mathlib.Data.List.DropRight
import RpcClients.Proofs.LinePlaces
import RpcClients.Proofs.Resolution

/-! # Indentation is stable

Indentation by blanks changes the blanks around lines and nothing else. The depth of a line is read off the lines
without the blanks around them, so lines that are indented already stay as they are. -/

namespace RpcClients

namespace Text

/-! ## Trimming -/

theorem trimLeft_trimmed (cs : List Char) : trimLeft (trimmed cs) = trimmed cs := by
  have hstart : trimmed cs <+: trimLeft cs := List.rdropWhile_prefix _ _
  obtain ⟨after, hafter⟩ := hstart
  unfold trimLeft at hafter ⊢
  cases htrimmed : trimmed cs with
  | nil => rfl
  | cons c rest =>
    rw [htrimmed, List.cons_append] at hafter
    have hhead := List.head?_dropWhile_not isBlank cs
    rw [← hafter, List.head?_cons] at hhead
    exact List.dropWhile_cons_of_neg (by simpa using hhead)

theorem trimRight_trimmed (cs : List Char) : trimRight (trimmed cs) = trimmed cs := List.rdropWhile_idempotent _ _

theorem trimmed_trimmed (cs : List Char) : trimmed (trimmed cs) = trimmed cs := by
  rw [trimmed, trimLeft_trimmed, trimRight_trimmed]

theorem trimRight_append {cs : List Char} (hne : cs ≠ []) (h : trimRight cs = cs) (lead : List Char) :
    trimRight (lead ++ cs) = lead ++ cs := by
  refine List.rdropWhile_eq_self_iff.mpr fun _ => ?_
  rw [List.getLast_append_of_ne_nil _ hne]
  exact List.rdropWhile_eq_self_iff.mp h hne

theorem trimmed_blanks_append {blanks : List Char} (h : allBlank blanks = true) (cs : List Char) :
    trimmed (blanks ++ cs) = trimmed cs := by
  unfold trimmed trimLeft
  rw [List.dropWhile_append_of_pos (List.all_eq_true.mp h)]

theorem trimRight_append_blanks {blanks : List Char} (h : allBlank blanks = true) (cs : List Char) :
    trimRight (cs ++ blanks) = trimRight cs := by
  unfold trimRight
  rw [List.reverse_append, List.dropWhile_append_of_pos (by simpa using List.all_eq_true.mp h)]

end Text

namespace Indentation

variable {indent : List Char}

theorem trimmed_margin (h : Text.allBlank indent = true) (depth : Nat) (cs : List Char) :
    Text.trimmed (margin indent depth ++ cs) = Text.trimmed cs := by
  refine Text.trimmed_blanks_append (List.all_eq_true.mpr fun c hc => ?_) cs
  obtain ⟨once, honce, hc⟩ := List.mem_flatten.mp hc
  rw [List.eq_of_mem_replicate honce] at hc
  exact List.all_eq_true.mp h c hc

/-! ## Lines -/

theorem forall₂_indentFrom {related : List Char → List Char → Prop}
    (hblank : ∀ line, Text.trimmed line = [] → related line [])
    (hline : ∀ line depth, Text.trimmed line ≠ [] → related line (margin indent depth ++ Text.trimmed line))
    (depth : Nat) (lines : List (List Char)) : List.Forall₂ related lines (indentFrom indent depth lines) := by
  induction lines generalizing depth with
  | nil => exact .nil
  | cons line rest ih =>
    rw [indentFrom]
    simp only
    split_ifs with hempty hcomment
    · exact .cons (hblank line (List.isEmpty_iff.mp hempty)) (ih depth)
    · exact .cons (hline line _ (mt List.isEmpty_iff.mpr hempty)) (ih depth)
    · exact .cons (hline line _ (mt List.isEmpty_iff.mpr hempty)) (ih _)

theorem trimmed_indentFrom (h : Text.allBlank indent = true) (depth : Nat) (lines : List (List Char)) :
    (indentFrom indent depth lines).map Text.trimmed = lines.map Text.trimmed := by
  refine (map_eq_map_of_forall₂ (forall₂_indentFrom ?_ ?_ depth lines)).symm
  · exact fun line hempty => hempty
  · intro line depth _
    rw [trimmed_margin h, Text.trimmed_trimmed]

theorem indentFrom_trimmed (depth : Nat) (lines : List (List Char)) :
    indentFrom indent depth (lines.map Text.trimmed) = indentFrom indent depth lines := by
  induction lines generalizing depth with
  | nil => rfl
  | cons line rest ih =>
    rw [List.map_cons, indentFrom, indentFrom, Text.trimmed_trimmed]
    simp only [ih]

/-- How a line is printed: with other blanks before it and none behind it, and without any if it has only blanks. -/
structure Reindents (line text : String) : Prop where
  content : content text = content line
  blank : Indentation.content line = "" → text = ""
  ending : Text.trimRight text.toList = text.toList

variable {blanks : String} {lines others : List String}

theorem reindents_of_blank {line : List Char} (h : Text.trimmed line = []) : Reindents (String.ofList line) "" := by
  have hcontent : content (String.ofList line) = "" := by rw [content, String.toList_ofList, h, String.ofList_nil]
  exact ⟨hcontent.symm, fun _ => rfl, rfl⟩

theorem reindents_margin {indent line : List Char} (hindent : Text.allBlank indent = true) (h : Text.trimmed line ≠ [])
    (depth : Nat) : Reindents (String.ofList line) (String.ofList (margin indent depth ++ Text.trimmed line)) := by
  refine ⟨?_, ?_, ?_⟩
  · rw [content, String.toList_ofList, trimmed_margin hindent, Text.trimmed_trimmed, content, String.toList_ofList]
  · intro hempty
    rw [content, String.toList_ofList, String.ofList_eq_empty_iff] at hempty
    exact absurd hempty h
  · rw [String.toList_ofList, Text.trimRight_append h (Text.trimRight_trimmed line)]

theorem forall₂_indentLines (h : Text.allBlank blanks.toList = true) (lines : List String) :
    List.Forall₂ Reindents lines (indentLines lines blanks) := by
  have hlists := @forall₂_indentFrom blanks.toList
    (fun line text => Reindents (String.ofList line) (String.ofList text)) (fun _ => reindents_of_blank)
    (fun _ depth hne => reindents_margin h hne depth) 0 (lines.map String.toList)
  rw [List.forall₂_map_left_iff] at hlists
  rw [indentLines, List.forall₂_map_right_iff]
  exact hlists.imp fun line text hline => by rwa [String.ofList_toList] at hline

theorem indentLines_congr (h : others.map content = lines.map content) :
    indentLines others blanks = indentLines lines blanks := by
  have hlists : ∀ lines : List String, (lines.map String.toList).map Text.trimmed =
      (lines.map content).map String.toList := by
    intro lines
    simp [content]
  unfold indentLines
  rw [← indentFrom_trimmed, ← indentFrom_trimmed 0 (lines.map _), hlists, hlists, h]

/-- Indentation by blanks prints as many lines as there are, each with other blanks before it and none behind it. What
is printed depends on nothing but the lines without the blanks around them, so it is not changed by indentation. -/
theorem indentLines_stable (h : Text.allBlank blanks.toList = true) (lines : List String) :
    (indentLines lines blanks).length = lines.length ∧
    List.Forall₂ Reindents lines (indentLines lines blanks) ∧
    (∀ others : List String, others.map content = lines.map content →
      indentLines others blanks = indentLines lines blanks) ∧
    indentLines (indentLines lines blanks) blanks = indentLines lines blanks := by
  have hlines := forall₂_indentLines h lines
  refine ⟨hlines.length_eq.symm, hlines, fun others => indentLines_congr, indentLines_congr ?_⟩
  exact (map_eq_map_of_forall₂ (hlines.imp fun _ _ hline => hline.content.symm)).symm

/-- Lines with brackets in a literal and in a comment, and with one bracket too many. -/
def unevenLines : List String := ["f( ", "x := \")\" + // (", " \t", "\t))", "y["]

theorem indentLines_stable_uneven :
    Text.allBlank "  ".toList = true ∧
    indentLines unevenLines "  " = ["f(", "  x := \")\" + // (", "", "))", "y["] ∧
    indentLines ["f(", "  x := \")\" + // (", "", "))", "y["] "  " =
      ["f(", "  x := \")\" + // (", "", "))", "y["] := by
  have hblank : Text.allBlank "  ".toList = true := by decide
  have hprinted : indentLines unevenLines "  " = ["f(", "  x := \")\" + // (", "", "))", "y["] := by decide
  obtain ⟨_, _, _, hagain⟩ := indentLines_stable hblank unevenLines
  rw [hprinted] at hagain
  exact ⟨hblank, hprinted, hagain⟩

end Indentation

end RpcClients
