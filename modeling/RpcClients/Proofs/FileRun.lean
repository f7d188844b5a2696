import Mathlib.Data.String.Basic
import RpcClients.Proofs.FileText
import RpcClients.Proofs.StableIndentation

/-! # Runs of calls on a file

A file under construction is printed on and refers to packages, in any order. After every run its imports are
consistent and no line of it holds a line break, and this is all that the text of the finished file rests on. -/

namespace RpcClients

/-! ## Imports in order -/

namespace Imports

theorem pairwise_insertByPath {entry : String × String} {entries : List (String × String)}
    (h : entries.Pairwise fun one other => one.1 < other.1) (hnew : entry.1 ∉ entries.map (·.1)) :
    (insertByPath entry entries).Pairwise fun one other => one.1 < other.1 := by
  induction entries with
  | nil => exact List.pairwise_singleton _ _
  | cons first rest ih =>
    obtain ⟨hfirst, hrest⟩ := List.pairwise_cons.mp h
    rw [List.map_cons, List.mem_cons, not_or] at hnew
    rw [insertByPath]
    split_ifs with hlt
    · refine List.pairwise_cons.mpr ⟨?_, h⟩
      rw [List.forall_mem_cons]
      exact ⟨hlt, fun other hother => lt_trans hlt (hfirst other hother)⟩
    · refine List.pairwise_cons.mpr ⟨?_, ih hrest hnew.2⟩
      intro other hother
      rcases List.mem_cons.mp ((SourceFile.perm_insertByPath entry rest).mem_iff.mp hother) with rfl | hother
      · exact lt_of_le_of_ne (not_lt.mp hlt) (Ne.symm hnew.1)
      · exact hfirst other hother

theorem pairwise_sorted {table : Imports} (h : (table.aliases.map (·.1)).Nodup) :
    (table.sorted.map (·.1)).Pairwise (· < ·) := by
  rw [List.pairwise_map]
  obtain ⟨importPath, packageName, reserved, aliases⟩ := table
  induction aliases with
  | nil => exact .nil
  | cons first rest ih =>
    obtain ⟨hnew, hrest⟩ := List.nodup_cons.mp h
    refine pairwise_insertByPath (ih hrest) ?_
    exact mt ((SourceFile.perm_sorted ⟨importPath, packageName, reserved, rest⟩).map (·.1)).mem_iff.mp hnew

end Imports

namespace Indentation

theorem newline_not_mem_indentLines {lines : List String} (h : ∀ line ∈ lines, '\n' ∉ line.toList) :
    ∀ text ∈ indentLines lines, '\n' ∉ text.toList := by
  have hlists := @forall₂_indentFrom ['\t'] (fun line text => '\n' ∉ line → '\n' ∉ text)
    (fun _ _ _ => List.not_mem_nil) ?_ 0 (lines.map String.toList)
  · rw [List.forall₂_map_left_iff] at hlists
    intro text htext
    obtain ⟨printed, hprinted, rfl⟩ := List.mem_map.mp htext
    obtain ⟨line, hline, hkept⟩ := exists_of_forall₂_right hlists hprinted
    rw [String.toList_ofList]
    exact hkept (h line hline)
  · intro line depth _ hline
    rw [margin, List.flatten_replicate_singleton, List.mem_append, List.mem_replicate]
    rintro (⟨_, heq⟩ | hmem)
    · exact absurd heq (by decide)
    · exact hline (mem_of_mem_trimmed hmem)

end Indentation

namespace SourceFile

open Indentation Text

/-! ## Calls -/

/-- A call on a file: a line printed from parts, or a call on its imports. -/
inductive Call where
  | print (parts : List String)
  | resolve (call : Imports.Call)

namespace Call

def perform (file : SourceFile) : Call → SourceFile
  | print parts => file.append (String.join parts)
  | resolve call => { file with imports := (call.perform file.imports).2 }

def printed : Call → List String
  | print parts => split '\n' (String.join parts)
  | resolve _ => []

/-- The call that is made on the imports. -/
def onImports? : Call → Option Imports.Call
  | print _ => none
  | resolve call => some call

theorem newline_not_mem_printed {call : Call} {line : String} (h : line ∈ call.printed) : '\n' ∉ line.toList := by
  cases call with
  | print parts =>
    obtain ⟨piece, hpiece, rfl⟩ := List.mem_map.mp h
    rw [String.toList_ofList]
    exact not_mem_of_mem_pieces hpiece
  | resolve call => cases h

end Call

/-- The file after a run of calls, failed ones included. -/
def after (file : SourceFile) (calls : List Call) : SourceFile := calls.foldl Call.perform file

variable {file : SourceFile}

theorem after_eq (file : SourceFile) (calls : List Call) :
    file.after calls =
      { file with
        imports := file.imports.after (calls.filterMap Call.onImports?)
        lines := file.lines ++ calls.flatMap Call.printed } := by
  induction calls generalizing file with
  | nil => simp [after]
  | cons call calls ih =>
    change (call.perform file).after calls = _
    rw [ih, List.flatMap_cons, ← List.append_assoc]
    cases call with
    | print parts => rfl
    | resolve call => simp [Call.perform, Call.printed, Call.onImports?]

/-! ## The finished file -/

theorem indentLines_eq_body (file : SourceFile) :
    ∃ blanks, indentLines file.lines = file.body ++ List.replicate blanks "" := by
  have hsplit := (@List.rdropWhile_append_rtakeWhile _ (fun line : String => decide (line = ""))
    (indentLines file.lines)).symm
  refine ⟨_, hsplit.trans (congrArg _ (List.eq_replicate_of_mem ?_))⟩
  intro line hline
  simpa using List.mem_rtakeWhile_imp hline

theorem body_ne_nil (h : ∃ line ∈ file.lines, Indentation.content line ≠ "") : file.body ≠ [] := by
  obtain ⟨line, hline, hcontent⟩ := h
  obtain ⟨text, htext, hprinted⟩ := exists_of_forall₂_left (@forall₂_indentLines "\t" (by decide) file.lines) hline
  intro hempty
  have hblank := List.rdropWhile_eq_nil_iff.mp hempty text htext
  rw [decide_eq_true_iff] at hblank
  rw [← hprinted.content, hblank] at hcontent
  exact hcontent rfl

theorem body_last (hne : file.body ≠ []) : ∃ before last, file.body = before ++ [last] ∧ last ≠ "" := by
  have hlast := List.rdropWhile_last_not (fun line => decide (line = "")) (indentLines file.lines) hne
  rw [decide_eq_true_iff] at hlast
  exact ⟨_, _, (List.dropLast_append_getLast hne).symm, hlast⟩

theorem import_mem_headerText (file : SourceFile) : "import (" ∈ file.headerText ↔ file.imports.aliases ≠ [] := by
  have hempty : file.imports.aliases = [] ↔ file.imports.sorted = [] := by
    rw [← List.length_eq_zero_iff, ← List.length_eq_zero_iff, (perm_sorted file.imports).length_eq]
  rw [headerText, headerLines, List.mem_append, or_iff_right fun h => ne_import_of_mem h rfl, ne_eq, hempty]
  cases file.imports.sorted with
  | nil => simp [importLines]
  | cons entry rest => simp [importLines]

/-- What the text of a finished file is: its header, an empty line, and the indented lines up to the last one that
is not blank, with a line break at the end. If a package is referred to, the header lists every package once. -/
structure Finished (file : SourceFile) : Prop where
  lines : split '\n' file.content = file.headerText ++ "" :: file.body ++ [""]
  body : ∃ blanks, indentLines file.lines = file.body ++ List.replicate blanks ""
  last : ∃ before last, file.body = before ++ [last] ∧ last ≠ ""
  ending : ∃ before c, file.content.toList = before ++ [c, '\n'] ∧ c ≠ '\n'
  block : "import (" ∈ file.headerText ↔ file.imports.aliases ≠ []
  imports : importEntries file.headerText =
    file.imports.sorted.map fun entry => "\t" ++ entry.2 ++ " \"" ++ entry.1 ++ "\""
  bound : file.imports.sorted.Perm file.imports.aliases
  order : (file.imports.sorted.map (·.1)).Pairwise (· < ·)

theorem content_ending {before : List String} {last : String} (hbody : file.body = before ++ [last])
    (hlast : last ≠ "") (honeLine : '\n' ∉ last.toList) :
    ∃ before c, file.content.toList = before ++ [c, '\n'] ∧ c ≠ '\n' := by
  have hne : last.toList ≠ [] := by simpa using hlast
  refine ⟨(unlines (file.headerText ++ "" :: before)).toList ++ last.toList.dropLast, last.toList.getLast hne, ?_, ?_⟩
  · have hend : last.toList ++ ['\n'] = last.toList.dropLast ++ [last.toList.getLast hne, '\n'] := by
      conv_lhs => rw [← List.dropLast_append_getLast hne]
      simp
    rw [content_eq_unlines (by simp [hbody]), hbody, ← List.cons_append, ← List.append_assoc, unlines_append,
      unlines_cons, unlines_nil, String.append_empty, String.toList_append, String.toList_append, List.append_assoc]
    exact congrArg _ hend
  · exact fun heq => honeLine (heq ▸ List.getLast_mem hne)

theorem finished_of_consistent (hcons : file.imports.Consistent) (hlines : ∀ line ∈ file.lines, '\n' ∉ line.toList)
    (hheader : ∀ text ∈ file.headerTexts, '\n' ∉ text.toList)
    (hprinted : ∃ line ∈ file.lines, Indentation.content line ≠ "") : file.Finished := by
  have hne := body_ne_nil hprinted
  have hbody : ∀ line ∈ file.body, '\n' ∉ line.toList := by
    intro line hline
    apply newline_not_mem_indentLines hlines
    exact (List.rdropWhile_prefix _ _).subset hline
  obtain ⟨before, last, hsplit, hlast⟩ := body_last hne
  have himports := importEntries_header file (@List.forall_mem_nil _ _)
  rw [List.append_nil] at himports
  exact
    { lines := split_content (newline_not_mem_header hcons hheader) hbody hne
      body := indentLines_eq_body file
      last := ⟨before, last, hsplit, hlast⟩
      ending := content_ending hsplit hlast (hbody last (by simp [hsplit]))
      block := import_mem_headerText file
      imports := himports
      bound := perm_sorted file.imports
      order := Imports.pairwise_sorted hcons.paths }

/-- A run of calls on a new file prints lines and leads to imports as a run on each of the two does. If some line is
not blank and no name in the header breaks a line, the file is finished as it should be. -/
theorem finished_after {start : SourceFile} (hlines : start.lines = []) (haliases : start.imports.aliases = [])
    (calls : List Call) (hheader : ∀ text ∈ (start.after calls).headerTexts, '\n' ∉ text.toList)
    (hprinted : ∃ line ∈ (start.after calls).lines, Indentation.content line ≠ "") :
    start.after calls =
      { start with
        imports := start.imports.after (calls.filterMap Call.onImports?)
        lines := calls.flatMap Call.printed } ∧
    (start.after calls).Finished := by
  have hafter := after_eq start calls
  rw [hlines, List.nil_append] at hafter
  refine ⟨hafter, finished_of_consistent ?_ ?_ hheader hprinted⟩
  · rw [hafter]
    exact (Imports.consistent_of_no_aliases haliases).after _
  · rw [hafter]
    intro line hline
    obtain ⟨call, _, hline⟩ := List.mem_flatMap.mp hline
    exact Call.newline_not_mem_printed hline

def startedFile : SourceFile :=
  { name := "a.go", kind := .file, source := some "a.proto", pluginName := "x",
    imports := { importPath := "o", packageName := "o" } }

/-- Calls that print blank lines between and behind others, refer to packages out of order and reserve a name in
vain. -/
def mixedCalls : List Call :=
  [.print ["x(", "\n \n"], .resolve (.qualified ⟨"T", "b/v"⟩), .print ["\t)"], .resolve (.aliasOf "a/v" none),
    .resolve (.reserve "v"), .print [" \n"]]

theorem finished_after_mixed :
    (startedFile.after mixedCalls).lines = ["x(", " ", "", "\t)", " ", ""] ∧
    split '\n' (startedFile.after mixedCalls).content =
      ["// Code generated by protoc-gen-go-x. DO NOT EDIT.", "// source: a.proto", "", "package o", "",
        "import (", "\tv1 \"a/v\"", "\tv \"b/v\"", ")", "", "x(", "", "", ")", ""] := by
  have hlines : (startedFile.after mixedCalls).lines = ["x(", " ", "", "\t)", " ", ""] := by decide
  have haliases : (startedFile.after mixedCalls).imports.aliases = [("b/v", "v"), ("a/v", "v1")] := by decide
  have hheader : ∀ text ∈ (startedFile.after mixedCalls).headerTexts, '\n' ∉ text.toList := by
    rw [headerTexts, haliases]
    decide
  have hprinted : ∃ line ∈ (startedFile.after mixedCalls).lines, Indentation.content line ≠ "" :=
    ⟨"x(", by rw [hlines]; decide, by decide⟩
  obtain ⟨_, hfinished⟩ := @finished_after startedFile rfl rfl mixedCalls hheader hprinted
  refine ⟨hlines, hfinished.lines.trans ?_⟩
  rw [headerText, Imports.sorted, haliases, body, hlines]
  decide

end SourceFile

end RpcClients
