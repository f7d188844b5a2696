import RpcClients.Proofs.ImportRun
import RpcClients.Proofs.LineLayout
import RpcClients.Proofs.Pieces
import RpcClients.Source.Artifact

/-! # The lines of a generated file

A file is its header, an empty line and its indented body. If no text in the header breaks a line, the
lines of the file can be told apart again. -/

namespace RpcClients

namespace Text

def unlines (lines : List String) : String := String.join (lines.map (· ++ "\n"))

theorem unlines_append (lines more : List String) : unlines (lines ++ more) = unlines lines ++ unlines more := by
  simp [unlines, String.join_append]

theorem unlines_cons (line : String) (lines : List String) :
    unlines (line :: lines) = line ++ "\n" ++ unlines lines := by
  simp [unlines, String.join_cons]

theorem unlines_nil : unlines [] = "" := by simp [unlines]

theorem intercalate_newline {lines : List String} (h : lines ≠ []) :
    String.intercalate "\n" lines ++ "\n" = unlines lines := by
  induction lines with
  | nil => exact absurd rfl h
  | cons line rest ih =>
    cases rest with
    | nil => simp [unlines_cons, unlines_nil]
    | cons other more =>
      rw [String.intercalate_cons_cons, unlines_cons, ← ih (by simp), ← String.append_assoc]

theorem split_unlines {lines : List String} (h : ∀ line ∈ lines, '\n' ∉ line.toList) :
    split '\n' (unlines lines) = lines ++ [""] := by
  induction lines with
  | nil => simp [unlines_nil, split, pieces]
  | cons line rest ih =>
    rw [List.forall_mem_cons] at h
    have hlist : (unlines (line :: rest)).toList = line.toList ++ '\n' :: (unlines rest).toList := by
      simp [unlines_cons]
    have hrest := ih h.2
    unfold split at hrest ⊢
    rw [hlist, pieces_append_cons, pieces_of_not_mem h.1, List.map_append, hrest]
    simp

theorem split_of_not_mem {line : String} (h : '\n' ∉ line.toList) : split '\n' line = [line] := by
  simp [split, pieces_of_not_mem h]

theorem flatMap_split {lines : List String} (h : ∀ line ∈ lines, '\n' ∉ line.toList) :
    lines.flatMap (split '\n') = lines := by
  induction lines with
  | nil => rfl
  | cons line rest ih =>
    rw [List.forall_mem_cons] at h
    rw [List.flatMap_cons, split_of_not_mem h.1, ih h.2]
    rfl

end Text

/-! ## Lines that are laid out have no line breaks -/

namespace Indentation

theorem mem_of_mem_trimmed {c : Char} {cs : List Char} (h : c ∈ Text.trimmed cs) : c ∈ cs := by
  unfold Text.trimmed Text.trimLeft Text.trimRight at h
  rw [List.mem_reverse] at h
  have hleft := (List.dropWhile_suffix _).subset h
  rw [List.mem_reverse] at hleft
  exact (List.dropWhile_suffix _).subset hleft

theorem newline_not_mem_tabbed {line : String} (h : '\n' ∉ line.toList) (depth : Nat) :
    '\n' ∉ (tabbed depth line).toList := by
  rw [toList_tabbed, margin, List.flatten_replicate_singleton, List.mem_append, List.mem_replicate]
  rintro (⟨_, heq⟩ | hmem)
  · exact absurd heq (by decide)
  · exact h hmem

theorem Laid.oneLine {depth after : Nat} {lines texts : List String} (h : Laid depth lines texts after) :
    (∀ line ∈ lines, '\n' ∉ line.toList) ∧ ∀ text ∈ texts, '\n' ∉ text.toList := by
  induction h with
  | nil => simp
  | blank _ ih => simpa using ih
  | comment _ honeLine _ ih =>
    rw [List.forall_mem_cons, List.forall_mem_cons]
    refine ⟨⟨honeLine, ih.1⟩, newline_not_mem_tabbed ?_ _, ih.2⟩
    rw [String.toList_ofList]
    exact fun hmem => honeLine (mem_of_mem_trimmed hmem)
  | code hline _ _ _ ih =>
    rw [List.forall_mem_cons, List.forall_mem_cons]
    exact ⟨⟨hline.text.newline, ih.1⟩, newline_not_mem_tabbed hline.text.newline _, ih.2⟩

end Indentation

/-! ## Lines that start with a text -/

def Artifact.lines (artifact : Artifact) : List String := Text.split '\n' artifact.content

def linesStarting (start : String) (lines : List String) : List String :=
  lines.filter fun line => start.toList.isPrefixOf line.toList

theorem linesStarting_nil (start : String) : linesStarting start [] = [] := rfl

theorem linesStarting_append (start : String) (lines more : List String) :
    linesStarting start (lines ++ more) = linesStarting start lines ++ linesStarting start more :=
  List.filter_append _ _

theorem linesStarting_cons {start line : String} (h : start.toList <+: line.toList) (lines : List String) :
    linesStarting start (line :: lines) = line :: linesStarting start lines := by
  simp [linesStarting, h]

theorem linesStarting_blank {start : String} (h : start ≠ "") (lines : List String) :
    linesStarting start ("" :: lines) = linesStarting start lines := by
  have hne : start.toList ≠ [] := by simpa using h
  obtain ⟨c, rest, hlist⟩ := List.exists_cons_of_ne_nil hne
  simp [linesStarting, hlist]

/-- Each of the texts starts one of the lines, in order. -/
def StartEach (starts lines : List String) : Prop :=
  List.Forall₂ (fun start line => start.toList <+: line.toList) starts lines

theorem StartEach.append {starts others lines more : List String} (h : StartEach starts lines)
    (h' : StartEach others more) : StartEach (starts ++ others) (lines ++ more) := List.rel_append h h'

theorem startEach_flatten {α : Type} (related : α → List String → Prop) (starts : α → List String)
    {start : String} (hrelated : ∀ item text, related item text → StartEach (starts item) (linesStarting start text))
    {items : List α} {texts : List (List String)} (h : List.Forall₂ related items texts) :
    StartEach (items.flatMap starts) (linesStarting start texts.flatten) := by
  induction h with
  | nil => exact .nil
  | cons hitem _ ih =>
    rw [List.flatMap_cons, List.flatten_cons, linesStarting_append]
    exact (hrelated _ _ hitem).append ih

theorem linesStarting_flatten {α : Type} (related : α → List String → Prop) (found : α → List String)
    {start : String} (hrelated : ∀ item text, related item text → linesStarting start text = found item)
    {items : List α} {texts : List (List String)} (h : List.Forall₂ related items texts) :
    linesStarting start texts.flatten = items.flatMap found := by
  induction h with
  | nil => rfl
  | cons hitem _ ih =>
    rw [List.flatMap_cons, List.flatten_cons, linesStarting_append, hrelated _ _ hitem, ih]

/-- The line is empty or starts with one of the characters. -/
def HeadIn (chars : List Char) (line : String) : Prop := ∀ c ∈ line.toList.head?, c ∈ chars

theorem HeadIn.mono {chars more : List Char} {line : String} (h : HeadIn chars line) (hmore : chars ⊆ more) :
    HeadIn more line := fun c hc => hmore (h c hc)

theorem linesStarting_eq_nil {start : String} {c : Char} {chars : List Char} {lines : List String}
    (hstart : start.toList.head? = some c) (hc : c ∉ chars) (h : ∀ line ∈ lines, HeadIn chars line) :
    linesStarting start lines = [] := by
  rw [linesStarting, List.filter_eq_nil_iff]
  intro line hline
  rw [List.isPrefixOf_iff_prefix]
  rintro ⟨rest, hrest⟩
  apply hc
  apply h line hline
  rw [← hrest, List.head?_append, hstart]
  rfl

/-! ## Header and body -/

namespace SourceFile

open Indentation Text

def sourceLines (source : Option String) : List String :=
  match source with
  | none | some "" => []
  | some source => ["// source: " ++ source]

/-- One line per import, between parentheses. -/
def importLines (entries : List (String × String)) : List String :=
  match entries with
  | [] => []
  | entries =>
    ["", "import ("] ++ entries.map (fun entry => "\t" ++ entry.2 ++ " \"" ++ entry.1 ++ "\"") ++ [")"]

def headerLines (pluginName : String) (source : Option String) (packageName : String)
    (entries : List (String × String)) : List String :=
  ["// Code generated by protoc-gen-go-" ++ pluginName ++ ". DO NOT EDIT."] ++
    sourceLines source ++ ["", "package " ++ packageName] ++ importLines entries

def headerText (file : SourceFile) : List String :=
  headerLines file.pluginName file.source file.imports.packageName file.imports.sorted

theorem sourceLine_eq (file : SourceFile) : file.sourceLine = unlines (sourceLines file.source) := by
  unfold sourceLine sourceLines
  generalize file.source = source
  split <;> simp [unlines_cons, unlines_nil]

theorem importBlock_eq (file : SourceFile) : file.importBlock = unlines (importLines file.imports.sorted) := by
  unfold importBlock importLines
  cases file.imports.sorted with
  | nil => rw [unlines_nil]
  | cons entry rest =>
    rw [← String.toList_inj]
    simp [unlines, String.toList_join, List.flatMap_map]

theorem header_eq (file : SourceFile) : file.header = unlines file.headerText := by
  unfold header headerText headerLines
  rw [sourceLine_eq, importBlock_eq, unlines_append, unlines_append, unlines_append, ← String.toList_inj]
  simp [unlines_cons, unlines_nil]

theorem content_eq_unlines {file : SourceFile} (hne : file.body ≠ []) :
    file.content = unlines (file.headerText ++ "" :: file.body) := by
  unfold content
  rw [header_eq, unlines_append, unlines_cons, ← intercalate_newline hne]
  simp [String.append_assoc]

theorem split_content {file : SourceFile} (hheader : ∀ line ∈ file.headerText, '\n' ∉ line.toList)
    (hbody : ∀ line ∈ file.body, '\n' ∉ line.toList) (hne : file.body ≠ []) :
    split '\n' file.content = file.headerText ++ "" :: file.body ++ [""] := by
  rw [content_eq_unlines hne, split_unlines]
  intro line hline
  rcases List.mem_append.mp hline with hline | hline
  · exact hheader line hline
  · rcases List.mem_cons.mp hline with rfl | hline
    · simp
    · exact hbody line hline

theorem body_eq {file : SourceFile} {texts before : List String} {last : String} {blanks : Nat}
    (h : Laid 0 file.lines (texts ++ List.replicate blanks "") 0) (htexts : texts = before ++ [last])
    (hlast : last ≠ "") : file.body = texts := by
  unfold body
  rw [h.indentLines_eq, List.reverse_append, List.reverse_replicate, List.dropWhile_append_of_pos, htexts]
  · simp [hlast]
  · intro line hline
    simpa using List.eq_of_mem_replicate hline

theorem split_content_of_laid {file : SourceFile} {texts : List String} {last : String} {blanks : Nat}
    (hheader : ∀ line ∈ file.headerText, '\n' ∉ line.toList)
    (h : Laid 0 file.lines (texts ++ [last] ++ List.replicate blanks "") 0) (hlast : last ≠ "") :
    split '\n' file.content = file.headerText ++ "" :: (texts ++ [last]) ++ [""] := by
  have hbody := body_eq h rfl hlast
  rw [← hbody]
  apply split_content hheader
  · intro line hline
    rw [hbody] at hline
    exact h.oneLine.2 line (List.mem_append_left _ hline)
  · simp [hbody]

theorem perm_insertByPath (entry : String × String) (entries : List (String × String)) :
    (Imports.insertByPath entry entries).Perm (entry :: entries) := by
  induction entries with
  | nil => exact .refl _
  | cons first rest ih =>
    rw [Imports.insertByPath]
    split_ifs
    · exact .refl _
    · exact (ih.cons first).trans (.swap entry first rest)

theorem perm_sorted (table : Imports) : table.sorted.Perm table.aliases := by
  unfold Imports.sorted
  induction table.aliases with
  | nil => exact .refl _
  | cons first rest ih => exact (perm_insertByPath _ _).trans (ih.cons first)

theorem mem_sorted (table : Imports) (entry : String × String) : entry ∈ table.sorted ↔ entry ∈ table.aliases :=
  (perm_sorted table).mem_iff

/-- The texts that the header of a file is made from, apart from the aliases. -/
def headerTexts (file : SourceFile) : List String :=
  file.pluginName :: file.imports.packageName :: (file.source.toList ++ file.imports.aliases.map (·.1))

theorem mem_sourceLines {source : Option String} {line : String} (h : line ∈ sourceLines source) :
    ∃ text ∈ source, line = "// source: " ++ text := by
  unfold sourceLines at h
  split at h
  · cases h
  · cases h
  · exact ⟨_, rfl, List.mem_singleton.mp h⟩

theorem mem_importLines {entries : List (String × String)} {line : String} (h : line ∈ importLines entries) :
    (line = "" ∨ line = "import (" ∨ line = ")") ∨
      ∃ entry ∈ entries, line = "\t" ++ entry.2 ++ " \"" ++ entry.1 ++ "\"" := by
  unfold importLines at h
  split at h
  · cases h
  · simp only [List.mem_append, List.mem_map, List.mem_cons, List.not_mem_nil, or_false] at h
    rcases h with ((h | h) | ⟨entry, hentry, rfl⟩) | h
    · exact Or.inl (Or.inl h)
    · exact Or.inl (Or.inr (Or.inl h))
    · exact Or.inr ⟨entry, hentry, rfl⟩
    · exact Or.inl (Or.inr (Or.inr h))

theorem mem_headerText {file : SourceFile} {line : String} (h : line ∈ file.headerText) :
    (line = "" ∨ line = "import (" ∨ line = ")") ∨
    line = "// Code generated by protoc-gen-go-" ++ file.pluginName ++ ". DO NOT EDIT." ∨
    line = "package " ++ file.imports.packageName ∨
    (∃ source ∈ file.source, line = "// source: " ++ source) ∨
    ∃ entry ∈ file.imports.aliases, line = "\t" ++ entry.2 ++ " \"" ++ entry.1 ++ "\"" := by
  unfold headerText headerLines at h
  simp only [List.mem_append, List.mem_cons, List.not_mem_nil, or_false] at h
  rcases h with ((h | h) | h | h) | h
  · exact Or.inr (Or.inl h)
  · exact Or.inr (Or.inr (Or.inr (Or.inl (mem_sourceLines h))))
  · exact Or.inl (Or.inl h)
  · exact Or.inr (Or.inr (Or.inl h))
  · rcases mem_importLines h with h | ⟨entry, hmem, heq⟩
    · exact Or.inl h
    · exact Or.inr (Or.inr (Or.inr (Or.inr ⟨entry, (mem_sorted _ _).mp hmem, heq⟩)))

theorem newline_not_mem_header {file : SourceFile} (hcons : file.imports.Consistent)
    (h : ∀ text ∈ file.headerTexts, '\n' ∉ text.toList) :
    ∀ line ∈ file.headerText, '\n' ∉ line.toList := by
  simp only [headerTexts, List.forall_mem_cons, List.forall_mem_append] at h
  obtain ⟨hplugin, hpackage, hsource, hpaths⟩ := h
  intro line hline
  rcases mem_headerText hline with (rfl | rfl | rfl) | rfl | rfl | ⟨source, hmem, rfl⟩ | ⟨entry, hmem, rfl⟩
  · simp
  · simp
  · simp
  · simp [hplugin]
  · simp [hpackage]
  · simp [hsource source (by simpa using hmem)]
  · have hpath := hpaths entry.1 (List.mem_map_of_mem hmem)
    have hbound : '\n' ∉ entry.2.toList := (hcons.words entry hmem).1.not_mem (by decide)
    simp [hpath, hbound]

/-- How the lines of a header start. -/
def headerHeads : List Char := ['/', 'p', 'i', '\t', ')']

theorem head_of_mem_header {file : SourceFile} {line : String} (h : line ∈ file.headerText) :
    HeadIn headerHeads line := by
  rcases mem_headerText h with (rfl | rfl | rfl) | rfl | rfl | ⟨source, _, rfl⟩ | ⟨entry, _, rfl⟩ <;>
    simp [HeadIn, headerHeads]

theorem linesStarting_header (file : SourceFile) {start : String} {c : Char}
    (hstart : start.toList.head? = some c) (hc : c ∉ headerHeads) : linesStarting start file.headerText = [] :=
  linesStarting_eq_nil hstart hc fun _ => head_of_mem_header

theorem linesStarting_content {file : SourceFile} {start : String} {texts lines : List String}
    (hlines : lines = file.headerText ++ "" :: texts) (hheader : linesStarting start file.headerText = [])
    (hstart : start ≠ "") : linesStarting start lines = linesStarting start texts := by
  rw [hlines, linesStarting_append, hheader, List.nil_append, linesStarting_blank hstart]

/-! ## Reading the imports back -/

def importEntries (lines : List String) : List String :=
  ((lines.dropWhile (· ≠ "import (")).drop 1).takeWhile (· ≠ ")")

/-- The aliases of the import block: what stands before the first blank of each of its lines. -/
def importAliases (lines : List String) : List String :=
  (importEntries lines).map fun line => String.ofList ((line.toList.drop 1).takeWhile (· ≠ ' '))

theorem importEntries_eq {entries : List (String × String)} {before texts : List String}
    (hbefore : ∀ line ∈ before, line ≠ "import (") (htexts : ∀ line ∈ texts, line ≠ "import (") :
    importEntries (before ++ importLines entries ++ texts) =
      entries.map (fun entry => "\t" ++ entry.2 ++ " \"" ++ entry.1 ++ "\"") := by
  have hdrop : ∀ lines more : List String, (∀ line ∈ lines, line ≠ "import (") →
      (lines ++ more).dropWhile (· ≠ "import (") = more.dropWhile (· ≠ "import (") := by
    intro lines more h
    exact List.dropWhile_append_of_pos fun line hline => by simpa using h line hline
  unfold importEntries
  rw [List.append_assoc, hdrop _ _ hbefore]
  cases entries with
  | nil =>
    have := hdrop texts [] htexts
    rw [List.append_nil] at this
    simp only [importLines, List.nil_append, this]
    rfl
  | cons entry rest =>
    have htake : ∀ line ∈ (entry :: rest).map (fun entry => "\t" ++ entry.2 ++ " \"" ++ entry.1 ++ "\""),
        decide (line ≠ ")") = true := by
      -- an entry starts with a tab, so it does not close the block
      intro line hline
      obtain ⟨other, _, rfl⟩ := List.mem_map.mp hline
      rw [decide_eq_true_eq]
      intro heq
      have := congrArg (fun text => text.toList.head?) heq
      simp at this
    have hblock : importLines (entry :: rest) ++ texts = "" :: "import (" ::
        ((entry :: rest).map (fun entry => "\t" ++ entry.2 ++ " \"" ++ entry.1 ++ "\"") ++ ")" :: texts) := by
      simp [importLines]
    rw [hblock, List.dropWhile_cons_of_pos (by decide), List.dropWhile_cons_of_neg (by decide),
      List.drop_one, List.tail_cons, List.takeWhile_append_of_pos htake, List.takeWhile_cons_of_neg (by decide),
      List.append_nil]

theorem takeWhile_importLine {entry : String × String} (h : Naming.IsWord entry.2) :
    (("\t" ++ entry.2 ++ " \"" ++ entry.1 ++ "\"").toList.drop 1).takeWhile (· ≠ ' ') = entry.2.toList := by
  have hblank : ∀ c ∈ entry.2.toList, decide (c ≠ ' ') = true := by
    intro c hc
    rw [decide_eq_true_eq]
    rintro rfl
    exact h.not_mem (by decide) hc
  have hlist : ("\t" ++ entry.2 ++ " \"" ++ entry.1 ++ "\"").toList =
      '\t' :: (entry.2.toList ++ ' ' :: ("\"" ++ entry.1 ++ "\"").toList) := by simp
  rw [hlist, List.drop_one, List.tail_cons, List.takeWhile_append_of_pos hblank,
    List.takeWhile_cons_of_neg (by decide), List.append_nil]

theorem linesStarting_return_header {file : SourceFile} (hcons : file.imports.Consistent) :
    linesStarting "\treturn &" file.headerText = [] := by
  rw [linesStarting, List.filter_eq_nil_iff]
  intro line hline
  rw [List.isPrefixOf_iff_prefix]
  rintro ⟨rest, hrest⟩
  rcases mem_headerText hline with (rfl | rfl | rfl) | rfl | rfl | ⟨source, _, rfl⟩ | ⟨entry, hentry, rfl⟩
  · simp at hrest
  · simp at hrest
  · simp at hrest
  · simp at hrest
  · simp at hrest
  · simp at hrest
  · obtain ⟨hword, hkeyword⟩ := hcons.words entry hentry
    have hbound := takeWhile_importLine hword
    rw [← hrest] at hbound
    have hreturn : entry.2 = "return" := by
      rw [← String.toList_inj, ← hbound]
      simp
    exact hkeyword (by rw [hreturn]; decide)

theorem ne_import_of_mem {pluginName packageName line : String} {source : Option String}
    (h : line ∈ ["// Code generated by protoc-gen-go-" ++ pluginName ++ ". DO NOT EDIT."] ++ sourceLines source ++
      ["", "package " ++ packageName]) : line ≠ "import (" := by
  have hhead : ∀ line : String, line.toList.head? ≠ some 'i' → line ≠ "import (" := by
    rintro line h rfl
    exact h (by simp)
  apply hhead
  simp only [List.mem_append, List.mem_cons, List.not_mem_nil, or_false] at h
  rcases h with (rfl | h) | rfl | rfl
  · simp
  · obtain ⟨source, _, rfl⟩ := mem_sourceLines h
    simp
  · simp
  · simp

theorem importEntries_header (file : SourceFile) {texts : List String} (htexts : ∀ line ∈ texts, line ≠ "import (") :
    importEntries (file.headerText ++ texts) =
      file.imports.sorted.map fun entry => "\t" ++ entry.2 ++ " \"" ++ entry.1 ++ "\"" :=
  importEntries_eq (fun _ => ne_import_of_mem) htexts

theorem importAliases_eq {file : SourceFile} {texts lines : List String} (hcons : file.imports.Consistent)
    (hlines : lines = file.headerText ++ "" :: texts) (htexts : ∀ line ∈ texts, line ≠ "import (") :
    importAliases lines = file.imports.sorted.map (·.2) := by
  have htexts : ∀ line ∈ "" :: texts, line ≠ "import (" := by
    rw [List.forall_mem_cons]
    exact ⟨by decide, htexts⟩
  rw [importAliases, hlines, importEntries_header file htexts, List.map_map]
  apply List.map_congr_left
  intro entry hentry
  have hword := (hcons.words entry ((mem_sorted _ _).mp hentry)).1
  simp only [Function.comp_apply]
  rw [takeWhile_importLine hword, String.ofList_toList]

end SourceFile

end RpcClients
