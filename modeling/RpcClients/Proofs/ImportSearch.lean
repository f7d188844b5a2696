import RpcClients.Proofs.SourceProblems
import RpcClients.Proofs.LoggedSteps
import RpcClients.Proofs.RelatedReaders
import RpcClients.Proofs.SoundDescriptors
import RpcClients.Workspace

/-! # What an import leads to

The file that a search gives has the name that was searched for. What it imports in turn is written in a
file of the tree, and there are fewer of these names than characters. A search blames a name only if no
directory holds it. -/

namespace RpcClients.Proto

open Schema RpcClients.Proto.Parser

/-! ## Imports of a text -/

def dependenciesOf (text : List Char) : List String :=
  match SourceTree.ofText text with
  | .error _ => []
  | .ok tree => tree.imports.filterMap fun item => Text.ofCodes? item.2

theorem name_of_parse {text name : String} {file : FileDescriptor} (h : parse text name = .ok file) :
    file.name = name := by
  obtain ⟨tree, _, h⟩ := parse_ok_iff.mp h
  obtain ⟨_, parts, _, rfl⟩ := SourceTree.described_ok_iff.mp h
  rfl

theorem encodable_ok_iff {codes : List Nat} {text : String} :
    encodable codes = .ok text ↔ Text.ofCodes? codes = some text := by
  unfold encodable
  cases Text.ofCodes? codes <;> simp

theorem filterMap_eq_of_forall₂ {α β : Type} {f : α → Option β} {items : List α} {values : List β}
    (h : List.Forall₂ (fun item value => f item = some value) items values) : items.filterMap f = values := by
  induction h with
  | nil => rfl
  | cons hvalue _ ih => rw [List.filterMap_cons_some hvalue, ih]

theorem dependencies_of_parse {text name : String} {file : FileDescriptor} (h : parse text name = .ok file) :
    file.dependencies = dependenciesOf text.toList := by
  obtain ⟨tree, htree, h⟩ := parse_ok_iff.mp h
  obtain ⟨_, parts, hparts, rfl⟩ := SourceTree.described_ok_iff.mp h
  unfold dependenciesOf
  rw [htree]
  exact (filterMap_eq_of_forall₂ (hparts.dependencies.imp fun _ _ => encodable_ok_iff.mp)).symm

/-- The rule reads fewer items than `bound`. -/
def ReadsFewer {α : Type} (bound : Nat) (rule : Parser (List α)) : Prop :=
  ∀ reader found after, rule.run reader = .ok (found, after) → found.length < bound

section ReadsFewer

variable {α β : Type} {bound : Nat}

theorem readsFewer_fail : ReadsFewer bound (fail : Parser (List α)) := by
  intro reader found after h
  cases h

theorem ReadsFewer.mono {rule : Parser (List α)} (h : ReadsFewer bound rule) : ReadsFewer (bound + 1) rule :=
  fun reader found after hrun => Nat.lt_succ_of_lt (h reader found after hrun)

theorem ReadsFewer.after {rest : β → Parser (List α)} (rule : Parser β)
    (h : ∀ value, ReadsFewer bound (rest value)) : ReadsFewer bound (rule >>= rest) := by
  intro reader found after hrun
  obtain ⟨value, middle, _, hrest⟩ := run_bind_ok_iff.mp hrun
  exact h value middle found after hrest

theorem ReadsFewer.cons {rule : Parser (List α)} (h : ReadsFewer bound rule) (item : α) :
    ReadsFewer (bound + 1) (do return item :: (← rule)) := by
  intro reader found after hrun
  obtain ⟨rest, middle, hrule, hpure⟩ := run_bind_ok_iff.mp hrun
  cases hpure
  exact Nat.succ_lt_succ (h reader rest after hrule)

end ReadsFewer

theorem readsFewer_statements (fuel : Nat) : ReadsFewer fuel (statements fuel) := by
  induction fuel with
  | zero => exact readsFewer_fail
  | succ fuel ih =>
    unfold statements
    refine .after _ fun kind => ?_
    split
    · intro reader found after h
      cases h
      exact Nat.succ_pos fuel
    · exact .after _ fun _ => ih.mono
    · exact .after _ fun _ => .after _ fun _ => .after _ fun name => .after _ fun _ => ih.cons _
    · exact .after _ fun _ => .after _ fun name => .after _ fun _ => ih.cons _
    · exact .after _ fun _ => .after _ fun statement => ih.cons _
    · refine .after _ fun _ => .after _ fun value => ?_
      cases value with
      | none => exact ih.mono
      | some value => exact ih.cons _
    · exact .after _ fun _ => .after _ fun name => .after _ fun _ => .after _ fun _ => .after _ fun items => ih.cons _
    · exact .after _ fun _ => .after _ fun enum => ih.cons _
    · exact .after _ fun _ => .after _ fun service => ih.cons _
    · exact .after _ fun _ => .after _ fun _ => ih.mono
    · exact readsFewer_fail

theorem length_dependenciesOf_le (text : List Char) : (dependenciesOf text).length ≤ text.length := by
  unfold dependenciesOf
  split
  · exact Nat.zero_le _
  · rename_i tree htree
    obtain ⟨⟨found, reader⟩, hrun, h⟩ := except_bind_ok_iff.mp htree
    obtain rfl := except_pure_ok_iff.mp h
    have hfound : found.length < text.length + 1 := readsFewer_statements _ _ _ _ hrun
    refine Nat.le_trans (List.length_filterMap_le _ _) ?_
    exact Nat.le_trans (List.length_filterMap_le _ found) (Nat.le_of_lt_succ hfound)

/-! ## Failures that name an import -/

/-- The result is no failure that names an import. -/
def BlamesNoImport {α : Type} (result : Except Failure α) : Prop :=
  ∀ name, result ≠ .error (.descriptor (.missingImport name))

section BlamesNoImport

variable {α β : Type}

theorem blamesNoImport_ok (value : α) : BlamesNoImport (.ok value) := by
  intro name h
  cases h

theorem blamesNoImport_fault (fault : Fault) : BlamesNoImport (.error (.fault fault) : Except Failure α) := by
  intro name h
  cases h

theorem BlamesNoImport.bind {step : Except Failure α} {rest : α → Except Failure β} (hstep : BlamesNoImport step)
    (hrest : ∀ value, BlamesNoImport (rest value)) : BlamesNoImport (step >>= rest) := by
  intro name h
  rcases except_bind_error_iff.mp h with h | ⟨value, _, h⟩
  · exact hstep name h
  · exact hrest value name h

end BlamesNoImport

theorem blamesNoImport_parse (text name : String) : BlamesNoImport (parse text name) := by
  intro missing h
  rcases parse_cases text name with ⟨file, hparse, _⟩ | ⟨problem, hparse, _⟩
  · cases hparse.symm.trans h
  · have hfailure := Except.error.inj (hparse.symm.trans h)
    cases problem <;> cases hfailure

end RpcClients.Proto

namespace RpcClients.FileTree

open Schema

variable {tree : FileTree}

/-! ## Files of the tree -/

def Content.imports : Content → List String
  | text content => Proto.dependenciesOf (lineFeeds content.toList)
  | notText => []

def importable (tree : FileTree) : List String := tree.files.flatMap fun file => file.2.imports

theorem mem_of_follow {dir place : Place} {parts : List String} {content : Content}
    (h : tree.follow dir parts = .file place content) : (place, content) ∈ tree.files := by
  induction parts generalizing dir with
  | nil => cases h
  | cons part rest ih =>
    simp only [follow] at h
    split_ifs at h
    · exact ih h
    · exact ih h
    · split at h
      · rename_i hlookup
        cases h
        obtain ⟨before, after, hfiles, _⟩ := List.lookup_eq_some_iff.mp hlookup
        simp [hfiles]
      · cases h
    · split at h
      · cases h
      · cases h

theorem mem_of_read {path : Path} {text : String} (h : tree.read path = .ok text) :
    ∃ file ∈ tree.files, file.2.read = .ok text := by
  unfold read at h
  split_ifs at h
  split at h
  · rename_i hspot
    unfold spot spotWritten at hspot
    split_ifs at hspot
    exact ⟨_, mem_of_follow hspot, h⟩
  all_goals cases h

theorem dependencies_of_content {content : Content} {text name : String} {file : FileDescriptor}
    (hread : content.read = .ok text) (h : Proto.parse text name = .ok file) :
    file.dependencies = content.imports := by
  cases content with
  | text content =>
    cases hread
    rw [Proto.dependencies_of_parse h, String.toList_ofList, Content.imports]
  | notText => cases hread

theorem parseFile_ok_iff {path : Path} {name : String} {file : FileDescriptor} :
    tree.parseFile path name = .ok file ↔ ∃ text, tree.read path = .ok text ∧ Proto.parse text name = .ok file := by
  unfold parseFile
  cases tree.read path <;> simp

theorem name_of_parseFile {path : Path} {name : String} {file : FileDescriptor}
    (h : tree.parseFile path name = .ok file) : file.name = name := by
  obtain ⟨text, _, h⟩ := parseFile_ok_iff.mp h
  exact Proto.name_of_parse h

theorem dependencies_of_parseFile {path : Path} {name : String} {file : FileDescriptor}
    (h : tree.parseFile path name = .ok file) : file.dependencies ⊆ tree.importable := by
  obtain ⟨text, htext, h⟩ := parseFile_ok_iff.mp h
  obtain ⟨source, hsource, hread⟩ := mem_of_read htext
  rw [dependencies_of_content hread h]
  exact fun dependency hdependency => List.mem_flatMap.mpr ⟨source, hsource, hdependency⟩

theorem blamesNoImport_parseFile (path : Path) (name : String) :
    Proto.BlamesNoImport (tree.parseFile path name) := by
  unfold parseFile
  split
  · exact Proto.blamesNoImport_fault _
  · exact Proto.blamesNoImport_parse _ _

theorem length_lineFeeds_le (text : List Char) : (lineFeeds text).length ≤ text.length := by
  fun_induction lineFeeds text with
  | case1 rest ih => exact Nat.succ_le_succ (Nat.le_succ_of_le ih)
  | case2 rest _ ih => exact Nat.succ_le_succ ih
  | case3 c rest _ _ ih => exact Nat.succ_le_succ ih
  | case4 => exact Nat.le_refl _

theorem length_imports_le (content : Content) : content.imports.length ≤ content.length := by
  cases content with
  | text content =>
    calc (Proto.dependenciesOf (lineFeeds content.toList)).length ≤ (lineFeeds content.toList).length :=
          Proto.length_dependenciesOf_le _
      _ ≤ content.toList.length := length_lineFeeds_le _
      _ = content.length := String.length_toList
  | notText => exact Nat.le_refl 0

/-- There are fewer names to import than rounds of imports. -/
theorem length_importable_lt : tree.importable.length < tree.importRounds := by
  unfold importable importRounds
  induction tree.files with
  | nil => exact Nat.zero_lt_two
  | cons file rest ih =>
    have hlength := length_imports_le file.2
    rw [List.flatMap_cons, List.length_append, List.foldr_cons]
    simp only at ih ⊢
    omega

/-! ## Searches -/

theorem firstFile?_eq_none {paths : List Path} (h : tree.firstFile? paths = .ok none) :
    ∀ path ∈ paths, tree.isFile path = .ok false := by
  induction paths with
  | nil => nofun
  | cons path rest ih =>
    obtain ⟨isFile, hfile, h⟩ := except_bind_ok_iff.mp h
    cases isFile with
    | true => cases h
    | false => exact List.forall_mem_cons.mpr ⟨hfile, ih h⟩

theorem steady_findImport (dirs : List Path) (name : String) : (tree.findImport dirs name).Steady := by
  unfold findImport
  split
  · exact Logged.steady_throw _
  · exact (Logged.steady_debug _).bind fun _ => Logged.steady_ofExcept _
  · split
    · exact Logged.steady_pure _
    · exact Logged.steady_throw _

theorem findImport_cases (tree : FileTree) (dirs : List Path) (name : String) :
    (∃ fault, (tree.findImport dirs name).answer = .error (.fault fault)) ∨
      (∃ path, (tree.findImport dirs name).answer = tree.parseFile path name) ∨
      (∃ file, Schema.WellKnown.file? name = some file ∧ (tree.findImport dirs name).answer = .ok file) ∨
      (∀ dir ∈ dirs, tree.isFile (dir.join (Path.ofText name)) = .ok false) ∧
        Schema.WellKnown.file? name = none ∧
        (tree.findImport dirs name).answer = .error (.descriptor (.missingImport name)) := by
  unfold findImport
  split
  · rename_i fault _
    exact .inl ⟨fault, rfl⟩
  · rename_i path _
    refine .inr (.inl ⟨path, ?_⟩)
    rw [Logged.answer_bind _ fun _ => Logged.steady_ofExcept _, Logged.answer_debug]
    exact Logged.answer_ofExcept _
  · rename_i hnone
    have habsent := List.forall_mem_map.mp (firstFile?_eq_none hnone)
    split
    · rename_i file hfile
      exact .inr (.inr (.inl ⟨file, hfile, rfl⟩))
    · rename_i hunknown
      exact .inr (.inr (.inr ⟨habsent, hunknown, rfl⟩))

theorem dependencies_wellKnown {name : String} {file : FileDescriptor}
    (h : Schema.WellKnown.file? name = some file) : file.dependencies = [] := by
  have hnone : ∀ file ∈ Schema.WellKnown.files, file.dependencies = [] := by
    simp only [Schema.WellKnown.files, List.forall_mem_cons, List.not_mem_nil, false_imp_iff, implies_true, and_true]
    exact ⟨rfl, rfl, rfl, rfl, rfl, rfl, rfl⟩
  exact hnone file (List.mem_of_find?_eq_some h)

/-- A search that succeeds gives a file of the name, and what that imports is written in the tree. -/
theorem findImport_ok {dirs : List Path} {name : String} {file : FileDescriptor}
    (h : (tree.findImport dirs name).answer = .ok file) :
    file.name = name ∧ file.dependencies ⊆ tree.importable := by
  rcases findImport_cases tree dirs name with ⟨fault, herror⟩ | ⟨path, hpath⟩ | ⟨known, hknown, hfile⟩ |
    ⟨_, _, herror⟩
  · rw [h] at herror
    cases herror
  · rw [h] at hpath
    exact ⟨name_of_parseFile hpath.symm, dependencies_of_parseFile hpath.symm⟩
  · rw [h] at hfile
    cases hfile
    rw [dependencies_wellKnown hknown]
    exact ⟨by simpa using List.find?_some hknown, List.nil_subset _⟩
  · rw [h] at herror
    cases herror

theorem findImport_missing {dirs : List Path} {name missing : String}
    (h : (tree.findImport dirs name).answer = .error (.descriptor (.missingImport missing))) :
    missing = name ∧ (∀ dir ∈ dirs, tree.isFile (dir.join (Path.ofText name)) = .ok false) ∧
      Schema.WellKnown.file? name = none := by
  rcases findImport_cases tree dirs name with ⟨fault, herror⟩ | ⟨path, hpath⟩ | ⟨known, _, hfile⟩ |
    ⟨habsent, hunknown, herror⟩
  · rw [h] at herror
    cases herror
  · exact absurd (hpath.symm.trans h) (blamesNoImport_parseFile path name missing)
  · rw [h] at hfile
    cases hfile
  · rw [h] at herror
    cases herror
    exact ⟨rfl, habsent, hunknown⟩

end RpcClients.FileTree
