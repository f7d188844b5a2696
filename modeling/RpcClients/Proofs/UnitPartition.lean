import Mathlib.Data.List.Induction
import RpcClients.Proofs.Grouping

/-! # How files fall into units

Units can be told from the files alone: there is one for each import path, in the order in which the paths
are first seen, and it holds all files with that path. Grouping finds these units unless two files of one
path disagree on the package name, and then it fails. -/

namespace RpcClients

variable {α : Type} [DecidableEq α]

theorem eraseDups_concat (items : List α) (item : α) :
    (items ++ [item]).eraseDups = if item ∈ items then items.eraseDups else items.eraseDups ++ [item] := by
  rw [List.eraseDups_append]
  split_ifs with hitem <;> simp [List.removeAll, List.eraseDups_cons, hitem]

theorem nodup_eraseDups (items : List α) : items.eraseDups.Nodup := by
  induction items using List.reverseRecOn with
  | nil => simp
  | append_singleton items item ih =>
    rw [eraseDups_concat]
    split_ifs with hitem
    · exact ih
    · simpa [List.nodup_append] using And.intro ih (fun other hother => ne_of_mem_of_not_mem hother hitem)

namespace GenerationUnit

/-- Files with one import path have one package name. -/
def PackagesAgree (files : List File) : Prop :=
  ∀ file ∈ files, ∀ other ∈ files, file.importPath = other.importPath → file.packageName = other.packageName

instance (files : List File) : Decidable (PackagesAgree files) :=
  inferInstanceAs (Decidable (∀ file ∈ files, ∀ other ∈ files,
    file.importPath = other.importPath → file.packageName = other.packageName))

/-- All files with a path, under the package name of the first of them. -/
def atPath (files : List File) (path : String) : GenerationUnit :=
  let here := files.filter (·.importPath = path)
  ⟨path, (here.head?.map (·.packageName)).getD "", here⟩

/-- The units of files, in the order of their first files. -/
def partition (files : List File) : List GenerationUnit :=
  (files.map (·.importPath)).eraseDups.map (atPath files)

/-- The units with services of the files that are marked for generation. -/
def unitsOf (files : List File) : List GenerationUnit :=
  (partition (files.filter (·.generate))).filter hasServices

/-! ## One more file -/

theorem PackagesAgree.of_append {files : List File} {file : File} (h : PackagesAgree (files ++ [file])) :
    PackagesAgree files := by
  intro first hfirst second hsecond
  exact h first (List.mem_append_left _ hfirst) second (List.mem_append_left _ hsecond)

theorem packagesAgree_append_iff {files : List File} {file : File} (h : PackagesAgree files) :
    PackagesAgree (files ++ [file]) ↔
      ∀ other ∈ files, other.importPath = file.importPath → other.packageName = file.packageName := by
  constructor
  · intro hall other hother hpath
    exact hall other (List.mem_append_left _ hother) file (by simp) hpath
  · intro hfile first hfirst second hsecond hpath
    rw [List.mem_append, List.mem_singleton] at hfirst hsecond
    rcases hfirst with hfirst | rfl <;> rcases hsecond with hsecond | rfl
    · exact h first hfirst second hsecond hpath
    · exact hfile first hfirst hpath
    · exact (hfile second hsecond hpath.symm).symm
    · rfl

theorem atPath_append_of_ne {file : File} {path : String} (files : List File) (h : file.importPath ≠ path) :
    atPath (files ++ [file]) path = atPath files path := by
  simp [atPath, h]

theorem atPath_append_of_mem {files : List File} {file other : File} (hother : other ∈ files)
    (hpath : other.importPath = file.importPath) :
    atPath (files ++ [file]) file.importPath =
      { atPath files file.importPath with files := (atPath files file.importPath).files ++ [file] } := by
  have hne : files.filter (·.importPath = file.importPath) ≠ [] := by
    apply List.ne_nil_of_mem
    simpa using And.intro hother hpath
  obtain ⟨first, rest, hhere⟩ := List.exists_cons_of_ne_nil hne
  simp [atPath, hhere]

theorem atPath_append_of_not_mem {files : List File} {file : File}
    (h : ∀ other ∈ files, other.importPath ≠ file.importPath) :
    atPath (files ++ [file]) file.importPath = ⟨file.importPath, file.packageName, [file]⟩ := by
  have hnone : files.filter (·.importPath = file.importPath) = [] := by
    simpa [List.filter_eq_nil_iff] using h
  simp [atPath, hnone]

theorem PackagesAgree.packageName_atPath {files : List File} (h : PackagesAgree files) {file : File}
    (hfile : file ∈ files) : (atPath files file.importPath).packageName = file.packageName := by
  have hmem : file ∈ files.filter (·.importPath = file.importPath) := by simpa using hfile
  obtain ⟨first, rest, hhere⟩ := List.exists_cons_of_ne_nil (List.ne_nil_of_mem hmem)
  have hfirst : first ∈ files.filter (·.importPath = file.importPath) := by simp [hhere]
  simp only [List.mem_filter, decide_eq_true_eq] at hfirst
  simpa [atPath, hhere] using h first hfirst.1 file hfile hfirst.2

/-! ## Insertion -/

theorem insert_of_not_mem {file : File} {units : List GenerationUnit}
    (h : ∀ unit ∈ units, unit.importPath ≠ file.importPath) :
    insert file units = .ok (units ++ [⟨file.importPath, file.packageName, [file]⟩]) := by
  induction units with
  | nil => rfl
  | cons unit rest ih =>
    rw [List.forall_mem_cons] at h
    rw [insert, if_neg h.1, ih h.2]
    rfl

theorem insert_of_mem {file : File} {before after : List GenerationUnit} {unit : GenerationUnit}
    (hbefore : ∀ other ∈ before, other.importPath ≠ file.importPath)
    (hpath : unit.importPath = file.importPath) :
    insert file (before ++ unit :: after) =
      if unit.packageName = file.packageName then
        .ok (before ++ { unit with files := unit.files ++ [file] } :: after)
      else .error (.grouping
        (.packageName file.name file.packageName file.importPath unit.packageName)) := by
  induction before with
  | nil => rw [List.nil_append, insert, if_pos hpath, List.nil_append]
  | cons other rest ih =>
    rw [List.forall_mem_cons] at hbefore
    rw [List.cons_append, insert, if_neg hbefore.1, ih hbefore.2]
    split_ifs <;> rfl

theorem insert_partition_of_new {files : List File} {file : File}
    (h : ∀ other ∈ files, other.importPath ≠ file.importPath) :
    insert file (partition files) = .ok (partition (files ++ [file])) := by
  have hpaths : file.importPath ∉ files.map (·.importPath) := by simpa using h
  have hunits : ∀ unit ∈ partition files, unit.importPath ≠ file.importPath := by
    simpa [partition, atPath] using h
  rw [insert_of_not_mem hunits, partition, partition, List.map_append, List.map_singleton, eraseDups_concat,
    if_neg hpaths, List.map_append, List.map_singleton, atPath_append_of_not_mem h]
  congr 2
  apply List.map_congr_left
  intro path hpath
  rw [List.mem_eraseDups] at hpath
  exact (atPath_append_of_ne files (ne_of_mem_of_not_mem hpath hpaths).symm).symm

theorem insert_partition_of_known {files : List File} {file other : File} (hother : other ∈ files)
    (hpath : other.importPath = file.importPath) :
    insert file (partition files) =
      if (atPath files file.importPath).packageName = file.packageName then .ok (partition (files ++ [file]))
      else .error (.grouping (.packageName file.name file.packageName file.importPath
        (atPath files file.importPath).packageName)) := by
  have hpaths : file.importPath ∈ files.map (·.importPath) := List.mem_map.mpr ⟨other, hother, hpath⟩
  obtain ⟨before, after, hsplit, hbefore⟩ := List.eq_append_cons_of_mem (List.mem_eraseDups.mpr hpaths)
  have hnodup := nodup_eraseDups (files.map (·.importPath))
  rw [hsplit] at hnodup
  have hafter : file.importPath ∉ after := (List.nodup_cons.mp (List.nodup_append.mp hnodup).2.1).1
  have hkept : ∀ paths : List String, file.importPath ∉ paths →
      paths.map (atPath (files ++ [file])) = paths.map (atPath files) := by
    intro paths hnot
    apply List.map_congr_left
    intro path hmem
    exact atPath_append_of_ne files (ne_of_mem_of_not_mem hmem hnot).symm
  have hold : partition files = before.map (atPath files) ++ atPath files file.importPath ::
      after.map (atPath files) := by
    rw [partition, hsplit, List.map_append, List.map_cons]
  have hnew : partition (files ++ [file]) = before.map (atPath files) ++
      { atPath files file.importPath with files := (atPath files file.importPath).files ++ [file] } ::
        after.map (atPath files) := by
    rw [partition, List.map_append, List.map_singleton, eraseDups_concat, if_pos hpaths, hsplit,
      List.map_append, List.map_cons, hkept before hbefore, hkept after hafter,
      atPath_append_of_mem hother hpath]
  rw [hold, hnew, insert_of_mem _ rfl]
  simpa [atPath] using fun path hmem => ne_of_mem_of_not_mem hmem hbefore

theorem insert_partition {files : List File} {file : File} (h : PackagesAgree (files ++ [file])) :
    insert file (partition files) = .ok (partition (files ++ [file])) := by
  by_cases hknown : ∃ other ∈ files, other.importPath = file.importPath
  · obtain ⟨other, hother, hpath⟩ := hknown
    rw [insert_partition_of_known hother hpath, if_pos]
    rw [← hpath, h.of_append.packageName_atPath hother]
    exact (packagesAgree_append_iff h.of_append).mp h other hother hpath
  · push Not at hknown
    exact insert_partition_of_new hknown

theorem insert_partition_error {files : List File} {file : File} (h : PackagesAgree files)
    (hnot : ¬ PackagesAgree (files ++ [file])) :
    ∃ problem, insert file (partition files) = .error (.grouping problem) := by
  rw [packagesAgree_append_iff h] at hnot
  push Not at hnot
  obtain ⟨other, hother, hpath, hname⟩ := hnot
  rw [insert_partition_of_known hother hpath, if_neg]
  · exact ⟨_, rfl⟩
  · rwa [← hpath, h.packageName_atPath hother]

/-! ## Grouping -/

theorem foldlM_concat (files : List File) (file : File) :
    (files ++ [file]).foldlM (fun units file => insert file units) [] =
      files.foldlM (fun units file => insert file units) [] >>= insert file := by
  simp only [List.foldlM_append, List.foldlM_cons, List.foldlM_nil, bind_pure]

/-- The units after each file are those of the files so far. -/
theorem foldlM_insert {files : List File} (h : PackagesAgree files) :
    files.foldlM (fun units file => insert file units) [] = .ok (partition files) := by
  induction files using List.reverseRecOn with
  | nil => rfl
  | append_singleton files file ih =>
    rw [foldlM_concat, ih h.of_append]
    exact insert_partition h

theorem foldlM_insert_error {files : List File} (h : ¬ PackagesAgree files) :
    ∃ problem, files.foldlM (fun units file => insert file units) [] = .error (.grouping problem) := by
  induction files using List.reverseRecOn with
  | nil => exact absurd (by simp [PackagesAgree]) h
  | append_singleton files file ih =>
    rw [foldlM_concat]
    by_cases hfiles : PackagesAgree files
    · rw [foldlM_insert hfiles]
      exact insert_partition_error hfiles h
    · obtain ⟨problem, hproblem⟩ := ih hfiles
      exact ⟨problem, by rw [hproblem]; rfl⟩

theorem group_eq {files : List File} (h : PackagesAgree (files.filter (·.generate))) :
    group files = .ok (unitsOf files) := by
  rw [group, gather, foldlM_insert h]
  rfl

theorem group_error {files : List File} (h : ¬ PackagesAgree (files.filter (·.generate))) :
    ∃ problem, group files = .error (.grouping problem) := by
  obtain ⟨problem, hproblem⟩ := foldlM_insert_error h
  refine ⟨problem, ?_⟩
  rw [group, gather, hproblem]
  rfl

theorem mem_of_mem_unitsOf {files : List File} {unit : GenerationUnit} (h : unit ∈ unitsOf files) :
    ∃ file ∈ files, unit.importPath = file.importPath ∧ unit.files ⊆ files := by
  obtain ⟨hunit, _⟩ := List.mem_filter.mp h
  obtain ⟨path, hpath, rfl⟩ := List.mem_map.mp hunit
  rw [List.mem_eraseDups] at hpath
  obtain ⟨file, hfile, rfl⟩ := List.mem_map.mp hpath
  refine ⟨file, (List.mem_filter.mp hfile).1, rfl, ?_⟩
  intro other hother
  exact (List.mem_filter.mp (List.mem_filter.mp hother).1).1

end GenerationUnit

end RpcClients
